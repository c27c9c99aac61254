/-
This file says what becomes of a run whose configuration file is damaged: the file
is no document, or it is no UTF-8 at all. It is refused as invalid, with its path,
unless one of three things comes first.

Bytes that are not UTF-8 are refused by the decoder, and the fault in them is
reported in place of the file. A decimal integer with too many digits is reported
for itself where the reading comes to it before it comes to what is wrong. And a
file is read with a line feed in place of every carriage return, so that one whose
only flaw are carriage returns without a line feed is taken for the document that
it would be with line feeds.

Nothing else saves a damaged file: where it is UTF-8, every carriage return has its
line feed and the reading comes to no integer that is too long, it is refused as
invalid.

Lists and tables are read here to any depth. A reader that calls itself for each of
them needs a limit to the depth, and a file beyond that limit is out of scope.
-/

import PolyIntake.Proofs.Selection
import PolyIntake.Proofs.TomlCharacters
import PolyIntake.Proofs.TomlLongIntegers

namespace PolyIntake

namespace Toml

/-! ### Carriage returns -/

/-- A carriage return stands in a text that has no line feed behind it. -/
def HasLoneReturn (text : List Char) : Prop :=
  ∃ before behind, text = before ++ '\r' :: behind ∧ '\n' ∉ behind.head?

/-- A lone carriage return is the first character, or it stands behind it. -/
theorem hasLoneReturn_cons_iff {char : Char} {text : List Char} :
    HasLoneReturn (char :: text) ↔ (char = '\r' ∧ '\n' ∉ text.head?) ∨ HasLoneReturn text := by
  constructor
  · rintro ⟨before, behind, same, noBreak⟩
    cases before with
    | nil =>
      cases same
      exact .inl ⟨rfl, noBreak⟩
    | cons first before =>
      cases same
      exact .inr ⟨before, behind, rfl, noBreak⟩
  · rintro (⟨rfl, noBreak⟩ | ⟨before, behind, rfl, noBreak⟩)
    · exact ⟨[], text, rfl, noBreak⟩
    · exact ⟨char :: before, behind, rfl, noBreak⟩

theorem HasLoneReturn.mem {text : List Char} (lone : HasLoneReturn text) : '\r' ∈ text := by
  obtain ⟨before, behind, rfl, -⟩ := lone
  exact List.mem_append_right before List.mem_cons_self

/-- Where every carriage return has its line feed, only ends of lines are read as such. -/
theorem normalizeLineEnds_eq_unifyBreaks {text : List Char} (paired : ¬HasLoneReturn text) :
    Source.normalizeLineEnds text = unifyBreaks text := by
  fun_induction unifyBreaks text with
  | case1 rest inductionHypothesis =>
    rw [hasLoneReturn_cons_iff, hasLoneReturn_cons_iff, not_or, not_or] at paired
    rw [Source.normalizeLineEnds, inductionHypothesis paired.2.2]
  | case2 char rest noBreak inductionHypothesis =>
    rw [hasLoneReturn_cons_iff, not_or, not_and, not_not] at paired
    have plain : char ≠ '\r' := by
      intro isReturn
      obtain ⟨rest, rfl⟩ := List.head?_eq_some_iff.mp (paired.1 isReturn)
      exact noBreak rest isReturn rfl
    rw [Source.normalizeLineEnds.eq_4 _ _ (fun _ isReturn _ => plain isReturn) plain,
      inductionHypothesis paired.2]
  | case3 => rfl

theorem return_not_mem_normalizeLineEnds (text : List Char) :
    '\r' ∉ Source.normalizeLineEnds text := by
  fun_induction Source.normalizeLineEnds text with
  | case1 => exact List.not_mem_nil
  | case2 rest inductionHypothesis => simpa using inductionHypothesis
  | case3 rest _ inductionHypothesis => simpa using inductionHypothesis
  | case4 char rest _ plain inductionHypothesis =>
    exact List.not_mem_cons_of_ne_of_not_mem (Ne.symm plain) inductionHypothesis

/-- Where no carriage return stands, nothing is read as anything else. -/
theorem normalizeLineEnds_of_not_mem {text : List Char} (absent : '\r' ∉ text) :
    Source.normalizeLineEnds text = text := by
  fun_induction Source.normalizeLineEnds text with
  | case1 => rfl
  | case2 => exact absurd List.mem_cons_self absent
  | case3 => exact absurd List.mem_cons_self absent
  | case4 char rest _ _ inductionHypothesis =>
    rw [inductionHypothesis (List.not_mem_of_not_mem_cons absent)]

/-! ### Damaged files -/

/-- Bytes are those of one text at most, so that a file is a document as one text only. -/
theorem isFile_encode_iff {text : List Char} :
    IsFile (Utf8.encode text) ↔ IsDocument (unifyBreaks text) := by
  constructor
  · rintro ⟨text', same, isDocument⟩
    rwa [Utf8.encode_injective same]
  · exact fun isDocument => ⟨text, rfl, isDocument⟩

end Toml

/-- The surroundings in which a file with other content stands at a path. -/
def Surroundings.holding (surroundings : Surroundings) (path : String) (content : List UInt8) :
    Surroundings :=
  { surroundings with
    look := fun other => if other = path then .file (.ok content) else surroundings.look other }

namespace Settings

open Toml

variable {surroundings : Surroundings} {named start : Option String} {path : String}
  {content : List UInt8}

/-! ### Reading the file -/

/-- What is wrong with the fields of the configuration file is wrong with the settings. -/
theorem load_of_readFile_error {error : LoadError}
    (chosen : chooseFile surroundings named start = .ok (some path))
    (refused : readFile surroundings path = .error error) (flags : Fields) :
    load surroundings named start flags = .error error := by
  rw [load_eq, chosen]
  dsimp only [bind, Except.bind]
  rw [storedFields, refused]

/-- A text that comes to an integer that is too long is refused for that. -/
theorem readFile_of_isOverlong {text : List Char} {count : Nat}
    (holds : surroundings.look path = .file (.ok (Utf8.encode text)))
    (overlong : IsOverlong count (Source.normalizeLineEnds text)) :
    readFile surroundings path = .error (.overlong count) := by
  rw [readFile_encode holds, parse_eq_overlong_iff.mpr overlong]
  rfl

/-- A text that is no document is refused as invalid where it comes to no such integer. -/
theorem readFile_of_not_isDocument {text : List Char}
    (holds : surroundings.look path = .file (.ok (Utf8.encode text)))
    (damaged : ¬IsDocument (Source.normalizeLineEnds text))
    (short : ∀ count, ¬IsOverlong count (Source.normalizeLineEnds text)) :
    readFile surroundings path = .error (.invalidFile path) := by
  rw [readFile_encode holds, parse_eq_malformed_iff.mpr ⟨damaged, short⟩]
  rfl

/-- Line feeds in place of carriage returns change nothing for the run. -/
theorem load_holding_normalized {text : List Char}
    (chosen : chooseFile surroundings named start = .ok (some path))
    (holds : surroundings.look path = .file (.ok (Utf8.encode text))) (flags : Fields) :
    load surroundings named start flags =
      load (surroundings.holding path (Utf8.encode (Source.normalizeLineEnds text))) named start
        flags := by
  have alike (other : String) :
      ((surroundings.holding path
          (Utf8.encode (Source.normalizeLineEnds text))).look other).isFile =
          (surroundings.look other).isFile ∧
        ((surroundings.holding path
            (Utf8.encode (Source.normalizeLineEnds text))).look other).isCircular =
          (surroundings.look other).isCircular := by
    unfold Surroundings.holding
    dsimp only
    split
    case isTrue same =>
      rw [same, holds]
      exact ⟨rfl, rfl⟩
    case isFalse => exact ⟨rfl, rfl⟩
  have chosen' : chooseFile (surroundings.holding path
      (Utf8.encode (Source.normalizeLineEnds text))) named start = .ok (some path) :=
    (chooseFile_of_isFile alike named start).trans chosen
  have holds' : (surroundings.holding path
      (Utf8.encode (Source.normalizeLineEnds text))).look path =
        .file (.ok (Utf8.encode (Source.normalizeLineEnds text))) := if_pos rfl
  rw [load_eq, load_eq, chosen, chosen']
  dsimp only [bind, Except.bind]
  rw [storedFields, storedFields, readFile_encode holds, readFile_encode holds',
    normalizeLineEnds_of_not_mem (return_not_mem_normalizeLineEnds text)]
  rfl

/-! ### What becomes of the run -/

/-- A run with a configuration file that is no document. Bytes that are not UTF-8 are a fault of
their own. Of a text it matters what it is with a line feed in place of every carriage return, and
an integer that is too long and that this comes to is the fault. Where there is none, the file is
refused as invalid if every carriage return has its line feed, and also if it is no document with
line feeds. Otherwise it is read as that document: the run is the one with the document in its
place. The depth of lists and tables in the file does not matter here. -/
theorem load_of_damaged (chosen : chooseFile surroundings named start = .ok (some path))
    (holds : surroundings.look path = .file (.ok content)) (damaged : ¬IsFile content)
    (flags : Fields) :
    (LoadError.invalidFile path).message = "Invalid TOML in " ++ path ∧
    (¬Utf8.IsEncoded content →
      ∃ fault, load surroundings named start flags = .error (.undecodable fault)) ∧
    ∀ text, content = Utf8.encode text →
      (∀ count, IsOverlong count (Source.normalizeLineEnds text) →
        load surroundings named start flags = .error (.overlong count)) ∧
      ((∀ count, ¬IsOverlong count (Source.normalizeLineEnds text)) →
        (¬HasLoneReturn text →
          load surroundings named start flags = .error (.invalidFile path)) ∧
        (¬IsDocument (Source.normalizeLineEnds text) →
          load surroundings named start flags = .error (.invalidFile path)) ∧
        ∀ tables, Describes none (Source.normalizeLineEnds text) tables →
          readFile surroundings path = .ok tables) ∧
      ∀ tables, Describes none (Source.normalizeLineEnds text) tables → HasLoneReturn text ∧
        load surroundings named start flags =
          load (surroundings.holding path (Utf8.encode (Source.normalizeLineEnds text))) named start
            flags := by
  refine ⟨rfl, fun foreign => ?_, fun text isText => ?_⟩
  · obtain ⟨fault, refused⟩ := readFile_of_not_isEncoded holds foreign
    exact ⟨fault, load_of_readFile_error chosen refused flags⟩
  subst isText
  rw [isFile_encode_iff] at damaged
  have broken (paired : ¬HasLoneReturn text) : ¬IsDocument (Source.normalizeLineEnds text) := by
    rwa [normalizeLineEnds_eq_unifyBreaks paired]
  refine ⟨fun count overlong => ?_, fun short => ?_, fun tables describes => ⟨?_, ?_⟩⟩
  · exact load_of_readFile_error chosen (readFile_of_isOverlong holds overlong) flags
  · have refused (broken : ¬IsDocument (Source.normalizeLineEnds text)) :
        load surroundings named start flags = .error (.invalidFile path) :=
      load_of_readFile_error chosen (readFile_of_not_isDocument holds broken short) flags
    refine ⟨fun paired => refused (broken paired), refused, fun tables describes => ?_⟩
    obtain within | ⟨count, overlong⟩ := describes.short_or_overlong
    · exact readFile_of_describes holds within
    · exact absurd overlong (short count)
  · by_contra paired
    exact broken paired ⟨tables, describes⟩
  · exact load_holding_normalized chosen holds flags

/-- Surroundings with nothing but a configuration file. -/
def onlyFile (content : List UInt8) : Surroundings where
  environment := []
  folder := "/"
  look path := if path = fileName then .file (.ok content) else .missing

theorem look_onlyFile (content : List UInt8) :
    (onlyFile content).look fileName = .file (.ok content) := by
  simp only [onlyFile, if_true]

theorem chooseFile_onlyFile (content : List UInt8) :
    chooseFile (onlyFile content) (some fileName) none = .ok (some fileName) := by
  have normal : Path.normal fileName = fileName := by decide
  rw [chooseFile_of_isName ⟨rfl, by decide⟩, normal, ifFile, look_onlyFile]
  rfl

/-- A field with a null character behind it. -/
def nullText : List Char :=
  "quiet = true".toList ++ [Char.ofNat 0]

/-- A null character makes a file invalid. -/
theorem load_of_damaged_nullText :
    load (onlyFile (Utf8.encode nullText)) (some fileName) none [] =
      .error (.invalidFile fileName) := by
  have damaged : ¬IsFile (Utf8.encode nullText) := by
    rw [isFile_encode_iff]
    intro isDocument
    obtain plain | isBreak := isDocument.isWritten (Char.ofNat 0) (by decide)
    · exact absurd plain (by decide)
    · exact absurd isBreak (by decide)
  have paired : ¬HasLoneReturn nullText := fun lone => absurd lone.mem (by decide)
  have malformed : Toml.parse (Source.normalizeLineEnds nullText) = .error .malformed := by cbv
  have short := (parse_eq_malformed_iff.mp malformed).2
  obtain ⟨-, -, ofText⟩ :=
    load_of_damaged (chooseFile_onlyFile _) (look_onlyFile _) damaged []
  exact ((ofText nullText rfl).2.1 short).1 paired

/-- A file of a single byte that is in no text is not refused as invalid. -/
theorem not_invalidFile_of_damaged :
    ¬∀ (surroundings : Surroundings) (named start : Option String) (flags : Fields)
      (path : String) (content : List UInt8),
        chooseFile surroundings named start = .ok (some path) →
          surroundings.look path = .file (.ok content) → ¬IsFile content →
            load surroundings named start flags = .error (.invalidFile path) := by
  intro always
  have undecodable : Utf8.decodeAll [0xFF] = .error ⟨0, 1, 0xFF, .startByte⟩ := by decide
  have foreign : ¬IsFile [0xFF] := by
    rintro ⟨text, same, -⟩
    rw [Utf8.decodeAll_eq_ok_iff.mpr same] at undecodable
    cases undecodable
  have fault : readFile (onlyFile [0xFF]) fileName =
      .error (.undecodable ⟨0, 1, 0xFF, .startByte⟩) := by
    unfold readFile
    rw [look_onlyFile]
    dsimp only
    rw [undecodable]
  have refused := always (onlyFile [0xFF]) (some fileName) none [] fileName [0xFF]
    (chooseFile_onlyFile _) (look_onlyFile _) foreign
  rw [load_of_readFile_error (chooseFile_onlyFile _) fault] at refused
  cases refused

end Settings

end PolyIntake
