/-
This file says what a configuration file tells. Its bytes are those of a text in
UTF-8, every carriage return in it is read as the end of a line, and the text is
then a document that describes tables: those are what the file tells. Without a
file nothing is told. A file with an integer that is too long to be read tells
nothing either, although it may be a document.

The fields of a file are read where it tells some, and they are what it tells.
-/

import PolyIntake.Proofs.Leaves
import PolyIntake.Proofs.TomlAcceptance
import PolyIntake.Settings.Loading

namespace PolyIntake

namespace Settings

open Toml

variable {surroundings : Surroundings} {path : String}

/-! ### What is told -/

/-- The tables of the document that stands in a file, or none without a file. The integers of the
document are not too long to be read. -/
inductive Holds (surroundings : Surroundings) : Option String → Fields → Prop where
  | document {path : String} {text : List Char} {tables : Fields}
      (content : surroundings.look path = .file (.ok (Utf8.encode text)))
      (describes : Describes readLimit (Source.normalizeLineEnds text) tables) :
      Holds surroundings (some path) tables
  | nothing : Holds surroundings none []

/-! ### Reading the file -/

theorem readFile_of_not_isEncoded {content : List UInt8}
    (holds : surroundings.look path = .file (.ok content)) (foreign : ¬Utf8.IsEncoded content) :
    ∃ fault, readFile surroundings path = .error (.undecodable fault) := by
  obtain ⟨fault, undecodable⟩ := Utf8.exists_fault foreign
  refine ⟨fault, ?_⟩
  unfold readFile
  rw [holds]
  dsimp only
  rw [undecodable]

/-- A file of UTF-8 is read as a text whose lines end with line feeds. -/
theorem readFile_encode {text : List Char}
    (holds : surroundings.look path = .file (.ok (Utf8.encode text))) :
    readFile surroundings path =
      (Toml.parse (Source.normalizeLineEnds text)).mapError fun
        | .malformed => .invalidFile path
        | .overlong digits => .overlong digits := by
  unfold readFile
  rw [holds]
  dsimp only
  rw [Utf8.decodeAll_eq_ok_iff.mpr rfl]
  dsimp only
  cases Toml.parse (Source.normalizeLineEnds text) with
  | ok fields => rfl
  | error refusal => cases refusal <;> rfl

/-- A text that is a document is read as its tables. -/
theorem readFile_of_describes {text : List Char} {tables : Fields}
    (holds : surroundings.look path = .file (.ok (Utf8.encode text)))
    (describes : Describes readLimit (Source.normalizeLineEnds text) tables) :
    readFile surroundings path = .ok tables := by
  rw [readFile_encode holds, parse_eq_ok_iff.mpr describes]
  rfl

/-! ### Stored fields -/

end Settings

end PolyIntake
