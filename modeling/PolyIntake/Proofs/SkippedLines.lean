/-
This file proves that skipping hides no command. The check of settings keeps the
mark of comments from beginning with a letter of any script, the reader skips
blank lines and lines that begin with the mark, and a command begins with a
letter of ASCII; as these letters are among those of all scripts, no line is
both skipped and a command.

A literal begins with a digit, a minus sign or a parenthesis. A mark that does
not begin like that takes nothing from the literals either, so that every line
which is skipped would be refused. Rules that skip fewer lines then lead to the
same items, under the same numbers, and to no other diagnostics but further ones.
-/

import PolyIntake.Proofs.Rereading

namespace PolyIntake

/-! ### First characters -/

theorem Text.isLetter_eq_any (char : Char) : isLetter char =
    letterRanges.toList.any fun range => range.1 ≤ char.toNat && char.toNat ≤ range.2 := by
  rw [isLetter, inRanges, Array.any_toList]

theorem Text.isLetter_of_mem {char : Char} {lowest highest : Nat}
    (listed : (lowest, highest) ∈ letterRanges.toList) (above : lowest ≤ char.toNat)
    (below : char.toNat ≤ highest) : isLetter char = true := by
  rw [isLetter_eq_any]
  exact List.any_eq_true.mpr ⟨_, listed, by simp [above, below]⟩

/-- There are no letters in front of those of ASCII. -/
theorem Text.isLetter_eq_false_of_lt {char : Char} (below : char.toNat < 0x41) :
    isLetter char = false := by
  have lowest : ∀ range ∈ letterRanges.toList, 0x41 ≤ range.1 := by decide +kernel
  rw [isLetter_eq_any]
  refine List.any_eq_false.mpr fun range listed => ?_
  have first := Nat.lt_of_lt_of_le below (lowest range listed)
  simp [Nat.not_le_of_lt first]

/-- The letters of ASCII are the first two ranges of letters. -/
theorem Text.isLetter_of_isAlpha {char : Char} (isAlpha : char.isAlpha = true) :
    isLetter char = true := by
  rcases Bool.or_eq_true_iff.mp isAlpha with upper | lower
  · obtain ⟨lowest, highest⟩ := of_decide_eq_true upper
    refine isLetter_of_mem ?_ lowest highest
    unfold letterRanges
    exact List.mem_cons_self
  · obtain ⟨lowest, highest⟩ := Bool.and_eq_true_iff.mp lower
    refine isLetter_of_mem ?_ (of_decide_eq_true lowest) (of_decide_eq_true highest)
    unfold letterRanges
    exact List.mem_cons_of_mem _ List.mem_cons_self

/-- A character that a literal can begin with. -/
def Grammar.OpensLiteral (char : Char) : Prop :=
  char.isDigit = true ∨ char = '-' ∨ char = '('

instance (char : Char) : Decidable (Grammar.OpensLiteral char) :=
  inferInstanceAs (Decidable (_ ∨ _ ∨ _))

theorem Grammar.IsPoly.exists_cons {text : List Char} {poly : Poly}
    (derived : IsPoly .integers text poly) :
    ∃ char rest, text = char :: rest ∧ OpensLiteral char := by
  cases derived with
  | coefficient numeral =>
    cases numeral with
    | plain isDigits =>
      obtain ⟨char, rest, rfl, isDigit⟩ := isDigits.exists_cons
      exact ⟨char, rest, rfl, Or.inl isDigit⟩
    | negative => exact ⟨'-', _, rfl, Or.inr (Or.inl rfl)⟩
  | sum sum =>
    obtain ⟨rest, rfl⟩ := sum.exists_cons
    exact ⟨'(', rest, rfl, Or.inr (Or.inr rfl)⟩

/-- An accepted line begins like a command or like a literal. -/
theorem Line.exists_cons_of_parse {text : List Char} {line : Line}
    (accepted : parse text = .ok line) :
    ∃ char rest, text = char :: rest ∧ (char.isAlpha = true ∨ Grammar.OpensLiteral char) := by
  rcases parse_eq_ok_iff.mp accepted with ⟨command, named, -⟩ | ⟨poly, derived, -⟩
  · obtain ⟨letter, rest, rfl, isLetter⟩ := Command.beginsWithLetter_of_parse named
    exact ⟨letter, rest, rfl, Or.inl isLetter⟩
  · obtain ⟨tree, derived, -⟩ := Poly.parse_eq_ok_iff.mp derived
    obtain ⟨char, rest, rfl, opens⟩ :=
      (derived.widen Grammar.accepted_isWithin_integers).exists_cons
    exact ⟨char, rest, rfl, Or.inr opens⟩

/-! ### Admitted rules -/

namespace InputRules

variable {rules : InputRules} {text : List Char}

/-- The check of settings lets the rules pass. -/
def IsAdmitted (rules : InputRules) : Prop :=
  ∃ fields, ofFields fields = .ok rules

theorem checkMark_string (mark : String) :
    checkMark (.string mark) =
      if mark.toList.head?.any Text.isLetter then Checked.flawed .letterMark else .ok mark :=
  rfl

/-- The rules that pass the check are those whose mark is empty or begins with no letter. -/
theorem isAdmitted_iff :
    rules.IsAdmitted ↔ rules.commentMark.toList.head?.any Text.isLetter = false := by
  constructor
  · rintro ⟨fields, passed⟩
    have takes := (Settings.inputRules_of_ofFields passed).1
    unfold Checked.Takes at takes
    split at takes
    case h_1 value _ =>
      cases value with
      | string mark =>
        rw [checkMark_string] at takes
        split at takes
        · cases takes
        case isFalse noLetter =>
          cases takes
          exact Bool.eq_false_iff.mpr noLetter
      | _ => cases takes
    case h_2 =>
      have noLetter : Text.isLetter '#' = false := Text.isLetter_eq_false_of_lt (by decide)
      have first : "#".toList.head? = some '#' := by decide
      rw [takes, first, Option.any_some, noLetter]
  · intro noLetter
    obtain ⟨mark, skipBlank⟩ := rules
    have passed : checkMark (.string mark) = .ok mark := by
      rw [checkMark_string, if_neg (Bool.eq_false_iff.mp noLetter)]
    refine ⟨[("comment_prefix", .string mark), ("skip_blank", .bool skipBlank)], ?_⟩
    simp only [ofFields, Checked.along_eq_ok_iff, Checked.optional_eq_ok_iff]
    exact ⟨_, ⟨_, rfl, mark, passed, rfl⟩, skipBlank, rfl, rfl⟩

/-- The mark of comments, where there is one, begins with no character that a literal can begin
with. -/
def SparesLiterals (rules : InputRules) : Prop :=
  ∀ char ∈ rules.commentMark.toList.head?, ¬ Grammar.OpensLiteral char

/-- A line that is passed over is blank or begins as the mark does. -/
theorem PassesOver.eq_nil_or (passed : rules.PassesOver text) :
    text = [] ∨ ∃ char rest, text = char :: rest ∧ char ∈ rules.commentMark.toList.head? := by
  rcases passed with ⟨marked, rest, rfl⟩ | ⟨-, blank⟩
  · have nonempty : rules.commentMark.toList ≠ [] := mt String.toList_eq_nil_iff.mp marked
    obtain ⟨char, more, mark⟩ := List.exists_cons_of_ne_nil nonempty
    rw [mark]
    exact Or.inr ⟨char, more ++ rest, rfl, rfl⟩
  · exact Or.inl blank

theorem IsAdmitted.not_beginsWithLetter (admitted : rules.IsAdmitted)
    (passed : rules.PassesOver text) : ¬ BeginsWithLetter text := by
  rintro ⟨letter, rest, rfl, isAlpha⟩
  obtain nothing | ⟨char, more, same, first⟩ := passed.eq_nil_or
  · cases nothing
  · cases same
    have noLetter := isAdmitted_iff.mp admitted
    rw [Option.mem_def.mp first, Option.any_some, Text.isLetter_of_isAlpha isAlpha] at noLetter
    cases noLetter

/-- No line that is passed over would be accepted. -/
theorem IsAdmitted.exists_error (admitted : rules.IsAdmitted) (spares : rules.SparesLiterals)
    (passed : rules.PassesOver text) : ∃ error, Line.parse text = .error error := by
  cases reading : Line.parse text with
  | error error => exact ⟨error, rfl⟩
  | ok line =>
    obtain ⟨char, rest, rfl, isAlpha | opens⟩ := Line.exists_cons_of_parse reading
    · exact absurd ⟨char, rest, rfl, isAlpha⟩ (admitted.not_beginsWithLetter passed)
    · obtain nothing | ⟨char, rest, same, first⟩ := passed.eq_nil_or
      · cases nothing
      · cases same
        exact absurd opens (spares _ first)

end InputRules

/-! ### Fewer skipped lines -/

namespace Session

open Log

section Fewer

variable {rules fewer : InputRules} (admitted : rules.IsAdmitted) (spares : rules.SparesLiterals)
  (less : ∀ text, fewer.PassesOver text → rules.PassesOver text)

include admitted spares less

/-- Where fewer lines are skipped, what becomes of a line is the same, or it is refused and not
skipped. -/
theorem ofLine_fewer (number : Nat) (text : List Char) :
    Entry.ofLine ⟨number, text, fewer.skips text⟩ = .ofLine ⟨number, text, rules.skips text⟩ ∨
      (Entry.ofLine ⟨number, text, rules.skips text⟩ = .skipped number ∧
        ∃ diagnostic, Entry.ofLine ⟨number, text, fewer.skips text⟩ = .rejected diagnostic) := by
  cases before : rules.skips text with
  | false =>
    have after : fewer.skips text = false :=
      InputRules.skips_eq_false_iff.mpr (mt (less text) (InputRules.skips_eq_false_iff.mp before))
    rw [after]
    exact Or.inl rfl
  | true =>
    cases after : fewer.skips text with
    | true => exact Or.inl rfl
    | false =>
      obtain ⟨error, refused⟩ := admitted.exists_error spares (InputRules.skips_iff.mp before)
      refine Or.inr ⟨rfl, ⟨number, error.complaint⟩, ?_⟩
      rw [Entry.ofLine_of_not_skipped, Line.reading, refused]
      rfl

/-- Rules that skip fewer lines lead to the same items, to no fewer diagnostics and to no more
skipped numbers. -/
theorem selections_numberFrom_fewer (number : Nat) (lines : List (List Char)) :
    accepted ((fewer.numberFrom number lines).map .ofLine) =
        accepted ((rules.numberFrom number lines).map .ofLine) ∧
      (rejected ((rules.numberFrom number lines).map .ofLine)).Sublist
        (rejected ((fewer.numberFrom number lines).map .ofLine)) ∧
      (skipped ((fewer.numberFrom number lines).map .ofLine)).Sublist
        (skipped ((rules.numberFrom number lines).map .ofLine)) := by
  induction lines generalizing number with
  | nil => exact ⟨rfl, .slnil, .slnil⟩
  | cons text rest inductionHypothesis =>
    obtain ⟨items, refused, passed⟩ := inductionHypothesis (number + 1)
    simp only [InputRules.numberFrom, List.map_cons]
    -- Where the rules differ about a line, a skipped number goes and a diagnostic comes.
    obtain same | ⟨before, diagnostic, after⟩ := ofLine_fewer admitted spares less number text
    · rw [same]
      cases Entry.ofLine ⟨number, text, rules.skips text⟩ with
      | skipped number => exact ⟨items, refused, passed.cons_cons _⟩
      | accepted number line => exact ⟨congrArg (List.cons (number, line)) items, refused, passed⟩
      | rejected diagnostic => exact ⟨items, refused.cons_cons _, passed⟩
    · rw [before, after]
      exact ⟨items, refused.cons _, passed.cons _⟩

end Fewer

/-- What runs with some settings make of the lines of a source: the items, the diagnostics and the
skipped numbers. -/
structure Parses (settings : Settings) (source : Source) (items : List (Nat × Line))
    (refused : List Diagnostic) (passed : List Nat) : Prop where
  tally : IsTally settings.input source.lines items refused passed
  reports : ∀ task scope, reported (run settings task source scope).events = refused
  lists : source.failure = none → ∀ scope, ∃ outcome,
    (run settings .parse source scope).value = .ok outcome ∧
      Lists settings.output outcome source.lines.length items refused passed

theorem parses_entries (settings : Settings) (source : Source) :
    Parses settings source (accepted (entries settings.input source.lines))
      (rejected (entries settings.input source.lines))
      (skipped (entries settings.input source.lines)) where
  tally := isTally_entries _ _
  reports task scope := (run_yields settings task source).reports scope
  lists ends scope := by
    have gives := (run_yields settings .parse source).gives scope
    rw [Task.result, ends] at gives
    exact ⟨_, gives, lists_outcome _ _ _⟩

/-- With rules that pass the check of settings no command is skipped. If their mark of comments
begins with no character that a literal can begin with, then every line that is skipped would be
refused, and rules that skip only some of the lines, or none, lead to the same items and otherwise
only to further diagnostics. -/
theorem skipping_spec (settings : Settings) (admitted : settings.input.IsAdmitted) :
    (∀ lines, ∀ line ∈ settings.input.read lines, line.skipped = true →
        Line.isCommand line.text = false) ∧
      (settings.input.SparesLiterals →
        (∀ lines, ∀ line ∈ settings.input.read lines, line.skipped = true →
            ∃ error, Line.parse line.text = .error error) ∧
          ∀ fewer : InputRules,
            (∀ text, fewer.PassesOver text → settings.input.PassesOver text) →
              ∀ source, ∃ items refused refused' passed passed',
                Parses settings source items refused passed ∧
                  Parses { settings with input := fewer } source items refused' passed' ∧
                  refused.Sublist refused' ∧ passed'.Sublist passed) := by
  have passesOver : ∀ lines, ∀ line ∈ settings.input.read lines, line.skipped = true →
      settings.input.PassesOver line.text := by
    intro lines line member skipped
    obtain ⟨index, rfl⟩ := InputRules.mem_numberFrom_iff.mp member
    exact InputRules.skips_iff.mp skipped
  refine ⟨fun lines line member skipped => ?_, fun spares => ⟨fun lines line member skipped => ?_,
    fun fewer less source => ?_⟩⟩
  · refine Bool.eq_false_iff.mpr (mt Line.isCommand_iff.mp ?_)
    exact admitted.not_beginsWithLetter (passesOver lines line member skipped)
  · exact admitted.exists_error spares (passesOver lines line member skipped)
  · obtain ⟨items, refused, passed⟩ :=
      selections_numberFrom_fewer admitted spares less 1 source.lines
    have after := parses_entries { settings with input := fewer } source
    rw [show accepted (entries fewer source.lines) = _ from items] at after
    exact ⟨_, _, _, _, _, parses_entries settings source, after, refused, passed⟩

/-- Rules that skip nothing. -/
def skipNothing : InputRules := ⟨"", false⟩

theorem not_passesOver_skipNothing (text : List Char) : ¬ skipNothing.PassesOver text := by
  simp [skipNothing, InputRules.PassesOver]

theorem skipping_spec_mixed :
    percentSettings.input.IsAdmitted ∧ percentSettings.input.SparesLiterals ∧
      (∀ text, skipNothing.PassesOver text → percentSettings.input.PassesOver text) ∧
      ∃ items, Parses percentSettings mixedSource items [⟨3, .wrongPoly⟩] [1] ∧
        Parses { percentSettings with input := skipNothing } mixedSource items
          [⟨1, .wrongPoly⟩, ⟨3, .wrongPoly⟩] [] := by
  have noLetter : Text.isLetter '%' = false := Text.isLetter_eq_false_of_lt (by decide)
  have first : percentSettings.input.commentMark.toList.head? = some '%' := by decide
  have admitted : percentSettings.input.IsAdmitted := by
    rw [InputRules.isAdmitted_iff, first, Option.any_some, noLetter]
  have spares : percentSettings.input.SparesLiterals := by
    rintro char ⟨⟩
    decide
  have less : ∀ text, skipNothing.PassesOver text → percentSettings.input.PassesOver text :=
    fun text passed => absurd passed (not_passesOver_skipNothing text)
  have before := isTally_entries percentSettings.input mixedSource.lines
  have after := isTally_entries skipNothing mixedSource.lines
  have found : rejected (entries percentSettings.input mixedSource.lines) = [⟨3, .wrongPoly⟩] ∧
      skipped (entries percentSettings.input mixedSource.lines) = [1] := by
    constructor <;> cbv
  have found' :
      rejected (entries skipNothing mixedSource.lines) = [⟨1, .wrongPoly⟩, ⟨3, .wrongPoly⟩] ∧
        skipped (entries skipNothing mixedSource.lines) = [] := by
    constructor <;> cbv
  obtain ⟨items, refused, refused', passed, passed', parses, parses', -⟩ :=
    ((skipping_spec percentSettings admitted).2 spares).2 skipNothing less mixedSource
  obtain ⟨-, rfl, rfl⟩ := parses.tally.unique before
  obtain ⟨-, rfl, rfl⟩ := parses'.tally.unique after
  rw [found.1, found.2] at parses
  rw [found'.1, found'.2] at parses'
  exact ⟨admitted, spares, less, items, parses, parses'⟩

end Session

end PolyIntake
