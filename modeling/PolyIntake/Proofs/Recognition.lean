/-
This file proves that the first character of a line settles how the line is to
be read. A command begins with an ASCII letter and a literal holds none, so no
text is both, and a line that is routed by its first character is accepted
exactly when one of the two recognisers accepts it.

Reading a line has one of two ends. Either the line is accepted and nothing is
reported, or it is refused and one diagnostic is reported, which names the line.
The complaint tells what the line was taken for: only a line that begins with no
letter is refused as a polynomial.
-/

import PolyIntake.Proofs.Events
import PolyIntake.Proofs.Parsing
import PolyIntake.Session

namespace PolyIntake

/-! ### The first character -/

/-- A text begins with an ASCII letter. -/
def BeginsWithLetter (text : List Char) : Prop :=
  ∃ letter rest, text = letter :: rest ∧ letter.isAlpha = true

theorem Line.isCommand_iff {text : List Char} : isCommand text = true ↔ BeginsWithLetter text := by
  constructor
  · intro begins
    cases text with
    | nil => cases begins
    | cons letter rest => exact ⟨letter, rest, rfl, begins⟩
  · rintro ⟨letter, rest, rfl, isLetter⟩
    exact isLetter

theorem BeginsWithLetter.of_prefix {start text : List Char} (begins : BeginsWithLetter start)
    (isPrefix : start <+: text) : BeginsWithLetter text := by
  obtain ⟨letter, rest, rfl, isLetter⟩ := begins
  obtain ⟨behind, rfl⟩ := isPrefix
  exact ⟨letter, rest ++ behind, rfl, isLetter⟩

theorem Operation.beginsWithLetter_keyword (operation : Operation) :
    BeginsWithLetter operation.keyword.toList := by
  cases operation <;> exact ⟨_, _, rfl, rfl⟩

theorem Query.beginsWithLetter_keyword (query : Query) :
    BeginsWithLetter query.keyword.toList := by
  cases query <;> exact ⟨_, _, rfl, rfl⟩

/-- An accepted command begins with its keyword, and so with a letter. -/
theorem Command.beginsWithLetter_of_parse {text : List Char} {command : Command}
    (accepted : parse text = .ok command) : BeginsWithLetter text := by
  unfold parse at accepted
  split at accepted
  case h_1 operation found =>
    have same := List.find?_some found
    simp only [beq_iff_eq] at same
    rw [← same]
    exact operation.beginsWithLetter_keyword
  case h_2 =>
    split at accepted
    case h_1 query found =>
      have starts := List.find?_some found
      simp only [startsWith, Bool.and_eq_true, List.isPrefixOf_iff_prefix] at starts
      exact query.beginsWithLetter_keyword.of_prefix starts.1
    case h_2 => cases accepted

/-- The digits come in front of the letters. -/
theorem isAlpha_eq_false_of_isDigit {char : Char} (isDigit : char.isDigit = true) :
    char.isAlpha = false := by
  have digit : char.toNat ≤ '9'.toNat := (Char.isDigit_iff_toNat.mp isDigit).2
  refine Bool.eq_false_iff.mpr fun isAlpha => ?_
  have letter : 'A'.toNat ≤ char.toNat := by
    rcases Bool.or_eq_true_iff.mp isAlpha with upper | lower
    · exact (of_decide_eq_true upper).1
    · have small : 'a'.toNat ≤ char.toNat := of_decide_eq_true (Bool.and_eq_true_iff.mp lower).1
      exact Nat.le_trans (by decide) small
  exact absurd (Nat.le_trans letter digit) (by decide)

theorem Parser.isAlpha_eq_false_of_isLegal {char : Char} (legal : isLegal char = true) :
    char.isAlpha = false := by
  simp only [isLegal, Bool.or_eq_true, beq_iff_eq] at legal
  rcases legal with ((((isDigit | rfl) | rfl) | rfl) | rfl) | rfl
  · exact isAlpha_eq_false_of_isDigit isDigit
  · decide
  · decide
  · decide
  · decide
  · decide

/-- An accepted literal is made of characters that are no letters. -/
theorem Poly.not_beginsWithLetter_of_parse {text : List Char} {poly : Poly}
    (accepted : parse text = .ok poly) : ¬ BeginsWithLetter text := by
  rintro ⟨letter, rest, rfl, isLetter⟩
  obtain ⟨tree, derived, _⟩ := parse_eq_ok_iff.mp accepted
  have legal := (derived.widen Grammar.accepted_isWithin_integers).isLegal_of_mem List.mem_cons_self
  rw [Parser.isAlpha_eq_false_of_isLegal legal] at isLetter
  cases isLetter

/-- No text is read as a command and as a literal. -/
theorem not_command_and_poly (text : List Char) :
    ¬ ((∃ command, Command.parse text = .ok command) ∧ ∃ poly, Poly.parse text = .ok poly) := by
  rintro ⟨⟨command, named⟩, poly, derived⟩
  exact Poly.not_beginsWithLetter_of_parse derived (Command.beginsWithLetter_of_parse named)

/-- Nothing is wrong with a polynomial in what was taken for a command. -/
theorem Command.Fault.complaint_ne_wrongPoly (fault : Fault) : fault.complaint ≠ .wrongPoly := by
  cases fault with
  | unknown => exact Complaint.noConfusion
  | noSpace query => cases query <;> exact Complaint.noConfusion
  | noDigit query => cases query <;> exact Complaint.noConfusion
  | argument query _ => cases query <;> exact Complaint.noConfusion

/-! ### What a line is read as -/

namespace Line

/-- What reading a line comes to: the line, or the diagnostic that names its number. -/
def reading (number : Int) (text : List Char) : Except Diagnostic Line :=
  (parse text).mapError fun error => ⟨number, error.complaint⟩

/-- The diagnostics that reading a line leads to. -/
def refusals : Except Diagnostic Line → List Diagnostic
  | .ok _ => []
  | .error diagnostic => [diagnostic]

theorem parse_of_beginsWithLetter {text : List Char} (begins : BeginsWithLetter text) :
    parse text = ((Command.parse text).map Line.command).mapError LineError.command := by
  unfold parse
  rw [if_pos (isCommand_iff.mpr begins)]
  cases Command.parse text <;> rfl

theorem parse_of_not_beginsWithLetter {text : List Char} (begins : ¬ BeginsWithLetter text) :
    parse text = ((Poly.parse text).map Line.poly).mapError LineError.poly := by
  unfold parse
  rw [if_neg (mt isCommand_iff.mp begins)]
  cases Poly.parse text <;> rfl

/-- A line is accepted as what one of the two recognisers makes of it. -/
theorem reading_eq_ok_iff {number : Int} {text : List Char} {line : Line} :
    reading number text = .ok line ↔
      (∃ command, Command.parse text = .ok command ∧ line = .command command) ∨
        ∃ poly, Poly.parse text = .ok poly ∧ line = .poly poly := by
  unfold reading
  by_cases begins : BeginsWithLetter text
  · have noPoly : ∀ poly, Poly.parse text ≠ .ok poly := fun poly accepted =>
      Poly.not_beginsWithLetter_of_parse accepted begins
    rw [parse_of_beginsWithLetter begins]
    cases Command.parse text <;> simp [Except.map, Except.mapError, noPoly, eq_comm]
  · have noCommand : ∀ command, Command.parse text ≠ .ok command := fun command accepted =>
      begins (Command.beginsWithLetter_of_parse accepted)
    rw [parse_of_not_beginsWithLetter begins]
    cases Poly.parse text <;> simp [Except.map, Except.mapError, noCommand, eq_comm]

/-- A line is refused by the recogniser that its first character chooses. -/
theorem reading_eq_error_iff {number : Int} {text : List Char} {complaint : Complaint} :
    reading number text = .error ⟨number, complaint⟩ ↔
      (BeginsWithLetter text ∧ complaint ≠ .wrongPoly ∧
          ∃ error, Command.parse text = .error error ∧ error.cause.complaint = complaint) ∨
        (¬ BeginsWithLetter text ∧ complaint = .wrongPoly ∧
          ∃ error, Poly.parse text = .error error) := by
  unfold reading
  by_cases begins : BeginsWithLetter text
  · rw [parse_of_beginsWithLetter begins]
    constructor
    · intro refused
      cases parsed : Command.parse text with
      | ok command =>
        rw [parsed] at refused
        cases refused
      | error error =>
        rw [parsed] at refused
        cases refused
        exact Or.inl ⟨begins, error.cause.complaint_ne_wrongPoly, error, rfl, rfl⟩
    · rintro (⟨_, _, error, failed, rfl⟩ | ⟨begins', _⟩)
      · rw [failed]
        rfl
      · exact absurd begins begins'
  · rw [parse_of_not_beginsWithLetter begins]
    constructor
    · intro refused
      cases parsed : Poly.parse text with
      | ok poly =>
        rw [parsed] at refused
        cases refused
      | error error =>
        rw [parsed] at refused
        cases refused
        exact Or.inr ⟨begins, rfl, error, rfl⟩
    · rintro (⟨begins', _⟩ | ⟨_, rfl, error, failed⟩)
      · exact absurd begins' begins
      · rw [failed]
        rfl

theorem line_eq_of_reading_eq_error {number : Int} {text : List Char} {diagnostic : Diagnostic}
    (refused : reading number text = .error diagnostic) : diagnostic.line = number := by
  unfold reading at refused
  cases parsed : parse text with
  | ok line =>
    rw [parsed] at refused
    cases refused
  | error error =>
    rw [parsed] at refused
    cases refused
    rfl

end Line

/-! ### Reading a line -/

namespace Session

open Log

/-- What reading a line gives is not a matter of what is in scope, and the one diagnostic that it
may give is the one that it reports. -/
theorem readLine_yields (number : Int) (text : List Char) :
    (readLine number text).Yields (Line.reading number text)
      (Line.refusals (Line.reading number text)) := by
  unfold readLine Line.reading
  cases Line.parse text with
  | ok line =>
    cases line with
    | command command => exact Work.yields_done _
    | poly poly => exact (Work.yields_log ..).map _
  | error error => exact (Work.yields_log ..).andThen ((Work.yields_report _).map _)

theorem readLine_yields_iff {number : Int} {text : List Char} {reading : Except Diagnostic Line} :
    (readLine number text).Yields reading (Line.refusals reading) ↔
      Line.reading number text = reading := by
  constructor
  · intro yields
    rw [← yields.gives {}, (readLine_yields number text).gives]
  · rintro rfl
    exact readLine_yields number text

/-- Reading a line with any number ends in one of two ways: it is accepted without a report, or it
is refused with one report, which has that number. It is accepted if and only if it is a command
or a literal, which are never both. The complaint about a line that begins with no letter is the
one about polynomials, and every other complaint is the one that the recogniser of commands
makes. -/
theorem readLine_spec (number : Int) (text : List Char) (scope : Scope) :
    ((∃ line, (readLine number text scope).value = .ok line ∧
          reported (readLine number text scope).events = []) ∨
        ∃ complaint, (readLine number text scope).value = .error ⟨number, complaint⟩ ∧
          reported (readLine number text scope).events = [⟨number, complaint⟩]) ∧
      (∀ line, (readLine number text scope).value = .ok line ↔
        (∃ command, Command.parse text = .ok command ∧ line = .command command) ∨
          ∃ poly, Poly.parse text = .ok poly ∧ line = .poly poly) ∧
      ¬ ((∃ command, Command.parse text = .ok command) ∧ ∃ poly, Poly.parse text = .ok poly) ∧
      ∀ complaint, (readLine number text scope).value = .error ⟨number, complaint⟩ ↔
        (BeginsWithLetter text ∧ complaint ≠ .wrongPoly ∧
            ∃ error, Command.parse text = .error error ∧ error.cause.complaint = complaint) ∨
          (¬ BeginsWithLetter text ∧ complaint = .wrongPoly ∧
            ∃ error, Poly.parse text = .error error) := by
  have yields := readLine_yields number text
  rw [yields.gives, yields.reports]
  refine ⟨?_, fun _ => Line.reading_eq_ok_iff, not_command_and_poly text,
    fun _ => Line.reading_eq_error_iff⟩
  cases read : Line.reading number text with
  | ok line => exact Or.inl ⟨line, rfl, rfl⟩
  | error diagnostic =>
    obtain ⟨line, complaint⟩ := diagnostic
    obtain rfl : line = number := Line.line_eq_of_reading_eq_error read
    exact Or.inr ⟨complaint, rfl, rfl⟩

end Session

end PolyIntake
