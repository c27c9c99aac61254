/-
This file says which lines are commands and proves that the recogniser accepts
exactly them. A command without an argument is its keyword. A command with an
argument is its keyword, one blank, and an integer literal in the range that the
argument may have, which runs to the end of the line.

The keywords do not get in the way of each other: a line with a blank is no
keyword on its own, and only one of the keywords that take an argument can stand
in front of the blank.
-/

import PolyIntake.Command
import PolyIntake.Proofs.Numerals

namespace PolyIntake

theorem Operation.all_continuesWord_keyword (operation : Operation) :
    operation.keyword.toList.all Command.continuesWord = true := by
  cases operation <;> decide

theorem Query.all_continuesWord_keyword (query : Query) :
    query.keyword.toList.all Command.continuesWord = true := by
  cases query <;> decide

theorem Operation.blank_notMem_keyword (operation : Operation) :
    ' ' ∉ operation.keyword.toList := by
  intro member
  cases List.all_eq_true.mp operation.all_continuesWord_keyword ' ' member

theorem Query.isShort_argumentKind (query : Query) : query.argumentKind.IsShort := by
  cases query with
  | degreeBy => exact Integer.isShort_unsigned31
  | valueAt => exact Integer.isShort_signed64
  | compose => exact Integer.isShort_unsigned31

/-- An argument that a command may have is written as a literal of the kind that it takes. -/
theorem Query.isNumeral_argument (query : Query) {value : Int}
    (admitted : query.argumentKind.admits value = true) :
    IsNumeral query.argumentKind.signed (Decimal.ofInt value) value := by
  have lowest := (Integer.Kind.admits_iff.mp admitted).1
  cases query with
  | degreeBy => exact isNumeral_ofInt_of_nonneg lowest
  | valueAt => exact isNumeral_ofInt value
  | compose => exact isNumeral_ofInt_of_nonneg lowest

namespace Command

/-! ### Written commands -/

/-- A line is a way to write a command. -/
inductive IsWritten : List Char → Command → Prop
  | plain (operation : Operation) : IsWritten operation.keyword.toList (.plain operation)
  | withArgument (query : Query) {numeral : List Char} {value : Int}
      (isNumeral : IsNumeral query.argumentKind.signed numeral value)
      (admitted : query.argumentKind.admits value = true) :
      IsWritten (query.keyword.toList ++ ' ' :: numeral) (.withArgument query value)

/-- A written command holds characters of words, digits, a minus sign and one blank. -/
theorem IsWritten.char_cases {text : List Char} {command : Command}
    (written : IsWritten text command) {char : Char} (member : char ∈ text) :
    continuesWord char = true ∨ char = ' ' ∨ char.isDigit = true ∨ char = '-' := by
  cases written with
  | plain operation =>
    exact Or.inl (List.all_eq_true.mp operation.all_continuesWord_keyword char member)
  | withArgument query isNumeral =>
    rcases List.mem_append.mp member with inKeyword | behind
    · exact Or.inl (List.all_eq_true.mp query.all_continuesWord_keyword char inKeyword)
    · rcases List.mem_cons.mp behind with rfl | inNumeral
      · exact Or.inr (Or.inl rfl)
      · exact Or.inr (Or.inr (isNumeral.isDigit_or_eq_of_mem inNumeral))

/-! ### Reading an argument -/

theorem ofText_keyword (query : Query) (rest : List Char) :
    Cursor.ofText (query.keyword.toList ++ rest) query.keyword.length =
      ⟨rest, query.keyword.length⟩ := by
  rw [Cursor.ofText, ← String.length_toList, List.drop_left]

/-- What is accepted behind a keyword is one blank and a literal in range. -/
theorem isWritten_of_readArgument {query : Query} {rest : List Char} {command : Command}
    (accepted : readArgument query (query.keyword.toList ++ rest) = .ok command) :
    IsWritten (query.keyword.toList ++ rest) command := by
  unfold readArgument at accepted
  rw [ofText_keyword] at accepted
  dsimp only at accepted
  split at accepted
  case isTrue blank =>
    obtain ⟨body, rfl⟩ : ∃ body, rest = ' ' :: body := by
      simpa [Cursor.peek, List.head?_eq_some_iff] using blank
    split at accepted
    · split at accepted
      case h_1 => cases accepted
      case h_2 value next read =>
        cases accepted
        obtain ⟨numeral, spans, _, isNumeral, admitted, ended⟩ :=
          Integer.isNumeral_of_read query.isShort_argumentKind read
        have atEnd : next.rest = [] := by simpa [Cursor.peek] using ended
        have same : body = numeral := by
          rw [atEnd, List.append_nil] at spans
          exact spans
        rw [same]
        exact .withArgument query isNumeral admitted
    · cases accepted
  · cases accepted

/-- A literal in range is read as the argument of a command. -/
theorem readArgument_of_isNumeral {query : Query} {numeral : List Char} {value : Int}
    (isNumeral : IsNumeral query.argumentKind.signed numeral value)
    (admitted : query.argumentKind.admits value = true) :
    readArgument query (query.keyword.toList ++ ' ' :: numeral) =
      .ok (.withArgument query value) := by
  have start : Cursor.advance ⟨' ' :: numeral, query.keyword.length⟩ 1 =
      ⟨numeral, query.keyword.length + 1⟩ := rfl
  have begins : (Cursor.peek ⟨numeral, query.keyword.length + 1⟩).any (fun char =>
      char.isDigit || (query.argumentKind.signed && char == '-')) = true := by
    cases isNumeral with
    | plain isDigits =>
      obtain ⟨head, tail, rfl, isDigit⟩ := isDigits.exists_cons
      simp [Cursor.peek, isDigit]
    | negative isSigned => simp [Cursor.peek, isSigned]
  have read := Integer.read_of_isNumeral query.isShort_argumentKind (· == none) isNumeral
    noDigitNext_nil (query.keyword.length + 1)
  rw [List.append_nil, if_pos admitted, if_pos (by rfl)] at read
  unfold readArgument
  rw [ofText_keyword]
  dsimp only
  rw [if_pos (by rfl), start, if_pos begins, read]

/-! ### Recognition -/

/-- The recogniser accepts the written commands. -/
theorem parse_eq_ok_iff {text : List Char} {command : Command} :
    parse text = .ok command ↔ IsWritten text command := by
  constructor
  · intro accepted
    unfold parse at accepted
    split at accepted
    case h_1 operation found =>
      cases accepted
      have same := List.find?_some found
      rw [beq_iff_eq] at same
      rw [← same]
      exact .plain operation
    case h_2 =>
      split at accepted
      case h_1 query found =>
        have starts := List.find?_some found
        rw [startsWith, Bool.and_eq_true, List.isPrefixOf_iff_prefix] at starts
        obtain ⟨rest, rfl⟩ := starts.1
        exact isWritten_of_readArgument accepted
      case h_2 => cases accepted
  · intro written
    cases written with
    | plain operation => cases operation <;> rfl
    | @withArgument query numeral value isNumeral admitted =>
      have noKeyword : Operation.all.find? (fun operation =>
          operation.keyword.toList == query.keyword.toList ++ ' ' :: numeral) = none := by
        refine List.find?_eq_none.mpr fun operation _ same => ?_
        rw [beq_iff_eq] at same
        exact operation.blank_notMem_keyword (same ▸ List.mem_append_right _ List.mem_cons_self)
      have found : Query.all.find? (fun other =>
          startsWith other.keyword.toList (query.keyword.toList ++ ' ' :: numeral)) =
            some query := by
        cases query <;> rfl
      rw [parse, noKeyword]
      dsimp only
      rw [found]
      exact readArgument_of_isNumeral isNumeral admitted

end Command

end PolyIntake
