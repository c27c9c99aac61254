/-
This file proves that every line is either a command or is refused with one
complaint, and says which. A line is refused for its argument when a keyword
that takes one begins it and no longer word does, and the complaint is the one
of that keyword, whatever is wrong behind it. Without such a keyword the command
is unknown, and the beginning of the line is blamed. There is one such keyword
at most, since the keywords begin with different letters.

The position that is blamed always lies in the line or at its end. Behind the
keyword and the blank it is settled by what reading the argument comes to.
-/

import PolyIntake.Proofs.Commands
import PolyIntake.Proofs.Literals

namespace PolyIntake

/-! ### Keywords and arguments -/

/-- The keyword of a command without an argument. -/
inductive Operation.IsNamed : Operation → String → Prop where
  | zero : IsNamed .zero "ZERO"
  | isCoeff : IsNamed .isCoeff "IS_COEFF"
  | isZero : IsNamed .isZero "IS_ZERO"
  | clone : IsNamed .clone "CLONE"
  | add : IsNamed .add "ADD"
  | mul : IsNamed .mul "MUL"
  | neg : IsNamed .neg "NEG"
  | sub : IsNamed .sub "SUB"
  | isEq : IsNamed .isEq "IS_EQ"
  | deg : IsNamed .deg "DEG"
  | print : IsNamed .print "PRINT"
  | pop : IsNamed .pop "POP"

theorem Operation.IsNamed.keyword_eq {operation : Operation} {keyword : String}
    (isNamed : operation.IsNamed keyword) : operation.keyword = keyword := by
  cases isNamed <;> rfl

namespace Query

/-- The keyword of a command with an argument, and the wording of the complaint about a bad one. -/
inductive IsNamed : Query → (keyword wording : String) → Prop where
  | degreeBy : IsNamed .degreeBy "DEG_BY" "DEG BY WRONG VARIABLE"
  | valueAt : IsNamed .valueAt "AT" "AT WRONG VALUE"
  | compose : IsNamed .compose "COMPOSE" "COMPOSE WRONG PARAMETER"

/-- A keyword begins the line, and no longer word does: behind it there is nothing, or neither an
ASCII letter nor an underscore. -/
def IsInFront (keyword : String) (text : List Char) : Prop :=
  ∃ rest, text = keyword.toList ++ rest ∧ ∀ char ∈ rest.head?, char.isAlpha = false ∧ char ≠ '_'

variable {query query' : Query} {keyword wording : String} {text : List Char}

theorem IsNamed.keyword_eq (isNamed : query.IsNamed keyword wording) :
    query.keyword = keyword := by
  cases isNamed <;> rfl

theorem IsNamed.text_complaint (isNamed : query.IsNamed keyword wording) :
    query.complaint.text = wording := by
  cases isNamed <;> rfl

theorem exists_isNamed (query : Query) : ∃ wording, query.IsNamed query.keyword wording := by
  cases query with
  | degreeBy => exact ⟨_, .degreeBy⟩
  | valueAt => exact ⟨_, .valueAt⟩
  | compose => exact ⟨_, .compose⟩

theorem startsWith_iff :
    Command.startsWith keyword.toList text = true ↔ IsInFront keyword text := by
  have ends (rest : List Char) : (!rest.head?.any Command.continuesWord) = true ↔
      ∀ char ∈ rest.head?, char.isAlpha = false ∧ char ≠ '_' := by
    cases rest with
    | nil => simp
    | cons head tail => simp [Command.continuesWord]
  rw [Command.startsWith, Bool.and_eq_true, List.isPrefixOf_iff_prefix]
  constructor
  · rintro ⟨⟨rest, rfl⟩, noWord⟩
    rw [List.drop_left] at noWord
    exact ⟨rest, rfl, (ends rest).mp noWord⟩
  · rintro ⟨rest, rfl, noWord⟩
    rw [List.drop_left]
    exact ⟨⟨rest, rfl⟩, (ends rest).mpr noWord⟩

theorem IsInFront.length_le (isInFront : IsInFront keyword text) :
    keyword.length ≤ text.length := by
  obtain ⟨rest, rfl, _⟩ := isInFront
  rw [List.length_append, String.length_toList]
  exact Nat.le_add_right _ _

/-- The first letter of a line settles which keyword can be in front. -/
theorem IsInFront.unique (isInFront : IsInFront query.keyword text)
    (isInFront' : IsInFront query'.keyword text) : query = query' := by
  have first {query : Query} (isInFront : IsInFront query.keyword text) :
      text.head? = query.keyword.toList.head? := by
    obtain ⟨rest, rfl, _⟩ := isInFront
    cases query <;> rfl
  have same : query.keyword.toList.head? = query'.keyword.toList.head? :=
    (first isInFront).symm.trans (first isInFront')
  revert same
  cases query <;> cases query' <;> decide

/-- What has to stand behind the blank of a command. A polynomial is evaluated at any integer of 64
bits, and variables and polynomials are counted in 31 bits without a sign. -/
def IsArgument : Query → List Char → Int → Prop
  | degreeBy, numeral, value => IsNumeral false numeral value ∧ 0 ≤ value ∧ value ≤ 2 ^ 31 - 1
  | valueAt, numeral, value => IsNumeral true numeral value ∧ -2 ^ 63 ≤ value ∧ value ≤ 2 ^ 63 - 1
  | compose, numeral, value => IsNumeral false numeral value ∧ 0 ≤ value ∧ value ≤ 2 ^ 31 - 1

theorem isArgument_iff {numeral : List Char} {value : Int} :
    query.IsArgument numeral value ↔
      IsNumeral query.argumentKind.signed numeral value ∧
        query.argumentKind.admits value = true := by
  rw [Integer.Kind.admits_iff]
  cases query <;> rfl

end Query

namespace Command

/-! ### Recognised commands -/

theorem parse_eq_plain_iff {text : List Char} {operation : Operation} :
    parse text = .ok (.plain operation) ↔ text = operation.keyword.toList := by
  rw [parse_eq_ok_iff]
  constructor
  · intro written
    cases written
    rfl
  · rintro rfl
    exact .plain operation

theorem parse_eq_withArgument_iff {text : List Char} {query : Query} {value : Int} :
    parse text = .ok (.withArgument query value) ↔
      ∃ numeral, text = query.keyword.toList ++ ' ' :: numeral ∧
        query.IsArgument numeral value := by
  simp only [parse_eq_ok_iff, Query.isArgument_iff]
  constructor
  · intro written
    cases written with
    | withArgument _ isNumeral admitted => exact ⟨_, rfl, isNumeral, admitted⟩
  · rintro ⟨numeral, rfl, isNumeral, admitted⟩
    exact .withArgument query isNumeral admitted

/-! ### Refused arguments -/

/-- Whatever is wrong with an argument, a position of the line is blamed and the complaint is the
one of the keyword. -/
theorem refused_of_readArgument {query : Query} {text : List Char} {error : Error}
    (isInFront : Query.IsInFront query.keyword text)
    (refused : readArgument query text = .error error) :
    error.position ≤ text.length ∧ error.cause.complaint = query.complaint := by
  have inside := isInFront.length_le
  unfold readArgument at refused
  dsimp only at refused
  split at refused
  case isTrue blank =>
    have atBlank : text[query.keyword.length]? = some ' ' := by
      rw [← List.head?_drop]
      exact beq_iff_eq.mp blank
    have further : query.keyword.length + 1 ≤ text.length :=
      (List.getElem?_eq_some_iff.mp atBlank).1
    have start : (Cursor.ofText text query.keyword.length).advance 1 =
        .ofText text (query.keyword.length + 1) := by
      rw [Cursor.advance, Cursor.ofText, List.drop_drop]
      rfl
    rw [start] at refused
    split at refused
    · split at refused
      case h_1 refusal read =>
        cases refused
        have reads := (Integer.read_eq_iff query.isShort_argumentKind _ text _ _).mp read
        exact ⟨reads.position_le further, rfl⟩
      case h_2 => cases refused
    · cases refused
      exact ⟨further, rfl⟩
  · cases refused
    exact ⟨inside, rfl⟩

/-! ### Commands and complaints -/

/-- A line is recognised as a command exactly when it is a keyword that stands alone, or one of the
others with a blank and its argument. Every other line is refused at a position of its own, with
the complaint of the keyword in front, and as an unknown command at its beginning where there is
none. -/
theorem parse_classifies (text : List Char) :
    (∀ (operation : Operation) (keyword : String), operation.IsNamed keyword →
      (parse text = .ok (.plain operation) ↔ text = keyword.toList)) ∧
    (∀ (query : Query) (keyword wording : String), query.IsNamed keyword wording → ∀ value,
      (parse text = .ok (.withArgument query value) ↔
        ∃ numeral, text = keyword.toList ++ ' ' :: numeral ∧ query.IsArgument numeral value)) ∧
    ∀ error, parse text = .error error →
      error.position ≤ text.length ∧
      (∀ (query : Query) (keyword wording : String), query.IsNamed keyword wording →
        Query.IsInFront keyword text → error.cause.complaint.text = wording) ∧
      ((∀ (query : Query) (keyword wording : String), query.IsNamed keyword wording →
          ¬Query.IsInFront keyword text) →
        error.position = 0 ∧ error.cause.complaint.text = "WRONG COMMAND") := by
  refine ⟨fun operation keyword isNamed => ?_, fun query keyword wording isNamed value => ?_,
    fun error refused => ?_⟩
  · rw [parse_eq_plain_iff, isNamed.keyword_eq]
  · rw [parse_eq_withArgument_iff, isNamed.keyword_eq]
  unfold parse at refused
  split at refused
  · cases refused
  split at refused
  case h_1 query found =>
    have starts := List.find?_some found
    have isInFront := Query.startsWith_iff.mp starts
    obtain ⟨inside, complaint⟩ := refused_of_readArgument isInFront refused
    refine ⟨inside, fun query' keyword wording isNamed isInFront' => ?_, fun noneInFront => ?_⟩
    · rw [← isNamed.keyword_eq] at isInFront'
      rw [complaint, isInFront.unique isInFront', isNamed.text_complaint]
    · obtain ⟨wording, isNamed⟩ := query.exists_isNamed
      exact absurd isInFront (noneInFront query _ wording isNamed)
  case h_2 missing =>
    cases refused
    refine ⟨Nat.zero_le _, fun query keyword wording isNamed isInFront => ?_, fun _ => ⟨rfl, rfl⟩⟩
    have known : query ∈ Query.all := by cases query <;> decide
    rw [← isNamed.keyword_eq, ← Query.startsWith_iff] at isInFront
    exact absurd isInFront (List.find?_eq_none.mp missing query known)

/-- A digit behind the keyword is the keyword's own complaint, and a letter behind it makes an
unknown word. -/
theorem parse_classifies_misspelt :
    (∃ error, parse "DEG_BY5".toList = .error error ∧
      error.cause.complaint.text = "DEG BY WRONG VARIABLE") ∧
    (∃ error, parse "AT  5".toList = .error error ∧
      error.cause.complaint.text = "AT WRONG VALUE") ∧
    (∃ error, parse "COMPOSE -1".toList = .error error ∧
      error.cause.complaint.text = "COMPOSE WRONG PARAMETER") ∧
    (∃ error, parse "DEG_BYX 5".toList = .error error ∧
      error.position = 0 ∧ error.cause.complaint.text = "WRONG COMMAND") := by
  have noneInFront : ∀ (query : Query) (keyword wording : String),
      query.IsNamed keyword wording → ¬Query.IsInFront keyword "DEG_BYX 5".toList := by
    intro query keyword wording isNamed
    rw [← Query.startsWith_iff]
    cases isNamed <;> decide
  refine ⟨⟨⟨6, .noSpace .degreeBy⟩, rfl, ?_⟩, ⟨⟨3, .noDigit .valueAt⟩, rfl, ?_⟩,
    ⟨⟨8, .noDigit .compose⟩, rfl, ?_⟩, ⟨⟨0, .unknown⟩, rfl, ?_⟩⟩
  · exact ((parse_classifies _).2.2 ⟨6, .noSpace .degreeBy⟩ rfl).2.1 _ _ _ .degreeBy
      ⟨['5'], rfl, by rintro _ ⟨⟩; decide⟩
  · exact ((parse_classifies _).2.2 ⟨3, .noDigit .valueAt⟩ rfl).2.1 _ _ _ .valueAt
      ⟨[' ', ' ', '5'], rfl, by rintro _ ⟨⟩; decide⟩
  · exact ((parse_classifies _).2.2 ⟨8, .noDigit .compose⟩ rfl).2.1 _ _ _ .compose
      ⟨[' ', '-', '1'], rfl, by rintro _ ⟨⟩; decide⟩
  · exact ((parse_classifies _).2.2 ⟨0, .unknown⟩ rfl).2.2 noneInFront

end Command

end PolyIntake
