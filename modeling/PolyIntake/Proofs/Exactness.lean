/-
This file proves that an accepted line has no room for another character, with
one exception. A line that ends in an integer literal may be given one more
digit: the line that is a coefficient and nothing else, and the command with an
argument. The longer literal has to be in the range of its place, and the longer
line is then the same kind of line with the longer number.

Everywhere else the end of a line is settled. No keyword begins another keyword.
A sum ends with the parenthesis that closes its last monomial, and a longer sum
would end with one too, which has no partner.
-/

import PolyIntake.Proofs.Complaints
import PolyIntake.Proofs.Recognition

namespace PolyIntake

variable {text : List Char} {char : Char}

/-- A literal becomes a longer literal by a digit only. -/
theorem IsNumeral.isDigit_of_append {signed signed' : Bool} {value value' : Int}
    (numeral : IsNumeral signed text value) (longer : IsNumeral signed' (text ++ [char]) value') :
    char.isDigit = true := by
  generalize whole : text ++ [char] = extended at longer
  have last : char ∈ extended := whole ▸ List.mem_append_right _ List.mem_cons_self
  cases longer with
  | plain isDigits => exact isDigits.2 char last
  | negative _ isDigits =>
    -- The minus sign is in front of the shorter literal already.
    obtain ⟨head, tail, rfl⟩ := List.exists_cons_of_ne_nil numeral.ne_nil
    obtain ⟨_, rfl⟩ := List.cons.inj whole
    exact isDigits.2 char (List.mem_append_right _ List.mem_cons_self)

/-! ### Polynomials -/

namespace Grammar

/-- A sum does not become a longer sum by one character. -/
theorem IsSum.not_append {monomials monomials' : List Monomial}
    (derived : IsSum .integers text monomials) : ¬ IsSum .integers (text ++ [char]) monomials' := by
  intro longer
  obtain ⟨rest, same⟩ := longer.exists_concat
  obtain ⟨rfl, closing⟩ := List.append_inj' same rfl
  obtain rfl : char = ')' := (List.cons.inj closing).1
  have paired := longer.balancedFrom_append 0 []
  rw [List.append_nil, derived.balancedFrom_append] at paired
  cases paired

end Grammar

namespace Poly

open Grammar

/-- Where a literal and the same text with one more character are both accepted, both are
coefficients. -/
theorem isNumeral_of_parse_append {poly poly' : Poly} (accepted : parse text = .ok poly)
    (longer : parse (text ++ [char]) = .ok poly') :
    ∃ value value', (IsNumeral true text value ∧ poly = .const value) ∧
      (IsNumeral true (text ++ [char]) value' ∧ Integer.Kind.signed64.admits value' = true) ∧
      poly' = .const value' := by
  obtain ⟨tree, derived, rfl⟩ := parse_eq_ok_iff.mp accepted
  obtain ⟨tree', derived', rfl⟩ := parse_eq_ok_iff.mp longer
  cases derived with
  | coefficient numeral =>
    cases derived' with
    | coefficient numeral' => exact ⟨_, _, ⟨numeral.1, rfl⟩, numeral', rfl⟩
    | sum sum' =>
      obtain ⟨rest, paren⟩ := sum'.exists_cons
      exact absurd paren (IsNumeral.ne_paren_cons numeral.1)
  | sum sum =>
    cases derived' with
    | coefficient numeral' =>
      obtain ⟨rest, rfl⟩ := sum.exists_cons
      exact absurd (List.append_nil _) (IsNumeral.ne_paren_cons numeral'.1)
    | sum sum' =>
      exact absurd (sum'.widen accepted_isWithin_integers)
        (sum.widen accepted_isWithin_integers).not_append

end Poly

/-! ### Commands -/

/-- No keyword is another keyword with one more character. -/
theorem Operation.keyword_append_ne (operation operation' : Operation) :
    operation.keyword.toList ++ [char] ≠ operation'.keyword.toList := by
  intro same
  have shorter : operation'.keyword.toList.dropLast = operation.keyword.toList := by
    rw [← same, List.dropLast_concat]
  revert shorter
  cases operation <;> cases operation' <;> decide

/-- The keyword in front of a blank and what lies behind the blank are settled by the line. -/
theorem Query.keyword_append_inj {query query' : Query} {rest rest' : List Char}
    (same : query.keyword.toList ++ ' ' :: rest = query'.keyword.toList ++ ' ' :: rest') :
    query = query' ∧ rest = rest' := by
  have inFront (query : Query) (rest : List Char) :
      IsInFront query.keyword (query.keyword.toList ++ ' ' :: rest) :=
    ⟨' ' :: rest, rfl, by rintro _ ⟨⟩; decide⟩
  obtain rfl := (inFront query rest).unique (same ▸ inFront query' rest')
  exact ⟨rfl, (List.cons.inj (List.append_cancel_left same)).2⟩

namespace Command

/-- Where a command and the same line with one more character are both recognised, both have the
same keyword with an argument. -/
theorem isArgument_of_parse_append {command command' : Command}
    (accepted : parse text = .ok command)
    (longer : parse (text ++ [char]) = .ok command') :
    ∃ query numeral value value', text = query.keyword.toList ++ ' ' :: numeral ∧
      (query.IsArgument numeral value ∧ command = .withArgument query value) ∧
      query.IsArgument (numeral ++ [char]) value' ∧ command' = .withArgument query value' := by
  cases command with
  | plain operation =>
    obtain rfl := parse_eq_plain_iff.mp accepted
    cases command' with
    | plain operation' =>
      exact absurd (parse_eq_plain_iff.mp longer) (operation.keyword_append_ne operation')
    | withArgument query value =>
      -- The argument is not empty, so the blank in front of it would be in the keyword.
      obtain ⟨numeral, same, argument⟩ := parse_eq_withArgument_iff.mp longer
      obtain ⟨init, last, rfl⟩ := (List.eq_nil_or_concat' numeral).resolve_left
        (Query.isArgument_iff.mp argument).1.ne_nil
      rw [← List.cons_append, ← List.append_assoc] at same
      refine absurd ?_ operation.blank_notMem_keyword
      rw [(List.append_inj' same rfl).1]
      exact List.mem_append_right _ List.mem_cons_self
  | withArgument query value =>
    obtain ⟨numeral, rfl, argument⟩ := parse_eq_withArgument_iff.mp accepted
    cases command' with
    | plain operation =>
      refine absurd ?_ operation.blank_notMem_keyword
      rw [← parse_eq_plain_iff.mp longer, List.append_assoc]
      exact List.mem_append_right _ List.mem_cons_self
    | withArgument query' value' =>
      obtain ⟨numeral', same, argument'⟩ := parse_eq_withArgument_iff.mp longer
      rw [List.append_assoc] at same
      obtain ⟨rfl, rfl⟩ := Query.keyword_append_inj same
      exact ⟨query, numeral, value, value', rfl, ⟨argument, rfl⟩, argument', rfl⟩

end Command

/-! ### Lines -/

namespace Line

/-- A line that ends in an integer literal, and the line that it becomes when one more character
makes a longer literal of it that is in the range of its place. -/
inductive Grows (char : Char) : List Char → Line → Line → Prop
  | coefficient {literal : List Char} {value value' : Int} (numeral : IsNumeral true literal value)
      (longer : IsNumeral true (literal ++ [char]) value')
      (inRange : -2 ^ 63 ≤ value' ∧ value' ≤ 2 ^ 63 - 1) :
      Grows char literal (.poly (.const value)) (.poly (.const value'))
  | argument (query : Query) {literal : List Char} {value value' : Int}
      (numeral : query.IsArgument literal value)
      (longer : query.IsArgument (literal ++ [char]) value') :
      Grows char (query.keyword.toList ++ ' ' :: literal) (.command (.withArgument query value))
        (.command (.withArgument query value'))

theorem Grows.isDigit {line line' : Line} (grows : Grows char text line line') :
    char.isDigit = true := by
  cases grows with
  | coefficient numeral longer => exact numeral.isDigit_of_append longer
  | argument query numeral longer =>
    exact (Query.isArgument_iff.mp numeral).1.isDigit_of_append (Query.isArgument_iff.mp longer).1

theorem beginsWithLetter_append_iff (nonempty : text ≠ []) :
    BeginsWithLetter (text ++ [char]) ↔ BeginsWithLetter text := by
  rw [← isCommand_iff, ← isCommand_iff, isCommand, isCommand,
    List.head?_append_of_ne_nil _ nonempty]

/-- What an accepted line with one more character is read as. -/
theorem reading_append_iff {number number' : Int} {line line' : Line}
    (accepted : reading number text = .ok line) :
    reading number' (text ++ [char]) = .ok line' ↔ Grows char text line line' := by
  constructor
  · intro longer
    rcases reading_eq_ok_iff.mp accepted with ⟨command, named, rfl⟩ | ⟨poly, derived, rfl⟩
    · have begins := Command.beginsWithLetter_of_parse named
      rcases reading_eq_ok_iff.mp longer with ⟨command', named', rfl⟩ | ⟨poly', derived', rfl⟩
      · obtain ⟨query, numeral, value, value', rfl, ⟨argument, rfl⟩, argument', rfl⟩ :=
          Command.isArgument_of_parse_append named named'
        exact .argument query argument argument'
      · exact absurd (begins.of_prefix (List.prefix_append text [char]))
          (Poly.not_beginsWithLetter_of_parse derived')
    · rcases reading_eq_ok_iff.mp longer with ⟨command', named', rfl⟩ | ⟨poly', derived', rfl⟩
      · obtain ⟨tree, isPoly, _⟩ := Poly.parse_eq_ok_iff.mp derived
        have nonempty := (isPoly.widen Grammar.accepted_isWithin_integers).ne_nil
        exact absurd ((beginsWithLetter_append_iff nonempty).mp
          (Command.beginsWithLetter_of_parse named')) (Poly.not_beginsWithLetter_of_parse derived)
      · obtain ⟨value, value', ⟨numeral, rfl⟩, ⟨numeral', inRange⟩, rfl⟩ :=
          Poly.isNumeral_of_parse_append derived derived'
        exact .coefficient numeral numeral' (Integer.Kind.admits_iff.mp inRange)
  · intro grows
    rw [reading_eq_ok_iff]
    cases grows with
    | coefficient numeral longer inRange =>
      exact Or.inr ⟨_, Poly.parse_eq_ok_iff.mpr
        ⟨_, .coefficient ⟨longer, Integer.Kind.admits_iff.mpr inRange⟩, rfl⟩, rfl⟩
    | argument query numeral longer =>
      exact Or.inl ⟨_, Command.parse_eq_withArgument_iff.mpr
        ⟨_, List.append_assoc .., longer⟩, rfl⟩

end Line

namespace Session

open Log

/-- An accepted line with one more character is accepted if and only if the character is a digit,
the line is a coefficient and nothing else or a command with an argument, and the longer literal is
in the range of its place; the longer line then is the same with the longer number. By any character
that is no ASCII digit an accepted line becomes a refused one. Neither the numbers of the two lines
nor what is in scope make a difference. -/
theorem readLine_append_spec (number number' : Int) (text : List Char) (char : Char)
    (scope scope' : Scope) (line : Line)
    (accepted : (readLine number text scope).value = .ok line) :
    (∀ line', (readLine number' (text ++ [char]) scope').value = .ok line' ↔
        char.isDigit = true ∧ Line.Grows char text line line') ∧
      (char.isDigit = false → ∃ complaint,
        (readLine number' (text ++ [char]) scope').value = .error ⟨number', complaint⟩) := by
  rw [(readLine_yields number text).gives] at accepted
  rw [(readLine_yields number' (text ++ [char])).gives]
  refine ⟨fun line' => ?_, fun noDigit => ?_⟩
  · rw [Line.reading_append_iff accepted, iff_and_self]
    exact Line.Grows.isDigit
  · cases read : Line.reading number' (text ++ [char]) with
    | ok line' =>
      have digit := ((Line.reading_append_iff accepted).mp read).isDigit
      rw [noDigit] at digit
      cases digit
    | error diagnostic =>
      obtain ⟨line', complaint⟩ := diagnostic
      obtain rfl : line' = number' := Line.line_eq_of_reading_eq_error read
      exact ⟨complaint, rfl⟩

/-- An argument grows by a digit, and a blank behind it is too much. -/
theorem readLine_append_spec_argument :
    (readLine 1 "AT -12".toList {}).value = .ok (.command (.withArgument .valueAt (-12))) ∧
      (readLine 1 "AT -123".toList {}).value = .ok (.command (.withArgument .valueAt (-123))) ∧
      ' '.isDigit = false ∧
      ∃ complaint, (readLine 1 "AT -12 ".toList {}).value = .error ⟨1, complaint⟩ := by
  have argument : Query.valueAt.IsArgument "-12".toList (-12) :=
    ⟨.negative rfl (by decide), by decide⟩
  have longer : Query.valueAt.IsArgument "-123".toList (-123) :=
    ⟨.negative rfl (by decide), by decide⟩
  have accepted : (readLine 1 "AT -12".toList {}).value =
      .ok (.command (.withArgument .valueAt (-12))) := by
    rw [(readLine_yields 1 _).gives, Line.reading_eq_ok_iff]
    exact Or.inl ⟨_, Command.parse_eq_withArgument_iff.mpr ⟨_, rfl, argument⟩, rfl⟩
  have grows : Line.Grows '3' "AT -12".toList (.command (.withArgument .valueAt (-12)))
      (.command (.withArgument .valueAt (-123))) := .argument .valueAt argument longer
  exact ⟨accepted, ((readLine_append_spec 1 1 _ '3' {} {} _ accepted).1 _).mpr ⟨rfl, grows⟩, rfl,
    (readLine_append_spec 1 1 _ ' ' {} {} _ accepted).2 rfl⟩

end Session

end PolyIntake
