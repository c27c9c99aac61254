/-
This file proves that a line is refused at the right place. The position of a
refusal is the first at which the line cannot be right any more: some accepted
line has the same characters in front of it, and none has the character at the
position as well. A literal that is out of range is the exception, as it cannot
be told from one in range by its first digits; it is blamed as a whole, at the
position where it begins.

The proof follows the recursive parser with what a line is awaited to go on with.
Every part that was read leads from one thing that is awaited to the next, so a
refusal anywhere inside the nesting only has to be weighed against what is
awaited there.
-/

import PolyIntake.Proofs.Parsing
import PolyIntake.Proofs.Prefixes

namespace PolyIntake

/-! ### What a refusal is about -/

/-- The range that a literal of some kind was found out of. -/
def Integer.Fault.exceeded? (kind : Integer.Kind) : Integer.Fault → Option Integer.Kind
  | .missingDigit => none
  | .outOfRange _ => some kind
  | .unexpected _ => none

namespace Parser

open Grammar

/-- The range that a coefficient or an exponent was found out of. -/
def Fault.exceeded? : Fault → Option Integer.Kind
  | .coefficient fault => fault.exceeded? .signed64
  | .exponent fault => fault.exceeded? .unsigned31
  | _ => none

/-- What kind of integer has its place behind a text: a coefficient at the beginning of a line
and behind a parenthesis, an exponent behind a comma. -/
inductive IsPlaceOf : Integer.Kind → List Char → Prop
  | line : IsPlaceOf .signed64 []
  | coefficient (before : List Char) : IsPlaceOf .signed64 (before ++ ['('])
  | exponent (before : List Char) : IsPlaceOf .unsigned31 (before ++ [','])

/-- Behind a text stands an integer literal that is out of the range of its place. It is as long
as it can be, as no digit follows and the place in front is neither behind a digit nor behind a
minus sign. -/
structure IsOutOfRange (kind : Integer.Kind) (before behind : List Char) : Prop where
  place : IsPlaceOf kind before
  literal : ∃ literal rest value, behind = literal ++ rest ∧ NoDigitNext rest ∧
    IsNumeral kind.signed literal value ∧ kind.admits value = false

/-- A line is right up to a position and wrong from there on, be it by the next character or by a
literal that is out of range. -/
inductive FailsAt : List Char → Nat → Option Integer.Kind → Prop
  | stuck {before behind : List Char} (viable : IsViable before)
      (dead : ∀ char ∈ behind.head?, IsDead (before ++ [char])) :
      FailsAt (before ++ behind) before.length none
  | exceeded {kind : Integer.Kind} {before behind : List Char} (viable : IsViable before)
      (outOfRange : IsOutOfRange kind before behind) :
      FailsAt (before ++ behind) before.length (some kind)

theorem FailsAt.stuck_nil {text : List Char} (viable : IsViable text) :
    FailsAt text text.length none := by
  have stuck := @FailsAt.stuck text [] viable fun _ member => by cases member
  rwa [List.append_nil] at stuck

theorem FailsAt.stuck_cons {before behind : List Char} {char : Char} (viable : IsViable before)
    (dead : IsDead (before ++ [char])) : FailsAt (before ++ char :: behind) before.length none := by
  refine .stuck viable fun other member => ?_
  obtain rfl : char = other := Option.some.inj member
  exact dead

/-! ### Refused numerals -/

/-- A refused numeral is blamed where it stops being one, or where it begins if it is out of
range. -/
theorem failsAt_of_read {kind : Integer.Kind} (short : kind.IsShort)
    (zero : kind.admits 0 = true) {ends : Option Char → Bool}
    (stops : ∀ rest : List Char, ends rest.head? = true → NoDigitNext rest)
    {before text : List Char} (awaits : AwaitsNumeral kind ends before text.head?)
    (place : IsPlaceOf kind before) {refusal : Refusal Integer.Fault}
    (refused : Integer.read kind ends ⟨text, before.length⟩ = .error refusal) :
    FailsAt (before ++ text) refusal.position (refusal.cause.exceeded? kind) := by
  rcases Integer.exists_isNumeral_or_read_eq kind ends text before.length with
    ⟨literal, rest, value, rfl, numeral, noDigit⟩ | ⟨sign, rest, rfl, misses, missing⟩
  · rw [Integer.read_of_isNumeral short ends numeral noDigit] at refused
    split at refused
    case isTrue admitted =>
      have viable := awaits.completes literal value numeral admitted
      split at refused
      · cases refused
      case isFalse notEnded =>
        cases refused
        rw [← List.length_append, ← List.append_assoc]
        refine .stuck viable fun char head => ?_
        obtain ⟨tail, rfl⟩ := List.head?_eq_some_iff.mp head
        exact awaits.isDead_behind stops numeral noDigit notEnded
    case isFalse notAdmitted =>
      cases refused
      have outOfRange : kind.admits value = false := by simpa using notAdmitted
      -- Nothing but the value is wrong, and the whole literal is blamed for it.
      exact .exceeded (awaits.isViable zero)
        ⟨place, literal, rest, value, rfl, noDigit, numeral, outOfRange⟩
  · rw [missing] at refused
    cases refused
    have viable := awaits.isViable_sign zero misses
    rw [← List.length_append, ← List.append_assoc]
    refine .stuck viable fun char head => ?_
    obtain ⟨tail, rfl⟩ := List.head?_eq_some_iff.mp head
    exact awaits.isDead_sign misses

theorem failsAt_of_readCoefficient {before text : List Char} (awaits : Awaits Literal before)
    (place : IsPlaceOf .signed64 before) (notParen : text.head? ≠ some '(') {refusal : SyntaxError}
    (refused : readCoefficient ⟨text, before.length⟩ = .error refusal) :
    FailsAt (before ++ text) refusal.position refusal.cause.exceeded? := by
  unfold readCoefficient at refused
  cases read : Integer.read .signed64 endsPoly ⟨text, before.length⟩ with
  | error fault =>
    rw [read] at refused
    cases refused
    exact failsAt_of_read Integer.isShort_signed64 (by decide)
      (fun _ => noDigitNext_of_endsPoly) (awaits.coefficient notParen) place read
  | ok result =>
    rw [read] at refused
    cases refused

/-! ### Refused monomials -/

/-- Behind a literal inside of a sum, the comma, the exponent or the parenthesis is blamed. -/
theorem failsAt_of_closeMonomial {before text : List Char} {coefficient : Poly} {behind : Cursor}
    (awaits : Awaits OpenSum before)
    (read : descent ⟨text, before.length⟩ = .ok (coefficient, behind)) {refusal : SyntaxError}
    (refused : closeMonomial behind = .error refusal) :
    FailsAt (before ++ text) refusal.position refusal.cause.exceeded? := by
  obtain ⟨literal, tree, ⟨split, position⟩, derived, ends, _⟩ := descent_eq_ok_iff.mp read
  obtain ⟨rest, place⟩ := behind
  obtain rfl : text = literal ++ rest := split
  obtain rfl : place = before.length + literal.length := position
  rw [← List.length_append] at refused
  rw [← List.append_assoc]
  unfold closeMonomial at refused
  rcases endsPoly_iff.mp ends with atEnd | comma
  · obtain rfl : rest = [] := List.head?_eq_none_iff.mp atEnd
    cases refused
    rw [List.append_nil]
    exact .stuck_nil (awaits.literal.isViable ⟨tree, derived⟩)
  · obtain ⟨rest, rfl⟩ := List.head?_eq_some_iff.mp comma
    have joint : before ++ literal ++ ',' :: rest = before ++ (literal ++ [',']) ++ rest := by simp
    have position : Cursor.advance ⟨',' :: rest, (before ++ literal).length⟩ 1 =
        ⟨rest, (before ++ (literal ++ [','])).length⟩ := by
      simp [Cursor.advance, Nat.add_assoc]
    rw [if_pos (by rfl), position] at refused
    rw [joint]
    split at refused
    case h_1 fault read =>
      cases refused
      refine failsAt_of_read Integer.isShort_unsigned31 (by decide)
        (fun _ => noDigitNext_of_endsExponent) (awaits.closing derived).exponent ?_ read
      rw [← List.append_assoc]
      exact .exponent _
    · cases refused

/-- Behind a whole monomial, its sum goes on or ends. -/
theorem awaits_of_closeMonomial {before text : List Char} {coefficient : Poly}
    {behind next : Cursor} {exponent : Int} (awaits : Awaits OpenSum before)
    (read : descent ⟨text, before.length⟩ = .ok (coefficient, behind))
    (closed : closeMonomial behind = .ok (exponent, next)) :
    ∃ part, text = part ++ next.rest ∧ next.position = (before ++ part).length ∧
      Awaits FurtherMonomials (before ++ part) := by
  obtain ⟨literal, tree, first, derived, _⟩ := descent_eq_ok_iff.mp read
  obtain ⟨numeral, second, isExponent⟩ := closeMonomial_eq_ok_iff.mp closed
  have spans := first.append second
  refine ⟨_, spans.rest, ?_, ?_⟩
  · rw [List.length_append]
    exact spans.position
  · simpa using (awaits.closing derived).further isExponent

/-- Behind a monomial, a plus sign without a parenthesis behind it is blamed there. -/
theorem failsAt_of_noMonomial {before rest : List Char}
    (awaits : Awaits FurtherMonomials before) (notParen : rest.head? ≠ some '(') :
    FailsAt (before ++ '+' :: rest) (before.length + 1) none := by
  have joint : before ++ '+' :: rest = before ++ ['+'] ++ rest := by simp
  have viable : IsViable (before ++ ['+']) := by
    have whole := awaits.isViable FurtherMonomials.zero
    have split : before ++ ['+', '(', '0', ',', '0', ')'] =
        before ++ ['+'] ++ ['(', '0', ',', '0', ')'] := by simp
    exact IsViable.of_append (split ▸ whole)
  rw [joint, show before.length + 1 = (before ++ ['+']).length by simp]
  refine .stuck viable fun char head => ?_
  rw [List.append_assoc]
  refine awaits.isDead ?_
  rintro text after other (rfl | ⟨text', rfl, _⟩) ends split
  · rw [List.nil_append] at split
    rw [← split] at ends
    exact absurd ends Bool.false_ne_true
  · obtain ⟨_, tail⟩ := List.cons.inj split
    obtain ⟨rfl, _⟩ := List.cons.inj tail
    exact notParen head

/-- Behind a monomial, anything but a plus sign, a comma or the end of the line is blamed. -/
theorem failsAt_of_unexpected {before rest : List Char} {char : Char}
    (awaits : Awaits FurtherMonomials before) (notPlus : char ≠ '+')
    (notEnd : ¬ endsPoly (some char) = true) :
    FailsAt (before ++ char :: rest) before.length none := by
  refine .stuck_cons (awaits.isViable FurtherMonomials.zero).of_append (awaits.isDead ?_)
  rintro text after other (rfl | ⟨text', rfl, _⟩) ends split
  · rw [List.nil_append] at split
    rw [← split] at ends
    exact notEnd ends
  · obtain ⟨rfl, _⟩ := List.cons.inj split
    exact notPlus rfl

/-! ### Refused literals -/

/-- Something that no literal begins with is blamed. -/
theorem failsAt_of_noLiteral {before rest : List Char} {char : Char}
    (awaits : Awaits Literal before) (notParen : char ≠ '(')
    (notNumeral : ¬ (char.isDigit || char == '-') = true) :
    FailsAt (before ++ char :: rest) before.length none := by
  refine .stuck_cons (awaits.isViable Literal.zero).of_append ?_
  refine awaits.isDead fun text after other literal _ split => ?_
  obtain ⟨head, tail, rfl, start⟩ := literal.exists_cons
  obtain ⟨rfl, _⟩ := List.cons.inj split
  rcases start with paren | start
  · exact notParen paren
  · exact notNumeral (by simpa using start)

-- The recursion is the parser's own: a parenthesis makes the text shorter, and between them a sum
-- is tried as a literal first. What is awaited in front of the text says all that is needed of the
-- monomials and parentheses that are still open.
mutual

theorem failsAt_of_descent {before text : List Char} (awaits : Awaits Literal before)
    (place : IsPlaceOf .signed64 before) {refusal : SyntaxError}
    (refused : descent ⟨text, before.length⟩ = .error refusal) :
    FailsAt (before ++ text) refusal.position refusal.cause.exceeded? := by
  match text with
  | [] =>
    rw [descent_nil] at refused
    cases refused
    rw [List.append_nil]
    exact .stuck_nil (awaits.isViable Literal.zero).of_append
  | char :: rest =>
    by_cases paren : char = '('
    · have joint : before ++ char :: rest = before ++ ['('] ++ rest := by simp [paren]
      have position : before.length + 1 = (before ++ ['(']).length := by simp
      rw [paren, descent_paren, position] at refused
      rw [joint]
      exact failsAt_of_descentSum awaits.openParen (.coefficient before) refused
    · rw [descent_of_ne_paren paren] at refused
      split at refused
      · split at refused
        case h_1 fault read =>
          cases refused
          exact failsAt_of_readCoefficient awaits place (by simpa using paren) read
        · cases refused
      case isFalse notNumeral =>
        cases refused
        exact failsAt_of_noLiteral awaits paren notNumeral
termination_by (text.length, 0)

theorem failsAt_of_descentSum {finished : List Monomial} {before text : List Char}
    (awaits : Awaits OpenSum before) (place : IsPlaceOf .signed64 before) {refusal : SyntaxError}
    (refused : descentSum finished ⟨text, before.length⟩ = .error refusal) :
    FailsAt (before ++ text) refusal.position refusal.cause.exceeded? := by
  rw [descentSum_eq] at refused
  split at refused
  case h_1 fault read =>
    cases refused
    exact failsAt_of_descent awaits.literal place read
  case h_2 coefficient behind read =>
    split at refused
    case h_1 fault close =>
      cases refused
      exact failsAt_of_closeMonomial awaits read close
    case h_2 exponent next close =>
      obtain ⟨part, whole, position, further⟩ := awaits_of_closeMonomial awaits read close
      rw [whole, ← List.append_assoc]
      split at refused
      case h_1 plus =>
        obtain ⟨tail, behindPart⟩ := List.head?_eq_some_iff.mp plus
        rw [behindPart] at whole ⊢
        split at refused
        case isTrue paren =>
          have opening : tail.head? = some '(' := by
            simpa [Cursor.peek, Cursor.advance, behindPart] using paren
          obtain ⟨rest, rfl⟩ := List.head?_eq_some_iff.mp opening
          have joint : before ++ part ++ '+' :: '(' :: rest =
              before ++ part ++ ['+', '('] ++ rest := by simp
          have inside : next.advance 2 = ⟨rest, (before ++ part ++ ['+', '(']).length⟩ := by
            simp [Cursor.advance, behindPart, position, Nat.add_assoc]
          have place : IsPlaceOf .signed64 (before ++ part ++ ['+', '(']) := by
            simpa using IsPlaceOf.coefficient (before ++ part ++ ['+'])
          rw [inside] at refused
          rw [joint]
          exact failsAt_of_descentSum further.openSum place refused
        case isFalse notParen =>
          cases refused
          have notOpening : tail.head? ≠ some '(' := by
            simpa [Cursor.peek, Cursor.advance, behindPart] using notParen
          show FailsAt _ (next.position + 1) none
          rw [position]
          exact failsAt_of_noMonomial further notOpening
      case h_2 => cases refused
      case h_3 => cases refused
      case h_4 char notPlus notComma head =>
        cases refused
        obtain ⟨tail, behindPart⟩ := List.head?_eq_some_iff.mp head
        rw [behindPart]
        show FailsAt _ next.position none
        rw [position]
        exact failsAt_of_unexpected further (by simpa using notPlus)
          (by simpa [endsPoly] using notComma)
termination_by (text.length, 1)
decreasing_by
  · apply Prod.Lex.right
    omega
  · apply Prod.Lex.left
    simp only [whole, List.length_append, List.length_cons]
    omega

end

/-! ### Refused lines -/

/-- What refuses the coefficient of a monomial refuses the sum. -/
theorem descentSum_of_error {finished : List Monomial} {cursor : Cursor} {refusal : SyntaxError}
    (refused : descent cursor = .error refusal) :
    descentSum finished cursor = .error refusal := by
  rw [descentSum_eq, refused]

/-- Behind the two checks, what refuses the literal refuses the line. -/
theorem parse_of_error {text : List Char} {refusal : SyntaxError}
    (legal : ∀ char ∈ text, isLegal char = true) (paired : balanced text = true)
    (refused : descent ⟨text, 0⟩ = .error refusal) : Poly.parse text = .error refusal := by
  have passed : illegal? text = none := illegalFrom_eq_none legal 0
  simp only [Poly.parse, passed, paired, parseAt_eq_descent, refused, if_true]

/-- Behind a whole literal, the comma is blamed. -/
theorem failsAt_of_trailing {text : List Char} {poly : Poly} {next : Cursor}
    (read : descent ⟨text, 0⟩ = .ok (poly, next)) (notAtEnd : ¬ next.rest.isEmpty = true) :
    FailsAt text next.position none := by
  obtain ⟨literal, tree, spans, derived, ends, _⟩ := descent_eq_ok_iff.mp read
  have whole : text = literal ++ next.rest := spans.rest
  have position : next.position = literal.length := by
    rw [spans.position]
    exact Nat.zero_add _
  rcases endsPoly_iff.mp ends with atEnd | comma
  · exact absurd (List.isEmpty_iff.mpr (List.head?_eq_none_iff.mp atEnd)) notAtEnd
  · obtain ⟨tail, behind⟩ := List.head?_eq_some_iff.mp comma
    rw [whole, position, behind]
    refine .stuck_cons ⟨[], tree, by rwa [List.append_nil]⟩ fun other tree' derived' => ?_
    -- A literal that has the comma in it would have another literal in front of the comma.
    have joint : literal ++ [','] ++ other ++ [] = literal ++ ',' :: other := by simp
    have rests := ((derived'.widen unbounded_isWithin_integers).append_inj
      (derived.widen accepted_isWithin_integers) rfl rfl joint).2
    cases rests

theorem failsAt_of_parse {text : List Char} {refusal : SyntaxError}
    (legal : ∀ char ∈ text, isLegal char = true) (paired : balanced text = true)
    (refused : Poly.parse text = .error refusal) :
    FailsAt text refusal.position refusal.cause.exceeded? := by
  unfold Poly.parse at refused
  rw [illegal?, illegalFrom_eq_none legal, if_pos paired, parseAt_eq_descent] at refused
  dsimp only at refused
  split at refused
  case h_1 fault read =>
    cases refused
    exact failsAt_of_descent Awaits.nil .line read
  case h_2 poly next read =>
    split at refused
    · cases refused
    case isFalse notAtEnd =>
      cases refused
      exact failsAt_of_trailing read notAtEnd

/-- A line of legal characters and paired parentheses is refused at the first position at which
it cannot be right any more, or where a literal begins that is out of the range of its place. Up
to the position it is the beginning of an accepted line. Unless a range is exceeded, it ends there
or is, with one character more, the beginning of no line at all. -/
theorem refusal_spec {text : List Char} {refusal : SyntaxError}
    (legal : ∀ char ∈ text, isLegal char = true) (paired : balanced text = true)
    (refused : Poly.parse text = .error refusal) :
    refusal.position ≤ text.length ∧ IsViable (text.take refusal.position) ∧
      (refusal.cause.exceeded? = none →
        refusal.position = text.length ∨ IsDead (text.take (refusal.position + 1))) ∧
      ∀ kind, refusal.cause.exceeded? = some kind →
        IsOutOfRange kind (text.take refusal.position) (text.drop refusal.position) := by
  have fails := failsAt_of_parse legal paired refused
  generalize refusal.position = position at fails ⊢
  generalize refusal.cause.exceeded? = exceeded at fails ⊢
  cases fails with
  | @stuck before behind viable dead =>
    rw [List.take_left]
    refine ⟨by simp, viable, fun _ => ?_, fun _ impossible => by cases impossible⟩
    cases behind with
    | nil => exact Or.inl (by rw [List.append_nil])
    | cons char rest =>
      right
      rw [List.take_length_add_append]
      exact dead char rfl
  | @exceeded kind before behind viable outOfRange =>
    rw [List.take_left, List.drop_left]
    refine ⟨by simp, viable, (fun impossible => by cases impossible), ?_⟩
    rintro _ ⟨⟩
    exact outOfRange

/-- A plus sign between two numbers, and an exponent with one bit too many, both inside of a
monomial of a monomial. -/
theorem refusal_spec_nested :
    (Poly.parse "((1+2,3),4)".toList = .error ⟨3, .coefficient (.unexpected (some '+'))⟩ ∧
      IsViable "((1".toList ∧ IsDead "((1+".toList) ∧
    (Poly.parse "((1,2147483648),2)".toList =
        .error ⟨4, .exponent (.outOfRange "2147483648".toList)⟩ ∧
      IsOutOfRange .unsigned31 "((1,".toList "2147483648),2)".toList) := by
  have misplaced : Poly.parse "((1+2,3),4)".toList =
      .error ⟨3, .coefficient (.unexpected (some '+'))⟩ := by
    have number : descent ⟨"1+2,3),4)".toList, 2⟩ =
        .error ⟨3, .coefficient (.unexpected (some '+'))⟩ :=
      @descent_of_ne_paren '1' (by decide) "+2,3),4)".toList 2
    have inner : descent ⟨"(1+2,3),4)".toList, 1⟩ = _ :=
      (descent_paren _ _).trans (descentSum_of_error number)
    have outer : descent ⟨"((1+2,3),4)".toList, 0⟩ = _ :=
      (descent_paren _ _).trans (descentSum_of_error inner)
    exact parse_of_error (List.all_eq_true.mp rfl) rfl outer
  have tooLarge : Poly.parse "((1,2147483648),2)".toList =
      .error ⟨4, .exponent (.outOfRange "2147483648".toList)⟩ := by
    have number : descent ⟨"1,2147483648),2)".toList, 2⟩ =
        .ok (.const 1, ⟨",2147483648),2)".toList, 3⟩) :=
      @descent_of_ne_paren '1' (by decide) ",2147483648),2)".toList 2
    have monomial : descentSum [] ⟨"1,2147483648),2)".toList, 2⟩ =
        .error ⟨4, .exponent (.outOfRange "2147483648".toList)⟩ := by
      rw [descentSum_eq, number]
      rfl
    have inner : descent ⟨"(1,2147483648),2)".toList, 1⟩ = _ :=
      (descent_paren _ _).trans monomial
    have outer : descent ⟨"((1,2147483648),2)".toList, 0⟩ = _ :=
      (descent_paren _ _).trans (descentSum_of_error inner)
    exact parse_of_error (List.all_eq_true.mp rfl) rfl outer
  obtain ⟨_, viable, dead, _⟩ := refusal_spec (List.all_eq_true.mp rfl) rfl misplaced
  obtain ⟨_, _, _, outOfRange⟩ := refusal_spec (List.all_eq_true.mp rfl) rfl tooLarge
  refine ⟨⟨misplaced, viable, ?_⟩, tooLarge, outOfRange .unsigned31 rfl⟩
  exact (dead rfl).resolve_left (by decide)

end Parser

end PolyIntake
