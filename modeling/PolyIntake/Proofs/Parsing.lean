/-
This file proves that the parser accepts exactly what the grammar derives, and
says which value it returns.

What a parser takes up is described as a span: the text between two places. The
parser of a literal returns a place if and only if the span up to there derives
a literal and a comma or the end of the line comes next, and the value it
returns is the derived tree with its sums added up. For a whole line neither of
the checks in front of the parser makes a difference to that.

The value is settled by the text alone, since it is canonical and denotes what
the literals of the text add up to.
-/

import PolyIntake.Proofs.Descent
import PolyIntake.Proofs.Grammar
import PolyIntake.Proofs.Literals
import PolyIntake.Proofs.NormalForm

namespace PolyIntake

/-! ### Spans -/

namespace Cursor

/-- The text between two places of a line. -/
structure Spans (start : Cursor) (text : List Char) (stop : Cursor) : Prop where
  rest : start.rest = text ++ stop.rest
  position : stop.position = start.position + text.length

variable {start middle stop : Cursor} {text text' : List Char}

theorem spans_mk (text rest : List Char) (position : Nat) :
    Spans ⟨text ++ rest, position⟩ text ⟨rest, position + text.length⟩ :=
  ⟨rfl, rfl⟩

theorem spans_advance {char : Char} (head : start.peek = some char) :
    start.Spans [char] (start.advance 1) := by
  obtain ⟨rest, position⟩ := start
  cases rest with
  | nil => cases head
  | cons char' rest =>
    cases head
    exact spans_mk [char] rest position

theorem Spans.eq_advance (spans : start.Spans text stop) : stop = start.advance text.length := by
  obtain ⟨rest, position⟩ := stop
  obtain rfl : position = start.position + text.length := spans.position
  rw [advance, spans.rest, List.drop_left]

theorem Spans.append (first : start.Spans text middle) (second : middle.Spans text' stop) :
    start.Spans (text ++ text') stop := by
  refine ⟨?_, ?_⟩
  · rw [first.rest, second.rest, List.append_assoc]
  · rw [second.position, first.position, List.length_append, Nat.add_assoc]

/-- A span can be cut anywhere. -/
theorem Spans.exists_of_append (spans : start.Spans (text ++ text') stop) :
    ∃ middle, start.Spans text middle ∧ middle.Spans text' stop := by
  refine ⟨⟨text' ++ stop.rest, start.position + text.length⟩, ⟨?_, rfl⟩, rfl, ?_⟩
  · rw [spans.rest, List.append_assoc]
  · rw [spans.position, List.length_append, Nat.add_assoc]

theorem Spans.peek_cons {char : Char} (spans : start.Spans (char :: text) stop) :
    start.peek = some char := by
  rw [peek, spans.rest]
  rfl

theorem Spans.advance_cons {char : Char} (spans : start.Spans (char :: text) stop) :
    (start.advance 1).Spans text stop := by
  refine ⟨?_, ?_⟩
  · rw [advance, spans.rest]
    rfl
  · rw [spans.position, List.length_cons, Nat.add_comm text.length, ← Nat.add_assoc]
    rfl

end Cursor

/-! ### Numerals and the ends of monomials -/

/-- The reader returns what a literal in range is worth. The terminators must not be digits. -/
theorem Integer.read_eq_ok_iff {kind : Kind} (short : kind.IsShort)
    {terminates : Option Char → Bool}
    (stops : ∀ rest : List Char, terminates rest.head? = true → NoDigitNext rest)
    {cursor next : Cursor} {value : Int} :
    read kind terminates cursor = .ok (value, next) ↔
      ∃ text, cursor.Spans text next ∧ (IsNumeral kind.signed text value ∧
        kind.admits value = true) ∧ terminates next.peek = true := by
  constructor
  · intro accepted
    obtain ⟨text, rest, position, numeral, admitted, ends⟩ := isNumeral_of_read short accepted
    exact ⟨text, ⟨rest, position⟩, ⟨numeral, admitted⟩, ends⟩
  · rintro ⟨text, spans, ⟨numeral, admitted⟩, ends⟩
    obtain ⟨rest, position⟩ := cursor
    obtain ⟨rest', position'⟩ := next
    obtain rfl : rest = text ++ rest' := spans.rest
    obtain rfl : position' = position + text.length := spans.position
    rw [read_of_isNumeral short terminates numeral (stops rest' ends), if_pos admitted]
    exact if_pos ends

namespace Parser

open Grammar

theorem readCoefficient_eq_ok_iff {cursor next : Cursor} {value : Int} :
    readCoefficient cursor = .ok (value, next) ↔
      ∃ text, cursor.Spans text next ∧ Numerals.accepted.coefficient text value ∧
        endsPoly next.peek = true := by
  refine Iff.trans ?_ (Integer.read_eq_ok_iff Integer.isShort_signed64
    fun _ => noDigitNext_of_endsPoly)
  unfold readCoefficient
  cases Integer.read .signed64 endsPoly cursor <;> simp [Except.mapError]

theorem endsPoly_iff {char : Option Char} :
    endsPoly char = true ↔ char = none ∨ char = some ',' := by
  simp [endsPoly]

theorem noDigitNext_of_endsExponent {rest : List Char} (ends : endsExponent rest.head? = true) :
    NoDigitNext rest := by
  cases rest with
  | nil => exact noDigitNext_nil
  | cons char rest =>
    have paren : char = ')' := by simpa [endsExponent] using ends
    exact noDigitNext_cons (by rw [paren]; decide) rest

theorem closeMonomial_eq_ok_iff {cursor next : Cursor} {exponent : Int} :
    closeMonomial cursor = .ok (exponent, next) ↔
      ∃ text, cursor.Spans (',' :: text ++ [')']) next ∧
        Numerals.accepted.exponent text exponent := by
  have exponents := @Integer.read_eq_ok_iff .unsigned31 Integer.isShort_unsigned31 endsExponent
    (fun _ => noDigitNext_of_endsExponent) (cursor.advance 1)
  unfold closeMonomial
  constructor
  · intro accepted
    split at accepted
    case isTrue comma =>
      split at accepted
      · cases accepted
      case h_2 value behind read =>
        cases accepted
        obtain ⟨text, spans, numeral, ends⟩ := exponents.mp read
        have opening := Cursor.spans_advance (beq_iff_eq.mp comma)
        have closing := Cursor.spans_advance (beq_iff_eq.mp ends)
        exact ⟨text, (opening.append spans).append closing, numeral⟩
    · cases accepted
  · rintro ⟨text, spans, numeral⟩
    obtain ⟨behind, inner, closing⟩ := spans.exists_of_append
    have read := exponents.mpr ⟨text, inner.advance_cons, numeral,
      beq_iff_eq.mpr closing.peek_cons⟩
    rw [if_pos (beq_iff_eq.mpr inner.peek_cons), read, closing.eq_advance]
    rfl

/-! ### What the parser returns is derived -/

/-- The text from one place to another is a literal, and the value is what it adds up to. -/
def DerivesPoly (cursor : Cursor) (poly : Poly) (next : Cursor) : Prop :=
  ∃ text tree, cursor.Spans text next ∧ IsPoly .accepted text tree ∧
    endsPoly next.peek = true ∧ poly = tree.normalized

/-- The text from one place to another is a sum of which the first parenthesis is open already,
and the value is what its monomials and the finished ones add up to. -/
def DerivesSum (finished : List Monomial) (cursor : Cursor) (poly : Poly) (next : Cursor) : Prop :=
  ∃ text monomials, cursor.Spans text next ∧ IsSum .accepted ('(' :: text) monomials ∧
    endsPoly next.peek = true ∧
    poly = .ofMonomials (finished.reverse ++ Monomial.normalizedAll monomials)

theorem derivesSum_single {finished : List Monomial} {cursor next : Cursor} {text : List Char}
    {exponent : Int} {tree : Poly} (spans : cursor.Spans text next)
    (first : IsMonomial .accepted ('(' :: text) ⟨exponent, tree⟩)
    (ends : endsPoly next.peek = true) :
    DerivesSum finished cursor (.ofMonomials (⟨exponent, tree.normalized⟩ :: finished).reverse)
      next := by
  refine ⟨text, [⟨exponent, tree⟩], spans, .single first, ends, ?_⟩
  rw [List.reverse_cons]
  rfl

theorem derivesSum_more {finished : List Monomial} {cursor middle next : Cursor}
    {text : List Char} {exponent : Int} {poly tree : Poly}
    (spans : cursor.Spans (text ++ ['+', '(']) middle)
    (first : IsMonomial .accepted ('(' :: text) ⟨exponent, tree⟩)
    (others : DerivesSum (⟨exponent, tree.normalized⟩ :: finished) middle poly next) :
    DerivesSum finished cursor poly next := by
  obtain ⟨text', monomials, spans', sum, ends, value⟩ := others
  refine ⟨text ++ '+' :: '(' :: text', ⟨exponent, tree⟩ :: monomials, ?_, .more first sum, ends, ?_⟩
  · have whole := spans.append spans'
    rwa [List.append_assoc] at whole
  · rw [value, List.reverse_cons, List.append_assoc]
    rfl

mutual

theorem derivesPoly_of_descent {cursor next : Cursor} {poly : Poly}
    (accepted : descent cursor = .ok (poly, next)) :
    DerivesPoly cursor poly next := by
  match cursor with
  | ⟨[], position⟩ =>
    rw [descent_nil] at accepted
    cases accepted
  | ⟨char :: rest, position⟩ =>
    by_cases paren : char = '('
    · subst paren
      rw [descent_paren] at accepted
      obtain ⟨text, monomials, spans, sum, ends, value⟩ := derivesSum_of_descentSum accepted
      refine ⟨'(' :: text, ⟨0, monomials⟩, ?_, .sum sum, ends, ?_⟩
      · exact (Cursor.spans_mk ['('] rest position).append spans
      · rw [value, Poly.normalized_of_ne_nil sum.ne_nil]
        rfl
    · rw [descent_of_ne_paren paren] at accepted
      split at accepted
      · split at accepted
        · cases accepted
        case h_2 value behind read =>
          cases accepted
          obtain ⟨text, spans, numeral, ends⟩ := readCoefficient_eq_ok_iff.mp read
          exact ⟨text, .const value, spans, .coefficient numeral, ends, rfl⟩
      · cases accepted
termination_by (cursor.rest.length, 0)
decreasing_by
  apply Prod.Lex.left
  simp

theorem derivesSum_of_descentSum {finished : List Monomial} {cursor next : Cursor} {poly : Poly}
    (accepted : descentSum finished cursor = .ok (poly, next)) :
    DerivesSum finished cursor poly next := by
  rw [descentSum_eq] at accepted
  split at accepted
  · cases accepted
  case h_2 coefficient behind literal =>
    obtain ⟨text, tree, inner, derived, _, rfl⟩ := derivesPoly_of_descent literal
    split at accepted
    · cases accepted
    case h_2 exponent after closed =>
      obtain ⟨text', closing, numeral⟩ := closeMonomial_eq_ok_iff.mp closed
      have spans := inner.append closing
      have first : IsMonomial .accepted ('(' :: (text ++ (',' :: text' ++ [')'])))
          ⟨exponent, tree⟩ := by
        rw [← List.append_assoc]
        exact .mk derived numeral
      have shorter : after.rest.length < cursor.rest.length :=
        Nat.lt_trans (length_rest_lt_of_closeMonomial closed) (length_rest_lt_of_descent literal)
      split at accepted
      case h_1 plus =>
        split at accepted
        case isTrue paren =>
          have joint := (Cursor.spans_advance plus).append
            (Cursor.spans_advance (beq_iff_eq.mp paren))
          rw [Cursor.advance_advance] at joint
          exact derivesSum_more (spans.append joint) first (derivesSum_of_descentSum accepted)
        · cases accepted
      case h_2 absent =>
        cases accepted
        exact derivesSum_single spans first (by rw [absent]; rfl)
      case h_3 comma =>
        cases accepted
        exact derivesSum_single spans first (by rw [comma]; rfl)
      case h_4 => cases accepted
termination_by (cursor.rest.length, 1)
decreasing_by
  · apply Prod.Lex.right
    omega
  · apply Prod.Lex.left
    simp only [Cursor.advance, List.length_drop]
    omega

end

/-! ### What is derived is returned -/

mutual

theorem descent_of_isPoly {text : List Char} {tree : Poly} {cursor next : Cursor}
    (derived : IsPoly .accepted text tree) (spans : cursor.Spans text next)
    (ends : endsPoly next.peek = true) : descent cursor = .ok (tree.normalized, next) := by
  match derived with
  | .coefficient numeral =>
    have read := readCoefficient_eq_ok_iff.mpr ⟨text, spans, numeral, ends⟩
    obtain ⟨char, tail, rfl⟩ := List.exists_cons_of_ne_nil numeral.1.ne_nil
    obtain ⟨line, position⟩ := cursor
    obtain rfl : line = char :: (tail ++ next.rest) := spans.rest
    have start := numeral.1.isDigit_or_eq_of_mem List.mem_cons_self
    have notParen : char ≠ '(' := by
      rintro rfl
      exact absurd start (by decide)
    rw [descent_of_ne_paren notParen, if_pos (by simpa using start), read]
    rfl
  | .sum sum =>
    have descended := descentSum_of_isSum sum spans ends []
    obtain ⟨rest, rfl⟩ := sum.exists_cons
    obtain ⟨line, position⟩ := cursor
    obtain rfl : line = '(' :: (rest ++ next.rest) := spans.rest
    rw [descent_paren, Poly.normalized_of_ne_nil sum.ne_nil]
    exact descended

theorem descentSum_of_isSum {text : List Char} {monomials : List Monomial}
    {cursor next : Cursor} (derived : IsSum .accepted text monomials)
    (spans : cursor.Spans text next)
    (ends : endsPoly next.peek = true) (finished : List Monomial) :
    descentSum finished (cursor.advance 1) =
      .ok (.ofMonomials (finished.reverse ++ Monomial.normalizedAll monomials), next) := by
  match derived with
  | .single first =>
    obtain ⟨behind, literal, closed⟩ := descent_of_isMonomial first spans
    rw [descentSum_eq, literal]
    dsimp only
    rw [closed]
    dsimp only
    rw [List.reverse_cons, Monomial.normalizedAll_cons]
    rcases endsPoly_iff.mp ends with absent | comma
    · rw [absent]
      rfl
    · rw [comma]
      rfl
  | .more first others =>
    obtain ⟨middle, spans, joint⟩ := spans.exists_of_append
    obtain ⟨behind, literal, closed⟩ := descent_of_isMonomial first spans
    have inner := joint.advance_cons
    have paren : (middle.advance 1).peek = some '(' := by
      obtain ⟨rest, rfl⟩ := others.exists_cons
      exact inner.peek_cons
    have descended := descentSum_of_isSum others inner ends
    rw [descentSum_eq, literal]
    dsimp only
    rw [closed]
    dsimp only
    rw [joint.peek_cons, Monomial.normalizedAll_cons]
    rw [if_pos (beq_iff_eq.mpr paren), ← Cursor.advance_advance middle 1 1, descended,
      List.reverse_cons, List.append_assoc]
    rfl

theorem descent_of_isMonomial {text : List Char} {monomial : Monomial} {cursor next : Cursor}
    (derived : IsMonomial .accepted text monomial)
    (spans : cursor.Spans text next) :
    ∃ behind, descent (cursor.advance 1) = .ok (monomial.coefficient.normalized, behind) ∧
      closeMonomial behind = .ok (monomial.exponent, next) := by
  match derived with
  | .mk coefficient numeral =>
    rw [List.append_assoc] at spans
    obtain ⟨behind, inner, closing⟩ := spans.exists_of_append
    refine ⟨behind, ?_, closeMonomial_eq_ok_iff.mpr ⟨_, closing, numeral⟩⟩
    exact descent_of_isPoly coefficient inner.advance_cons (by rw [closing.peek_cons]; rfl)

end

/-- The parser returns a polynomial and a place if and only if the text up to there is a literal
with nothing or a comma behind it, and the polynomial is what the literal adds up to. -/
theorem descent_eq_ok_iff {cursor next : Cursor} {poly : Poly} :
    descent cursor = .ok (poly, next) ↔ DerivesPoly cursor poly next := by
  constructor
  · exact derivesPoly_of_descent
  · rintro ⟨text, tree, spans, derived, ends, rfl⟩
    exact descent_of_isPoly derived spans ends

/-! ### The only literal at a place -/

/-- The text of a line from one position to another is a literal, and a comma or the end of the
line comes behind it. -/
structure LiesBetween (numerals : Numerals) (text : List Char) (start stop : Nat) : Prop where
  ordered : start ≤ stop
  inside : stop ≤ text.length
  derived : ∃ tree, IsPoly numerals (text.extract start stop) tree
  ends : text[stop]? = none ∨ text[stop]? = some ','

theorem peek_ofText (text : List Char) (position : Nat) :
    (Cursor.ofText text position).peek = text[position]? :=
  List.head?_drop

theorem LiesBetween.widen {narrow wide : Numerals} (within : narrow.IsWithin wide)
    {text : List Char} {start stop : Nat} (lies : LiesBetween narrow text start stop) :
    LiesBetween wide text start stop := by
  obtain ⟨tree, derived⟩ := lies.derived
  exact ⟨lies.ordered, lies.inside, ⟨tree, derived.widen within⟩, lies.ends⟩

theorem LiesBetween.endsPoly {numerals : Numerals} {text : List Char} {start stop : Nat}
    (lies : LiesBetween numerals text start stop) :
    endsPoly (Cursor.ofText text stop).peek = true := by
  rw [peek_ofText]
  exact endsPoly_iff.mpr lies.ends

theorem LiesBetween.spans {numerals : Numerals} {text : List Char} {start stop : Nat}
    (lies : LiesBetween numerals text start stop) :
    (Cursor.ofText text start).Spans (text.extract start stop) (.ofText text stop) := by
  obtain ⟨ordered, inside, _, _⟩ := lies
  exact ⟨drop_eq_extract_append ordered, (add_length_extract ordered inside).symm⟩

/-- A place that the parser returns is a position of the line it started in. -/
theorem liesBetween_of_spans {text literal : List Char} {start : Nat} {next : Cursor} {tree : Poly}
    (spans : (Cursor.ofText text start).Spans literal next)
    (derived : IsPoly .accepted literal tree)
    (ends : endsPoly next.peek = true) :
    next = .ofText text next.position ∧ LiesBetween .accepted text start next.position := by
  have rest : text.drop start = literal ++ next.rest := spans.rest
  have position : next.position = start + literal.length := spans.position
  have place : next = .ofText text next.position := by
    have behind := spans.eq_advance
    rwa [Cursor.advance, Cursor.ofText, List.drop_drop, ← position] at behind
  obtain ⟨inside, between, _⟩ :=
    extract_of_drop_eq_append (derived.widen accepted_isWithin_integers).ne_nil rest
  rw [← position] at inside between
  refine ⟨place, by omega, inside, ⟨tree, between ▸ derived⟩, ?_⟩
  rw [← peek_ofText, ← place]
  exact endsPoly_iff.mp ends

theorem LiesBetween.unique {text : List Char} {start stop stop' : Nat}
    (lies : LiesBetween .integers text start stop)
    (lies' : LiesBetween .integers text start stop') : stop = stop' := by
  obtain ⟨tree, derived⟩ := lies.derived
  obtain ⟨tree', derived'⟩ := lies'.derived
  have rests := (derived.append_inj derived' ?_ ?_
    (lies.spans.rest.symm.trans lies'.spans.rest)).2
  · have lengths := congrArg List.length rests
    have inside := lies.inside
    have inside' := lies'.inside
    simp only [Cursor.ofText, List.length_drop] at lengths
    omega
  · exact lies.endsPoly
  · exact lies'.endsPoly

/-- At every position of every line the stack parser does what the recursive parser does, in what
it returns as in what it refuses. When it returns, a comma or the end of the line comes next, and
what it took up is a literal, the only one that begins there and has nothing else behind it. -/
theorem parseAt_spec (text : List Char) (start : Nat) :
    parseAt (.ofText text start) = descent (.ofText text start) ∧
      ∀ poly next, parseAt (.ofText text start) = .ok (poly, next) →
        ∃ stop, next = .ofText text stop ∧ (text[stop]? = none ∨ text[stop]? = some ',') ∧
          LiesBetween .accepted text start stop ∧
          ∀ stop', LiesBetween .integers text start stop' → stop' = stop := by
  refine ⟨parseAt_eq_descent _, fun poly next accepted => ?_⟩
  rw [parseAt_eq_descent] at accepted
  obtain ⟨literal, tree, spans, derived, ends, _⟩ := descent_eq_ok_iff.mp accepted
  obtain ⟨place, lies⟩ := liesBetween_of_spans spans derived ends
  refine ⟨next.position, place, lies.ends, lies, fun stop' lies' => ?_⟩
  exact lies'.unique (lies.widen accepted_isWithin_integers)

/-- The inner literal of a line, which begins behind the first parenthesis. -/
theorem parseAt_spec_inner :
    parseAt (.ofText "((1,2),3)".toList 1) =
        .ok (⟨0, [⟨2, .const 1⟩]⟩, .ofText "((1,2),3)".toList 6) ∧
      LiesBetween .accepted "((1,2),3)".toList 1 6 ∧
      ∀ stop, LiesBetween .integers "((1,2),3)".toList 1 stop → stop = 6 := by
  have monomial : IsMonomial .accepted "(1,2)".toList ⟨2, .const 1⟩ :=
    @isMonomial_of_digits ['1'] ['2'] (by decide) (by decide) (by decide) (by decide)
  have spans : (Cursor.ofText "((1,2),3)".toList 1).Spans "(1,2)".toList
      (.ofText "((1,2),3)".toList 6) := ⟨rfl, rfl⟩
  have value : Poly.normalized ⟨0, [⟨2, .const 1⟩]⟩ = ⟨0, [⟨2, .const 1⟩]⟩ := by cbv
  have accepted : parseAt (.ofText "((1,2),3)".toList 1) =
      .ok (⟨0, [⟨2, .const 1⟩]⟩, .ofText "((1,2),3)".toList 6) := by
    rw [parseAt_eq_descent, descent_of_isPoly (.sum (.single monomial)) spans rfl, value]
  obtain ⟨stop, place, _, lies, unique⟩ := (parseAt_spec _ _).2 _ _ accepted
  obtain rfl : 6 = stop := congrArg Cursor.position place
  exact ⟨accepted, lies, unique⟩

/-! ### Whole lines -/

theorem illegal?_of_isPoly {text : List Char} {tree : Poly} (derived : IsPoly .integers text tree) :
    illegal? text = none :=
  illegalFrom_eq_none (fun _ member => derived.isLegal_of_mem member) 0

theorem balanced_of_isPoly {text : List Char} {tree : Poly} (derived : IsPoly .integers text tree) :
    balanced text = true := by
  have paired := derived.balancedFrom_append 0 []
  rwa [List.append_nil] at paired

end Parser

namespace Poly

open Grammar

/-- A line is accepted if and only if it is a literal, with what the literal adds up to. -/
theorem parse_eq_ok_iff {text : List Char} {poly : Poly} :
    parse text = .ok poly ↔ ∃ tree, IsPoly .accepted text tree ∧ poly = tree.normalized := by
  constructor
  · intro accepted
    unfold parse at accepted
    split at accepted
    · cases accepted
    split at accepted
    · rw [Parser.parseAt_eq_descent] at accepted
      split at accepted
      · cases accepted
      case h_2 value next descended =>
        split at accepted
        case isTrue atEnd =>
          cases accepted
          obtain ⟨text', tree, spans, derived, _, value⟩ := Parser.descent_eq_ok_iff.mp descended
          have whole : text = text' ++ next.rest := spans.rest
          rw [List.isEmpty_iff.mp atEnd, List.append_nil] at whole
          exact ⟨tree, whole ▸ derived, value⟩
        · cases accepted
    · cases accepted
  · rintro ⟨tree, derived, rfl⟩
    have written := derived.widen accepted_isWithin_integers
    have spans := Cursor.spans_mk text [] 0
    rw [List.append_nil] at spans
    have descended : Parser.descent ⟨text, 0⟩ = .ok (tree.normalized, ⟨[], 0 + text.length⟩) :=
      Parser.descent_eq_ok_iff.mpr ⟨text, tree, spans, derived, rfl, rfl⟩
    unfold parse
    rw [Parser.illegal?_of_isPoly written, Parser.parseAt_eq_descent, descended]
    exact if_pos (Parser.balanced_of_isPoly written)

theorem isCanonical_of_parse {text : List Char} {poly : Poly} (accepted : parse text = .ok poly) :
    poly.IsCanonical := by
  obtain ⟨tree, _, rfl⟩ := parse_eq_ok_iff.mp accepted
  exact isCanonical_normalized tree

/-- A line is accepted if and only if the grammar derives it, and its value is then the canonical
polynomial that denotes the sum of its coefficients, each as a term with the exponents of the
monomials around it. -/
theorem parse_spec (text : List Char) :
    ((∃ poly, parse text = .ok poly) ↔ ∃ tree, IsPoly .accepted text tree) ∧
      ∀ poly tree, IsPoly .accepted text tree →
        (parse text = .ok poly ↔
          poly.IsCanonical ∧ poly.meaning = (tree.terms.map Term.meaning).sum) := by
  refine ⟨⟨?_, ?_⟩, fun poly tree derived => ⟨?_, ?_⟩⟩
  · rintro ⟨poly, accepted⟩
    obtain ⟨tree, derived, _⟩ := parse_eq_ok_iff.mp accepted
    exact ⟨tree, derived⟩
  · rintro ⟨tree, derived⟩
    exact ⟨tree.normalized, parse_eq_ok_iff.mpr ⟨tree, derived, rfl⟩⟩
  · intro accepted
    obtain ⟨tree', derived', rfl⟩ := parse_eq_ok_iff.mp accepted
    obtain rfl : tree' = tree := (derived'.widen accepted_isWithin_integers).unique
      (derived.widen accepted_isWithin_integers)
    exact ⟨isCanonical_normalized tree', meaning_normalized tree'⟩
  · rintro ⟨canonical, meaning⟩
    refine parse_eq_ok_iff.mpr ⟨tree, derived, ?_⟩
    exact canonical.eq_of_meaning_eq (isCanonical_normalized tree)
      (meaning.trans (meaning_normalized tree).symm)

end Poly

end PolyIntake
