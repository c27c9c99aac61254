/-
This file bounds the value of an accepted literal by the numbers that are
written in it. A number of a text is told by what stands in front of it: a
coefficient begins the text or stands behind a parenthesis, an exponent behind a
comma. These are read off the text from left to right, without the grammar; that
they are the numbers of the derived polynomial, in the same order, is an
induction over the derivation.

Adding up makes nothing larger and no new exponents but zero. So the value has
no more coefficients than there are coefficients in the text, and they are
together no larger than those. Each of these has 64 bits, but the coefficients
of the value may have more, as many as their number allows.
-/

import PolyIntake.Proofs.RoundTrip
import PolyIntake.Proofs.Sizes

namespace PolyIntake

namespace Grammar

/-! ### Numbers of a text -/

/-- A number that is written in a text, by the place where it stands. -/
inductive Number where
  | coefficient (value : Int)
  | exponent (value : Int)
  deriving DecidableEq

/-- The value of a number that is written as a coefficient. -/
def Number.coefficient? : Number → Option Int
  | .coefficient value => some value
  | .exponent _ => none

/-- The value of a number that is written as an exponent. -/
def Number.exponent? : Number → Option Int
  | .coefficient _ => none
  | .exponent value => some value

/-- The number that begins behind a character, or at the beginning of the text. Behind most
characters a digit or a minus sign begins no number. -/
def Number.behind (previous : Option Char) (value : Int) : List Number :=
  match previous with
  | none => [.coefficient value]
  | some '(' => [.coefficient value]
  | some ',' => [.exponent value]
  | some _ => []

/-- The value of some digits with a minus sign in front or without one. -/
def numeralValue : List Char → Int
  | '-' :: digits => -(Nat.ofDigitChars 10 digits 0)
  | digits => Nat.ofDigitChars 10 digits 0

/-- The numbers of a text that stands behind a character, or behind nothing. -/
def numbersBehind (previous : Option Char) : List Char → List Number
  | [] => []
  | char :: rest =>
    if char.isDigit || char == '-' then
      Number.behind previous (numeralValue (char :: rest.takeWhile Char.isDigit)) ++
        numbersBehind (some char) rest
    else numbersBehind (some char) rest

/-- The values of the coefficients that are written in a text, in their order. -/
def coefficientLiterals (text : List Char) : List Int :=
  (numbersBehind none text).filterMap Number.coefficient?

/-- The values of the exponents that are written in a text, in their order. -/
def exponentLiterals (text : List Char) : List Int :=
  (numbersBehind none text).filterMap Number.exponent?

/-- The two coefficients and the exponents of a sum in a sum. -/
example : coefficientLiterals "((1,2)+(-3,0),4)".toList = [1, -3] ∧
    exponentLiterals "((1,2)+(-3,0),4)".toList = [2, 0, 4] := by decide

end Grammar

open Grammar

/-! ### Numbers of a polynomial -/

mutual

/-- The numbers of a polynomial in the order in which they are written. -/
def Poly.numbers : Poly → List Number
  | ⟨constant, []⟩ => [.coefficient constant]
  | ⟨_, head :: tail⟩ => Monomial.allNumbers (head :: tail)

/-- The numbers of a list of monomials in the order in which they are written. -/
def Monomial.allNumbers : List Monomial → List Number
  | [] => []
  | ⟨exponent, coefficient⟩ :: rest =>
    coefficient.numbers ++ .exponent exponent :: Monomial.allNumbers rest

end

@[simp] theorem Poly.numbers_const (value : Int) :
    (Poly.const value).numbers = [.coefficient value] := rfl

theorem Poly.numbers_of_ne_nil {constant : Int} {monomials : List Monomial}
    (nonempty : monomials ≠ []) :
    Poly.numbers ⟨constant, monomials⟩ = Monomial.allNumbers monomials := by
  cases monomials with
  | nil => exact absurd rfl nonempty
  | cons head tail => rw [Poly.numbers]

@[simp] theorem Monomial.allNumbers_nil : Monomial.allNumbers [] = [] := rfl

@[simp] theorem Monomial.allNumbers_cons (head : Monomial) (tail : List Monomial) :
    Monomial.allNumbers (head :: tail) =
      head.coefficient.numbers ++ .exponent head.exponent :: Monomial.allNumbers tail := by
  cases head
  rfl

theorem Poly.filterMap_coefficient?_numbers (poly : Poly) :
    poly.numbers.filterMap Number.coefficient? = poly.terms.map Term.coefficient := by
  induction poly using induction with
  | constants value => rfl
  | sums constant monomials nonempty inductionHypothesis =>
    rw [numbers_of_ne_nil nonempty, terms_of_ne_nil nonempty]
    clear nonempty
    induction monomials with
    | nil => rfl
    | cons head tail inductionHypothesis' =>
      rw [Monomial.allNumbers_cons, Monomial.allTerms_cons, List.filterMap_append, List.map_append,
        inductionHypothesis head List.mem_cons_self, List.filterMap_cons, List.map_map]
      exact congrArg _ (inductionHypothesis' fun term member =>
        inductionHypothesis term (List.mem_cons_of_mem _ member))

theorem Monomial.mem_allNumbers {monomials : List Monomial} {term : Monomial}
    (member : term ∈ monomials) {number : Number}
    (among : number ∈ term.coefficient.numbers ∨ number = .exponent term.exponent) :
    number ∈ Monomial.allNumbers monomials := by
  induction monomials with
  | nil => cases member
  | cons head tail inductionHypothesis =>
    rw [allNumbers_cons, List.mem_append, List.mem_cons]
    rcases List.mem_cons.mp member with rfl | inTail
    · exact among.imp_right Or.inl
    · exact Or.inr (Or.inr (inductionHypothesis inTail))

/-- The exponents of the terms of a polynomial are among its numbers. -/
theorem Poly.hasNumbers_of_numbers {allowed : Int → Prop} {poly : Poly}
    (each : ∀ exponent, .exponent exponent ∈ poly.numbers → allowed exponent) :
    poly.HasNumbers (fun _ => True) allowed := by
  induction poly using induction with
  | constants value => exact hasNumbers_const.mpr trivial
  | sums constant monomials nonempty inductionHypothesis =>
    rw [numbers_of_ne_nil nonempty] at each
    refine (hasNumbers_iff nonempty).mpr fun term member => ⟨?_, ?_⟩
    · exact each _ (Monomial.mem_allNumbers member (Or.inr rfl))
    · exact inductionHypothesis term member fun exponent inside =>
        each exponent (Monomial.mem_allNumbers member (Or.inl inside))

/-! ### The numbers of a text are those of what it derives -/

namespace Grammar

/-- The text goes on with something that begins no number, or is at its end. -/
def NoNumberNext (text : List Char) : Prop :=
  ∀ char ∈ text.head?, (char.isDigit || char == '-') = false

theorem noNumberNext_nil : NoNumberNext [] :=
  fun _ absent => by cases absent

theorem noNumberNext_cons {char : Char} (notNumber : (char.isDigit || char == '-') = false)
    (rest : List Char) : NoNumberNext (char :: rest) := by
  rintro other ⟨⟩
  exact notNumber

theorem NoNumberNext.noDigitNext {text : List Char} (noNumber : NoNumberNext text) :
    NoDigitNext text := by
  intro char member
  exact (Bool.or_eq_false_iff.mp (noNumber char member)).1

theorem numbersBehind_cons_of_eq_false {char : Char}
    (notNumber : (char.isDigit || char == '-') = false) (previous : Option Char)
    (rest : List Char) :
    numbersBehind previous (char :: rest) = numbersBehind (some char) rest := by
  rw [numbersBehind, notNumber]
  rfl

/-- Where no number begins, it does not matter what stands in front. -/
theorem NoNumberNext.numbersBehind_eq {text : List Char} (noNumber : NoNumberNext text)
    (previous previous' : Option Char) :
    numbersBehind previous text = numbersBehind previous' text := by
  cases text with
  | nil => rfl
  | cons char rest =>
    rw [numbersBehind_cons_of_eq_false (noNumber char rfl),
      numbersBehind_cons_of_eq_false (noNumber char rfl)]

theorem Number.behind_eq_nil {inside : Char}
    (isInside : (inside.isDigit || inside == '-') = true) (value : Int) :
    Number.behind (some inside) value = [] := by
  unfold Number.behind
  split
  case h_1 absent => cases absent
  case h_2 opening =>
    obtain rfl := Option.some.inj opening
    exact absurd isInside (by decide)
  case h_3 comma =>
    obtain rfl := Option.some.inj comma
    exact absurd isInside (by decide)
  case h_4 => rfl

/-- Inside of a number no other number begins. -/
theorem numbersBehind_digits {digits rest : List Char} {inside : Char}
    (isInside : (inside.isDigit || inside == '-') = true)
    (each : ∀ char ∈ digits, char.isDigit = true) (noNumber : NoNumberNext rest) :
    numbersBehind (some inside) (digits ++ rest) = numbersBehind none rest := by
  induction digits generalizing inside with
  | nil => exact noNumber.numbersBehind_eq _ _
  | cons digit digits inductionHypothesis =>
    have isDigit : (digit.isDigit || digit == '-') = true := by
      rw [each digit List.mem_cons_self, Bool.true_or]
    rw [List.cons_append, numbersBehind, if_pos isDigit, Number.behind_eq_nil isInside,
      List.nil_append]
    exact inductionHypothesis isDigit fun char member => each char (List.mem_cons_of_mem _ member)

theorem numeralValue_of_isDigits {digits : List Char} (isDigits : IsDigits digits) :
    numeralValue digits = Nat.ofDigitChars 10 digits 0 := by
  obtain ⟨head, tail, rfl, isDigit⟩ := isDigits.exists_cons
  unfold numeralValue
  split
  case h_1 minus =>
    obtain ⟨rfl, _⟩ := List.cons.inj minus
    exact absurd isDigit (by decide)
  case h_2 => rfl

/-- A numeral is one number, which is told by what stands in front of it. -/
theorem numbersBehind_numeral {signed : Bool} {text rest : List Char} {value : Int}
    (numeral : IsNumeral signed text value) (noNumber : NoNumberNext rest)
    (previous : Option Char) :
    numbersBehind previous (text ++ rest) =
      Number.behind previous value ++ numbersBehind none rest := by
  cases numeral with
  | plain isDigits =>
    have worth := numeralValue_of_isDigits isDigits
    obtain ⟨head, tail, rfl, isDigit⟩ := isDigits.exists_cons
    have inTail : ∀ char ∈ tail, char.isDigit = true :=
      fun char member => isDigits.2 char (List.mem_cons_of_mem _ member)
    have isInside : (head.isDigit || head == '-') = true := by rw [isDigit, Bool.true_or]
    rw [List.cons_append, numbersBehind, if_pos isInside,
      takeWhile_isDigit_append inTail noNumber.noDigitNext, worth,
      numbersBehind_digits isInside inTail noNumber]
  | negative _ isDigits =>
    rw [List.cons_append, numbersBehind, if_pos (by decide),
      takeWhile_isDigit_append isDigits.2 noNumber.noDigitNext,
      numbersBehind_digits (by decide) isDigits.2 noNumber, numeralValue]

mutual

/-- The numbers that are written in a literal are those of the polynomial, in the same order. -/
theorem IsPoly.numbersBehind_append {text rest : List Char} {poly : Poly} {previous : Option Char}
    (derived : IsPoly .accepted text poly)
    (begins : ∀ value, Number.behind previous value = [.coefficient value])
    (noNumber : NoNumberNext rest) :
    numbersBehind previous (text ++ rest) = poly.numbers ++ numbersBehind none rest := by
  match derived with
  | .coefficient numeral =>
    rw [numbersBehind_numeral numeral.1 noNumber, begins, Poly.numbers_const]
  | .sum sum =>
    rw [sum.numbersBehind_append noNumber, Poly.numbers_of_ne_nil sum.ne_nil]

theorem IsSum.numbersBehind_append {text rest : List Char} {monomials : List Monomial}
    {previous : Option Char} (derived : IsSum .accepted text monomials)
    (noNumber : NoNumberNext rest) :
    numbersBehind previous (text ++ rest) =
      Monomial.allNumbers monomials ++ numbersBehind none rest := by
  match derived with
  | .single first =>
    rw [first.numbersBehind_append noNumber, Monomial.allNumbers_cons, Monomial.allNumbers_nil]
  | .more first others =>
    rw [List.append_assoc, List.cons_append,
      first.numbersBehind_append (noNumberNext_cons (by decide) _),
      numbersBehind_cons_of_eq_false (by decide),
      others.numbersBehind_append noNumber, Monomial.allNumbers_cons]
    simp only [List.cons_append, List.append_assoc, List.nil_append]

theorem IsMonomial.numbersBehind_append {text rest : List Char} {monomial : Monomial}
    {previous : Option Char} (derived : IsMonomial .accepted text monomial)
    (noNumber : NoNumberNext rest) :
    numbersBehind previous (text ++ rest) =
      monomial.coefficient.numbers ++ [.exponent monomial.exponent] ++ numbersBehind none rest := by
  match derived with
  | .mk coefficient numeral =>
    simp only [List.cons_append, List.append_assoc, List.nil_append]
    rw [numbersBehind_cons_of_eq_false (by decide),
      coefficient.numbersBehind_append (fun _ => rfl) (noNumberNext_cons (by decide) _),
      numbersBehind_cons_of_eq_false (by decide),
      numbersBehind_numeral numeral.1 (noNumberNext_cons (by decide) _),
      numbersBehind_cons_of_eq_false (by decide), noNumber.numbersBehind_eq _ none]
    rfl

end

theorem IsPoly.numbersBehind_eq {text : List Char} {tree : Poly}
    (derived : IsPoly .accepted text tree) : numbersBehind none text = tree.numbers := by
  have numbers : numbersBehind none (text ++ []) = tree.numbers ++ numbersBehind none [] :=
    derived.numbersBehind_append (fun _ => rfl) noNumberNext_nil
  rwa [List.append_nil, numbersBehind, List.append_nil] at numbers

/-- The coefficients of a literal are those that are added up to its value. -/
theorem IsPoly.coefficientLiterals_eq {text : List Char} {tree : Poly}
    (derived : IsPoly .accepted text tree) :
    coefficientLiterals text = tree.terms.map Term.coefficient := by
  rw [coefficientLiterals, derived.numbersBehind_eq, tree.filterMap_coefficient?_numbers]

/-- The exponents of the terms of a literal are written in it. -/
theorem IsPoly.hasNumbers_exponentLiterals {text : List Char} {tree : Poly}
    (derived : IsPoly .accepted text tree) :
    tree.HasNumbers (fun _ => True) (· ∈ exponentLiterals text) := by
  refine Poly.hasNumbers_of_numbers fun exponent member => ?_
  rw [exponentLiterals, derived.numbersBehind_eq]
  exact List.mem_filterMap.mpr ⟨_, member, rfl⟩

end Grammar

/-! ### Coefficients of values -/

namespace Poly

/-- The coefficients that a polynomial ends in. Zero has none. -/
def leaves (poly : Poly) : List Int :=
  if poly.isZero then [] else poly.terms.map Term.coefficient

/-- Only zero has a zero among its coefficients. -/
theorem IsCanonical.coefficient_ne_zero {poly : Poly} (canonical : poly.IsCanonical)
    (nonzero : poly ≠ zero) : ∀ term ∈ poly.terms, term.coefficient ≠ 0 := by
  induction canonical with
  | const value =>
    rw [terms_const]
    refine List.forall_mem_singleton.mpr fun isZero => nonzero ?_
    exact congrArg Poly.const isZero
  | sum monomials nonempty _ _ coefficients _ inductionHypothesis =>
    intro term member
    rw [terms_of_ne_nil nonempty] at member
    obtain ⟨monomial, inMonomials, inner, inside, rfl⟩ := mem_allTerms_iff.mp member
    exact inductionHypothesis monomial inMonomials (coefficients monomial inMonomials) inner inside

theorem total_eq_sum_leaves {size : Int → Nat} (isSize : IsSize size) (poly : Poly) :
    (poly.leaves.map size).sum = poly.total size := by
  unfold leaves
  split
  case isTrue isZero =>
    rw [isZero_iff.mp isZero, zero, total_const, isSize.zero]
    rfl
  case isFalse =>
    rw [List.map_map]
    rfl

/-- The coefficients of a canonical polynomial are counted by the size that counts all integers
but zero. -/
theorem IsCanonical.length_leaves {poly : Poly} (canonical : poly.IsCanonical) :
    poly.leaves.length = poly.total countNonzero := by
  have counted : ∀ leaf ∈ poly.leaves, countNonzero leaf = 1 := by
    unfold leaves
    split
    case isTrue => exact fun _ absent => by cases absent
    case isFalse notZero =>
      intro leaf member
      obtain ⟨term, inTerms, rfl⟩ := List.mem_map.mp member
      refine if_neg (canonical.coefficient_ne_zero ?_ term inTerms)
      exact fun isZero => notZero (isZero_iff.mpr isZero)
  rw [← total_eq_sum_leaves isSize_countNonzero, List.map_congr_left counted]
  simp

theorem countNonzero_le_one (value : Int) : countNonzero value ≤ 1 := by
  unfold countNonzero
  split <;> decide

theorem total_countNonzero_le (poly : Poly) : poly.total countNonzero ≤ poly.terms.length := by
  have counted := List.sum_le_card_nsmul
    (poly.terms.map fun term => countNonzero term.coefficient) 1
    (List.forall_mem_map.mpr fun term _ => countNonzero_le_one term.coefficient)
  simpa [total] using counted

theorem natAbs_le_of_admits {value : Int} (admitted : Integer.Kind.signed64.admits value = true) :
    value.natAbs ≤ 2 ^ 63 := by
  obtain ⟨lowest, highest⟩ := Integer.Kind.admits_iff.mp admitted
  have smallest : Integer.Kind.signed64.lowest = -(2 ^ 63) := rfl
  have largest : Integer.Kind.signed64.highest = 2 ^ 63 - 1 := rfl
  omega

/-! ### Bounds for the value of a literal -/

/-- The coefficients that are written are together no larger than so many of 64 bits can be. -/
theorem sum_natAbs_coefficientLiterals_le {text : List Char} {tree : Poly}
    (derived : IsPoly .accepted text tree) :
    ((coefficientLiterals text).map Int.natAbs).sum ≤
      (coefficientLiterals text).length * 2 ^ 63 := by
  have each : ∀ size ∈ (coefficientLiterals text).map Int.natAbs, size ≤ 2 ^ 63 := by
    rw [derived.coefficientLiterals_eq, List.forall_mem_map, List.forall_mem_map]
    exact fun term member => natAbs_le_of_admits (derived.isInRange term member).1
  simpa using List.sum_le_card_nsmul _ _ each

/-- The exponents of a value are zero or are written in the literal. -/
theorem hasNumbers_exponentLiterals_of_parse {text : List Char} {poly : Poly}
    (accepted : parse text = .ok poly) :
    poly.HasNumbers (fun _ => True) fun exponent =>
      exponent = 0 ∨ exponent ∈ exponentLiterals text := by
  obtain ⟨tree, derived, rfl⟩ := parse_eq_ok_iff.mp accepted
  refine hasNumbers_normalized (Or.inl rfl) fun term member => ?_
  obtain ⟨_, exponents⟩ := derived.hasNumbers_exponentLiterals term member
  exact ⟨trivial, fun exponent among => Or.inr (exponents exponent among)⟩

/-- The value of a literal has no exponents but zero and those that are written, all of them of 31
bits. It has no more coefficients than are written, and they are together no larger; so they are
each as large at most as so many coefficients of 64 bits can be together. -/
theorem parse_bounds {text : List Char} {poly : Poly} (accepted : parse text = .ok poly) :
    (∀ term ∈ poly.terms, ∀ exponent ∈ term.exponents,
      (exponent = 0 ∨ exponent ∈ exponentLiterals text) ∧ 0 ≤ exponent ∧ exponent ≤ 2 ^ 31 - 1) ∧
      poly.leaves.length ≤ (coefficientLiterals text).length ∧
      (poly.leaves.map Int.natAbs).sum ≤ ((coefficientLiterals text).map Int.natAbs).sum ∧
      ∀ leaf ∈ poly.leaves, -((coefficientLiterals text).length * 2 ^ 63 : Int) ≤ leaf ∧
        leaf ≤ (coefficientLiterals text).length * 2 ^ 63 := by
  have canonical := isCanonical_of_parse accepted
  have inRange := hasNumbers_of_parse accepted
  have exponents := hasNumbers_exponentLiterals_of_parse accepted
  obtain ⟨tree, derived, rfl⟩ := parse_eq_ok_iff.mp accepted
  have written := derived.coefficientLiterals_eq
  have bounded := sum_natAbs_coefficientLiterals_le derived
  have fewer : tree.normalized.leaves.length ≤ (coefficientLiterals text).length := by
    rw [canonical.length_leaves, written, List.length_map]
    exact Nat.le_trans (total_normalized_le isSize_countNonzero tree) tree.total_countNonzero_le
  have smaller : (tree.normalized.leaves.map Int.natAbs).sum ≤
      ((coefficientLiterals text).map Int.natAbs).sum := by
    rw [total_eq_sum_leaves isSize_natAbs, written, List.map_map]
    exact total_normalized_le isSize_natAbs tree
  refine ⟨fun term member exponent among => ⟨?_, ?_⟩, fewer, smaller, fun leaf member => ?_⟩
  · exact (exponents term member).2 exponent among
  · exact Integer.Kind.admits_iff.mp ((inRange term member).2 exponent among)
  · have single : leaf.natAbs ≤ (tree.normalized.leaves.map Int.natAbs).sum :=
      List.single_le_sum (fun _ _ => Nat.zero_le _) _ (List.mem_map_of_mem member)
    omega

/-- Two coefficients of 64 bits below a power, whose sum does not have 64 bits. -/
theorem parse_bounds_sum_beyond_range :
    parse "((9223372036854775807,0)+(1,0),3)".toList = .ok ⟨0, [⟨3, const (2 ^ 63)⟩]⟩ ∧
      leaves ⟨0, [⟨3, const (2 ^ 63)⟩]⟩ = [2 ^ 63] ∧
      ∀ leaf ∈ leaves ⟨0, [⟨3, const (2 ^ 63)⟩]⟩, leaf ≤ 2 * 2 ^ 63 := by
  have largest : IsMonomial .accepted "(9223372036854775807,0)".toList
      ⟨0, const 9223372036854775807⟩ :=
    @isMonomial_of_digits "9223372036854775807".toList ['0'] (by decide) (by decide) (by decide)
      (by decide)
  have one : IsMonomial .accepted "(1,0)".toList ⟨0, const 1⟩ :=
    @isMonomial_of_digits ['1'] ['0'] (by decide) (by decide) (by decide) (by decide)
  have whole : IsMonomial .accepted "((9223372036854775807,0)+(1,0),3)".toList
      ⟨3, ⟨0, [⟨0, const 9223372036854775807⟩, ⟨0, const 1⟩]⟩⟩ :=
    @IsMonomial.mk .accepted "(9223372036854775807,0)+(1,0)".toList ['3'] _ 3
      (.sum (.more largest (.single one))) ⟨.plain (by decide), by decide⟩
  have accepted : parse "((9223372036854775807,0)+(1,0),3)".toList =
      .ok ⟨0, [⟨3, const (2 ^ 63)⟩]⟩ :=
    parse_eq_ok_iff.mpr ⟨_, .sum (.single whole), by cbv⟩
  refine ⟨accepted, by decide, fun leaf member => ?_⟩
  have literals : (coefficientLiterals "((9223372036854775807,0)+(1,0),3)".toList).length = 2 := by
    decide
  obtain ⟨_, _, _, bounds⟩ := parse_bounds accepted
  have bound := (bounds leaf member).2
  rwa [literals] at bound

end Poly

end PolyIntake
