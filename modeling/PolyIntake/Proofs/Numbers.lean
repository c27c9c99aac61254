/-
This file speaks of the numbers in a polynomial: its coefficients, which are the
constants that it ends in, and the exponents above them. A condition on the
numbers holds of a sum when it holds of every exponent and of every coefficient
below.

A polynomial is in range when its coefficients have 64 bits with a sign and its
exponents 31 bits without one, which is what a line can say. What the grammar
derives is in range, and a polynomial in range has no number too long to be
written. Arithmetic makes no exponents that were not there, apart from zero, but
it does not keep the coefficients in range.
-/

import PolyIntake.Poly.Printer
import PolyIntake.Proofs.Grammar
import PolyIntake.Proofs.NormalForm

namespace PolyIntake

theorem Monomial.areWritable_iff {monomials : List Monomial} :
    Monomial.areWritable monomials = true ↔ ∀ monomial ∈ monomials,
      Decimal.isWritable monomial.exponent = true ∧ monomial.coefficient.isWritable = true := by
  induction monomials with
  | nil => simp [Monomial.areWritable]
  | cons head tail inductionHypothesis =>
    obtain ⟨exponent, coefficient⟩ := head
    simp [Monomial.areWritable, inductionHypothesis, and_assoc]

namespace Poly

/-! ### Conditions on the numbers -/

/-- Every coefficient of the polynomial meets the first condition, and every exponent the
second. -/
def HasNumbers (coefficient exponent : Int → Prop) (poly : Poly) : Prop :=
  ∀ term ∈ poly.terms, coefficient term.coefficient ∧ ∀ power ∈ term.exponents, exponent power

variable {coefficient exponent : Int → Prop}

theorem hasNumbers_const {value : Int} :
    (const value).HasNumbers coefficient exponent ↔ coefficient value := by
  simp [HasNumbers]

/-- A polynomial ends in a constant somewhere. -/
theorem terms_ne_nil (poly : Poly) : poly.terms ≠ [] := by
  induction poly using induction with
  | constants value => exact List.cons_ne_nil _ _
  | sums constant monomials nonempty inductionHypothesis =>
    obtain ⟨head, tail, rfl⟩ := List.exists_cons_of_ne_nil nonempty
    rw [terms_of_ne_nil nonempty, Monomial.allTerms_cons]
    intro empty
    exact inductionHypothesis head List.mem_cons_self
      (List.map_eq_nil_iff.mp (List.append_eq_nil_iff.mp empty).1)

theorem mem_allTerms_iff {monomials : List Monomial} {term : Term} :
    term ∈ Monomial.allTerms monomials ↔
      ∃ monomial ∈ monomials, ∃ inner ∈ monomial.coefficient.terms,
        inner.under monomial.exponent = term := by
  induction monomials with
  | nil => simp
  | cons head tail inductionHypothesis => simp [inductionHypothesis]

/-- The numbers of a sum are its exponents and the numbers of its coefficients. -/
theorem hasNumbers_iff {constant : Int} {monomials : List Monomial} (nonempty : monomials ≠ []) :
    HasNumbers coefficient exponent ⟨constant, monomials⟩ ↔
      ∀ monomial ∈ monomials, exponent monomial.exponent ∧
        monomial.coefficient.HasNumbers coefficient exponent := by
  constructor
  · intro numbers monomial member
    have inner : ∀ term ∈ monomial.coefficient.terms, coefficient term.coefficient ∧
        ∀ power ∈ monomial.exponent :: term.exponents, exponent power := by
      intro term inside
      refine numbers (term.under monomial.exponent) ?_
      rw [terms_of_ne_nil nonempty]
      exact mem_allTerms_iff.mpr ⟨monomial, member, term, inside, rfl⟩
    obtain ⟨term, inside⟩ := List.exists_mem_of_ne_nil _ monomial.coefficient.terms_ne_nil
    refine ⟨(inner term inside).2 _ List.mem_cons_self, fun term inside => ?_⟩
    obtain ⟨holds, powers⟩ := inner term inside
    exact ⟨holds, fun power among => powers power (List.mem_cons_of_mem _ among)⟩
  · intro numbers term member
    rw [terms_of_ne_nil nonempty] at member
    obtain ⟨monomial, inMonomials, inner, inside, rfl⟩ := mem_allTerms_iff.mp member
    obtain ⟨outermost, below⟩ := numbers monomial inMonomials
    obtain ⟨holds, powers⟩ := below inner inside
    refine ⟨holds, fun power among => ?_⟩
    rcases List.mem_cons.mp among with rfl | among
    · exact outermost
    · exact powers power among

/-! ### Ranges -/

/-- Every coefficient has 64 bits with a sign, and every exponent 31 bits without one. -/
def IsInRange (poly : Poly) : Prop :=
  poly.HasNumbers (Integer.Kind.signed64.admits · = true) (Integer.Kind.unsigned31.admits · = true)

instance (poly : Poly) : Decidable poly.IsInRange :=
  inferInstanceAs (Decidable (∀ term ∈ poly.terms, _ ∧ ∀ power ∈ term.exponents, _))

/-- A number in a range of few digits is short enough to be written. -/
theorem isWritable_of_admits {kind : Integer.Kind} (short : kind.IsShort) {value : Int}
    (admitted : kind.admits value = true) : Decimal.isWritable value = true := by
  obtain ⟨low, high⟩ := short
  obtain ⟨lowest, highest⟩ := Integer.Kind.admits_iff.mp admitted
  have few : value.natAbs < 10 ^ Integer.longestInRange := by
    have cast : ((10 ^ Integer.longestInRange : Nat) : Int) = 10 ^ Integer.longestInRange := rfl
    omega
  have more : 10 ^ Integer.longestInRange ≤ Decimal.limit := by
    have longer : Integer.longestInRange ≤ Decimal.longest := by decide
    unfold Decimal.limit
    generalize Decimal.longest = longest at longer ⊢
    exact Nat.pow_le_pow_right (by decide) longer
  exact decide_eq_true (Nat.lt_of_lt_of_le few more)

/-- A polynomial is written when each of its numbers is. -/
theorem isWritable_iff (poly : Poly) :
    poly.isWritable = true ↔
      poly.HasNumbers (Decimal.isWritable · = true) (Decimal.isWritable · = true) := by
  induction poly using induction with
  | constants value =>
    rw [hasNumbers_const]
    rfl
  | sums constant monomials nonempty inductionHypothesis =>
    rw [hasNumbers_iff nonempty]
    obtain ⟨head, tail, rfl⟩ := List.exists_cons_of_ne_nil nonempty
    rw [isWritable, Monomial.areWritable_iff]
    exact forall₂_congr fun monomial member =>
      and_congr_right fun _ => inductionHypothesis monomial member

/-- A polynomial in range has no number too long to be written. -/
theorem IsInRange.isWritable {poly : Poly} (inRange : poly.IsInRange) : poly.isWritable = true := by
  refine (isWritable_iff poly).mpr fun term member => ?_
  obtain ⟨coefficient, exponents⟩ := inRange term member
  exact ⟨isWritable_of_admits Integer.isShort_signed64 coefficient,
    fun power among => isWritable_of_admits Integer.isShort_unsigned31 (exponents power among)⟩

/-! ### Numbers of sums -/

/-- Arithmetic makes no new exponents, apart from zero. -/
theorem isKept_hasNumbers (zero : exponent 0) :
    IsKept exponent (HasNumbers (fun _ => True) exponent) where
  constants _ := hasNumbers_const.mpr trivial
  sums table _ holds := by
    refine ofTable_cases table ?empty ?constant ?sum
    case empty => exact fun _ => hasNumbers_const.mpr trivial
    case constant => exact fun _ _ => hasNumbers_const.mpr trivial
    case sum =>
      exact fun nonempty _ => (hasNumbers_iff nonempty).mpr
        fun term member => holds term (Table.mem_nonzero_iff.mp member).1
  terms poly numbers := by
    refine forall_mem_table (fun _ => ⟨zero, numbers⟩) fun term member => ?_
    obtain ⟨constant, monomials⟩ := poly
    exact (hasNumbers_iff (List.ne_nil_of_mem member)).mp numbers term member

/-- Adding up the levels of a polynomial makes no new exponents, apart from zero. -/
theorem hasNumbers_normalized (zero : exponent 0) {poly : Poly}
    (numbers : poly.HasNumbers (fun _ => True) exponent) :
    poly.normalized.HasNumbers (fun _ => True) exponent := by
  induction poly using induction with
  | constants value => exact numbers
  | sums constant monomials nonempty inductionHypothesis =>
    have each := (hasNumbers_iff nonempty).mp numbers
    rw [normalized_of_ne_nil nonempty]
    refine (isKept_hasNumbers zero).ofMonomials fun term member => ?_
    obtain ⟨original, inMonomials, rfl⟩ := Monomial.exists_of_mem_normalizedAll member
    obtain ⟨allowed, below⟩ := each original inMonomials
    exact ⟨allowed, inductionHypothesis original inMonomials below⟩

end Poly

/-! ### Numbers of derived trees -/

namespace Grammar

mutual

theorem IsPoly.isInRange {text : List Char} {poly : Poly} (derived : IsPoly .accepted text poly) :
    poly.IsInRange := by
  match derived with
  | .coefficient numeral => exact Poly.hasNumbers_const.mpr numeral.2
  | .sum sum => exact (Poly.hasNumbers_iff sum.ne_nil).mpr sum.isInRange

theorem IsSum.isInRange {text : List Char} {monomials : List Monomial}
    (derived : IsSum .accepted text monomials) : ∀ monomial ∈ monomials,
      Integer.Kind.unsigned31.admits monomial.exponent = true ∧ monomial.coefficient.IsInRange := by
  match derived with
  | .single first => exact List.forall_mem_singleton.mpr first.isInRange
  | .more first others => exact List.forall_mem_cons.mpr ⟨first.isInRange, others.isInRange⟩

theorem IsMonomial.isInRange {text : List Char} {monomial : Monomial}
    (derived : IsMonomial .accepted text monomial) :
    Integer.Kind.unsigned31.admits monomial.exponent = true ∧ monomial.coefficient.IsInRange := by
  match derived with
  | .mk coefficient numeral => exact ⟨numeral.2, coefficient.isInRange⟩

end

end Grammar

end PolyIntake
