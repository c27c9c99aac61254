/-
This file defines the canonical polynomials and proves that arithmetic keeps
them. A polynomial is canonical when every level of it is: a level is a plain
constant, or a sum of terms with ascending exponents and canonical coefficients
other than zero, which is not just a constant at power zero.

Turning an ascending table of canonical coefficients into a polynomial makes the
level above them canonical as well, since it drops the terms that are zero and
collapses a lone constant. Everything else is the induction over sums: a clash
of two canonical coefficients is settled by a canonical one, and it may vanish
or collapse on the way without harm to the levels above.

A weaker property, that no level repeats an exponent, is kept in the same way.
It is all that a sum asks of its operands to lose no term of them.
-/

import PolyIntake.Proofs.Sums

namespace PolyIntake

namespace Poly

/-! ### Constants and zero -/

@[simp] theorem isConst_const (value : Int) : (const value).isConst = true := rfl

theorem eq_const_of_isConst {poly : Poly} (constant : poly.isConst = true) :
    poly = const poly.constant := by
  obtain ⟨value, monomials⟩ := poly
  cases monomials with
  | nil => rfl
  | cons head tail => cases constant

theorem isConst_iff {poly : Poly} : poly.isConst = true ↔ ∃ value, poly = const value := by
  constructor
  · exact fun constant => ⟨_, eq_const_of_isConst constant⟩
  · rintro ⟨value, rfl⟩
    rfl

theorem not_isConst_of_ne_nil {constant : Int} {monomials : List Monomial}
    (nonempty : monomials ≠ []) : ¬ (Poly.mk constant monomials).isConst = true := by
  cases monomials with
  | nil => exact absurd rfl nonempty
  | cons head tail => exact Bool.false_ne_true

@[simp] theorem isZero_iff {poly : Poly} : poly.isZero = true ↔ poly = zero := by
  obtain ⟨value, monomials⟩ := poly
  cases monomials with
  | nil => simp [isZero, isConst, zero, const]
  | cons head tail => simp [isZero, isConst, zero, const]

/-- Induction over a polynomial: a statement holds of all polynomials if it holds of constants,
and of a sum as soon as it holds of the coefficients of its monomials. -/
theorem induction {motive : Poly → Prop} (constants : ∀ value, motive (const value))
    (sums : ∀ constant monomials, monomials ≠ [] →
      (∀ term ∈ monomials, motive term.coefficient) → motive ⟨constant, monomials⟩)
    (poly : Poly) : motive poly := by
  obtain ⟨constant, monomials⟩ := poly
  by_cases empty : monomials = []
  · subst empty
    exact constants constant
  · refine sums constant monomials empty fun term member => ?_
    have lighter := Table.weight_le_of_mem member
    exact induction constants sums term.coefficient
termination_by poly.weight
decreasing_by
  rw [weight_eq ⟨constant, monomials⟩]
  simp only
  omega

/-- The terms in the table of a polynomial are its monomials, or a constant at power zero. -/
theorem forall_mem_table {property : Monomial → Prop} {poly : Poly}
    (constant : poly.isConst = true → property ⟨0, poly⟩)
    (sum : ∀ term ∈ poly.monomials, property term) : ∀ term ∈ poly.table, property term := by
  intro term member
  unfold table at member
  split at member
  case isTrue isConst =>
    split at member
    · exact absurd member List.not_mem_nil
    · rw [List.mem_singleton.mp member]
      exact constant isConst
  · exact sum term (Table.mem_of_mem_ofList member)

/-! ### The polynomial of a table -/

end Poly

/-- The terms of a table that are not zero. -/
def Table.nonzero (table : Table) : Table :=
  table.filter fun term => !term.coefficient.isZero

theorem Table.mem_nonzero_iff {table : Table} {term : Monomial} :
    term ∈ table.nonzero ↔ term ∈ table ∧ term.coefficient ≠ Poly.zero := by
  simp [nonzero, ← Poly.isZero_iff]

theorem Table.IsAscending.nonzero {table : Table} (ascending : table.IsAscending) :
    table.nonzero.IsAscending :=
  ascending.filter _

namespace Poly

/-- A table without terms makes zero, a lone constant at power zero makes that constant, and any
other table makes the sum of its terms that are not zero. -/
@[elab_as_elim]
theorem ofTable_cases {motive : Poly → Prop} (table : Table)
    (empty : table.nonzero = [] → motive zero)
    (constant : ∀ value, table.nonzero = [⟨0, const value⟩] → motive (const value))
    (sum : table.nonzero ≠ [] → (∀ value, table.nonzero ≠ [⟨0, const value⟩]) →
      motive ⟨0, table.nonzero⟩) : motive (ofTable table) := by
  unfold ofTable
  split
  case h_1 none => exact empty none
  case h_2 term single =>
    obtain ⟨exponent, coefficient⟩ := term
    split
    case isTrue lone =>
      obtain ⟨atZero, isConst⟩ := Bool.and_eq_true_iff.mp lone
      obtain rfl : exponent = 0 := of_decide_eq_true atZero
      obtain ⟨value, rfl⟩ := isConst_iff.mp isConst
      exact constant value single
    case isFalse notLone =>
      rw [← single]
      refine sum (by rw [Table.nonzero, single]; exact List.cons_ne_nil _ _) fun value equal => ?_
      obtain ⟨rfl, rfl⟩ := Monomial.mk.inj (List.cons.inj (single.symm.trans equal)).1
      exact notLone rfl
  case h_3 nonempty notSingle => exact sum nonempty fun value equal => notSingle _ equal

/-! ### Canonical polynomials -/

/-- A polynomial that is written in one way only: at every level it is a constant, or its
exponents ascend strictly, none of its coefficients is zero, and it is not a constant at
power zero. -/
inductive IsCanonical : Poly → Prop
  | const (value : Int) : IsCanonical (const value)
  | sum (monomials : List Monomial) (nonempty : monomials ≠ [])
      (ascending : Table.IsAscending monomials)
      (coefficients : ∀ term ∈ monomials, IsCanonical term.coefficient)
      (nonzero : ∀ term ∈ monomials, term.coefficient ≠ zero)
      (notConstant : ∀ value, monomials ≠ [⟨0, Poly.const value⟩]) : IsCanonical ⟨0, monomials⟩

theorem isCanonical_zero : IsCanonical zero :=
  .const 0

theorem IsCanonical.coefficient {poly : Poly} (canonical : poly.IsCanonical) {term : Monomial}
    (member : term ∈ poly.monomials) : term.coefficient.IsCanonical := by
  cases canonical with
  | const => exact absurd member List.not_mem_nil
  | sum _ _ _ coefficients => exact coefficients term member

/-- The polynomial of a table is made of the terms that are not zero. -/
theorem isCanonical_ofTable {table : Table} (ascending : table.IsAscending)
    (coefficients : ∀ term ∈ table, term.coefficient.IsCanonical) :
    (ofTable table).IsCanonical := by
  refine ofTable_cases table ?empty ?constant ?sum
  case empty => exact fun _ => isCanonical_zero
  case constant => exact fun value _ => .const value
  case sum =>
    intro nonempty notConstant
    refine .sum _ nonempty ascending.nonzero ?_ ?_ notConstant
    · exact fun term member => coefficients term (Table.mem_nonzero_iff.mp member).1
    · exact fun term member => (Table.mem_nonzero_iff.mp member).2

/-- Arithmetic keeps the canonical polynomials. -/
theorem isKept_isCanonical : IsKept (fun _ => True) IsCanonical where
  constants := .const
  sums _ ascending holds := isCanonical_ofTable ascending fun term member => (holds term member).2
  terms _ canonical := forall_mem_table (fun _ => ⟨trivial, canonical⟩)
    fun _ member => ⟨trivial, canonical.coefficient member⟩

theorem IsCanonical.add {left right : Poly} (leftCanonical : left.IsCanonical)
    (rightCanonical : right.IsCanonical) : (left + right).IsCanonical :=
  isKept_isCanonical.add leftCanonical rightCanonical

theorem isCanonical_ofMonomials {monomials : List Monomial}
    (coefficients : ∀ term ∈ monomials, term.coefficient.IsCanonical) :
    (ofMonomials monomials).IsCanonical :=
  isKept_isCanonical.ofMonomials fun term member => ⟨trivial, coefficients term member⟩

/-! ### Polynomials that repeat no exponent -/

/-- No level of the polynomial has two terms with one exponent. Terms may stand in any order and
may be zero. -/
inductive IsUnrepeated : Poly → Prop
  | mk (constant : Int) (monomials : List Monomial)
      (distinct : monomials.Pairwise fun earlier later => earlier.exponent ≠ later.exponent)
      (coefficients : ∀ term ∈ monomials, IsUnrepeated term.coefficient) :
      IsUnrepeated ⟨constant, monomials⟩

theorem isUnrepeated_const (value : Int) : IsUnrepeated (const value) :=
  .mk value [] List.Pairwise.nil fun _ member => absurd member List.not_mem_nil

theorem IsUnrepeated.distinct {poly : Poly} (unrepeated : poly.IsUnrepeated) :
    poly.monomials.Pairwise fun earlier later => earlier.exponent ≠ later.exponent := by
  cases unrepeated with
  | mk _ _ distinct => exact distinct

theorem IsUnrepeated.coefficient {poly : Poly} (unrepeated : poly.IsUnrepeated)
    {term : Monomial} (member : term ∈ poly.monomials) : term.coefficient.IsUnrepeated := by
  cases unrepeated with
  | mk _ _ _ coefficients => exact coefficients term member

/-- An ascending table repeats no exponent. -/
theorem isUnrepeated_of_isAscending {constant : Int} {table : Table}
    (ascending : table.IsAscending)
    (coefficients : ∀ term ∈ table, term.coefficient.IsUnrepeated) :
    IsUnrepeated ⟨constant, table⟩ :=
  .mk constant table (ascending.imp Int.ne_of_lt) coefficients

/-- Arithmetic keeps the polynomials that repeat no exponent. -/
theorem isKept_isUnrepeated : IsKept (fun _ => True) IsUnrepeated where
  constants := isUnrepeated_const
  sums table ascending holds := by
    refine ofTable_cases table ?empty ?constant ?sum
    case empty => exact fun _ => isUnrepeated_const 0
    case constant => exact fun value _ => isUnrepeated_const value
    case sum =>
      exact fun _ _ => isUnrepeated_of_isAscending ascending.nonzero
        fun term member => (holds term (Table.mem_nonzero_iff.mp member).1).2
  terms _ unrepeated := forall_mem_table (fun _ => ⟨trivial, unrepeated⟩)
    fun _ member => ⟨trivial, unrepeated.coefficient member⟩

/-- Canonical polynomials repeat no exponent. -/
theorem IsCanonical.isUnrepeated {poly : Poly} (canonical : poly.IsCanonical) :
    poly.IsUnrepeated := by
  induction canonical with
  | const value => exact isUnrepeated_const value
  | sum monomials _ ascending _ _ _ inductionHypothesis =>
    exact isUnrepeated_of_isAscending ascending inductionHypothesis

end Poly

end PolyIntake
