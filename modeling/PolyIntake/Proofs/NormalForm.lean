/-
This file proves that canonical polynomials are normal forms: two of them that
mean the same are the same value. So comparing values part by part, which is
all that the program ever does, decides whether two canonical polynomials are
equal as polynomials.

The one way in which a polynomial could have two spellings is a constant that is
disguised as a sum. A canonical sum is never one: it has a coefficient at a
power other than zero, or else it is a lone term at power zero over a coefficient
that is no constant, and that coefficient is a smaller canonical sum.

Adding up all levels of a polynomial, from the innermost outwards, gives the
canonical polynomial with its meaning.
-/

import PolyIntake.Proofs.Meaning

namespace PolyIntake

namespace Poly

/-! ### Sums are no constants -/

/-- A canonical sum does not mean a constant. -/
theorem meaning_ne_single_zero {poly : Poly} (canonical : poly.IsCanonical)
    (notConst : ¬ poly.isConst = true) (value : ℤ) :
    poly.meaning ≠ Finsupp.single 0 value := by
  induction canonical generalizing value with
  | const => exact absurd rfl notConst
  | sum monomials nonempty ascending coefficients nonzero notConstant inductionHypothesis =>
    intro equal
    rw [meaning_of_ne_nil nonempty] at equal
    have found (term : Monomial) (member : term ∈ monomials) (powers : Powers) :
        term.coefficient.meaning powers =
          if term.exponent = 0 then (Finsupp.single 0 value : Meaning) powers else 0 := by
      rw [← Meaning.single_zero_apply_cons, ← equal, Table.meaning_apply_cons ascending,
        Table.find?_of_mem ascending member]
      rfl
    have atZero : ∀ term ∈ monomials, term.exponent = 0 := by
      intro term member
      by_contra elsewhere
      have vanishes : term.coefficient.meaning = Finsupp.single 0 0 := by
        refine Finsupp.ext fun powers => ?_
        rw [found term member powers, if_neg elsewhere, Finsupp.single_zero]
        rfl
      by_cases constant : term.coefficient.isConst = true
      · obtain ⟨value', equal'⟩ := isConst_iff.mp constant
        rw [equal', meaning_const] at vanishes
        exact nonzero term member (by rw [equal', Finsupp.single_injective 0 vanishes, zero])
      · exact inductionHypothesis term member constant 0 vanishes
    obtain ⟨coefficient, rfl⟩ := ascending.exists_eq_singleton nonempty atZero
    have notConst : ¬ coefficient.isConst = true := by
      intro constant
      obtain ⟨value', rfl⟩ := isConst_iff.mp constant
      exact notConstant value' rfl
    refine inductionHypothesis _ List.mem_cons_self notConst value ?_
    refine Finsupp.ext fun powers => ?_
    rw [found _ List.mem_cons_self powers, if_pos rfl]

/-- Only zero among the canonical polynomials means nothing at all. -/
theorem eq_zero_of_meaning_eq_zero {poly : Poly} (canonical : poly.IsCanonical)
    (vanishes : poly.meaning = 0) : poly = zero := by
  by_cases constant : poly.isConst = true
  · obtain ⟨value, rfl⟩ := isConst_iff.mp constant
    rw [meaning_const, Finsupp.single_eq_zero] at vanishes
    rw [vanishes, zero]
  · exact absurd (vanishes.trans (Finsupp.single_zero _).symm)
      (meaning_ne_single_zero canonical constant 0)

/-! ### Uniqueness -/

/-- Canonical polynomials that mean the same are the same. -/
theorem IsCanonical.eq_of_meaning_eq {left right : Poly} (leftCanonical : left.IsCanonical)
    (rightCanonical : right.IsCanonical) (same : left.meaning = right.meaning) :
    left = right := by
  induction leftCanonical generalizing right with
  | const value =>
    by_cases constant : right.isConst = true
    · obtain ⟨value', rfl⟩ := isConst_iff.mp constant
      rw [meaning_const, meaning_const] at same
      rw [Finsupp.single_injective 0 same]
    · rw [meaning_const] at same
      exact absurd same.symm (meaning_ne_single_zero rightCanonical constant value)
  | sum monomials nonempty ascending coefficients nonzero notConstant inductionHypothesis =>
    have leftCanonical := IsCanonical.sum monomials nonempty ascending coefficients nonzero
      notConstant
    cases rightCanonical with
    | const value =>
      rw [meaning_const] at same
      exact absurd same
        (meaning_ne_single_zero leftCanonical (not_isConst_of_ne_nil nonempty) value)
    | sum monomials' nonempty' ascending' coefficients' nonzero' notConstant' =>
      rw [meaning_of_ne_nil nonempty, meaning_of_ne_nil nonempty'] at same
      refine congrArg (Poly.mk 0) (Table.ext_of_find? ascending ascending' fun exponent => ?_)
      have found (powers : Powers) : Meaning.ofFound (Table.find? monomials exponent) powers =
          Meaning.ofFound (Table.find? monomials' exponent) powers := by
        rw [← Table.meaning_apply_cons ascending, same, Table.meaning_apply_cons ascending']
      cases foundLeft : Table.find? monomials exponent with
      | none =>
        cases foundRight : Table.find? monomials' exponent with
        | none => rfl
        | some coefficient' =>
          rw [foundLeft, foundRight] at found
          have member := Table.mem_of_find? foundRight
          exact absurd (eq_zero_of_meaning_eq_zero (coefficients' _ member)
            (Finsupp.ext fun powers => (found powers).symm)) (nonzero' _ member)
      | some coefficient =>
        have member := Table.mem_of_find? foundLeft
        cases foundRight : Table.find? monomials' exponent with
        | none =>
          rw [foundLeft, foundRight] at found
          exact absurd (eq_zero_of_meaning_eq_zero (coefficients _ member)
            (Finsupp.ext found)) (nonzero _ member)
        | some coefficient' =>
          rw [foundLeft, foundRight] at found
          exact congrArg some (inductionHypothesis _ member
            (coefficients' _ (Table.mem_of_find? foundRight)) (Finsupp.ext found))

/-- Comparing canonical polynomials part by part decides whether they are equal as polynomials. -/
theorem eq_iff_meaning_eq {left right : Poly} (leftCanonical : left.IsCanonical)
    (rightCanonical : right.IsCanonical) :
    (left.constant = right.constant ∧ left.monomials = right.monomials) ↔
      left.meaning = right.meaning := by
  constructor
  · rintro ⟨constants, monomials⟩
    have same : left = right := by
      cases left
      cases right
      exact congrArg₂ Poly.mk constants monomials
    rw [same]
  · intro same
    obtain rfl := leftCanonical.eq_of_meaning_eq rightCanonical same
    exact ⟨rfl, rfl⟩

/-- A variable of the second level, below a lone power zero, is not the variable of the first. -/
theorem meaning_second_variable_ne :
    IsCanonical ⟨0, [⟨0, ⟨0, [⟨1, const 1⟩]⟩⟩]⟩ ∧ IsCanonical ⟨0, [⟨1, const 1⟩]⟩ ∧
      meaning ⟨0, [⟨0, ⟨0, [⟨1, const 1⟩]⟩⟩]⟩ ≠ meaning ⟨0, [⟨1, const 1⟩]⟩ := by
  have first : IsCanonical ⟨0, [⟨1, const 1⟩]⟩ :=
    .sum _ (by decide) (List.pairwise_singleton _ _) (by simp [IsCanonical.const]) (by decide)
      (by simp)
  have second : IsCanonical ⟨0, [⟨0, ⟨0, [⟨1, const 1⟩]⟩⟩]⟩ :=
    .sum _ (by decide) (List.pairwise_singleton _ _) (by simp [first]) (by decide)
      (by simp [const])
  exact ⟨second, first, fun same => absurd ((eq_iff_meaning_eq second first).mpr same) (by decide)⟩

end Poly

/-! ### The canonical form of a polynomial -/

mutual

/-- Adds up every level of a polynomial, the innermost first. -/
def Poly.normalized : Poly → Poly
  | ⟨constant, []⟩ => .const constant
  | ⟨_, head :: tail⟩ => .ofMonomials (Monomial.normalizedAll (head :: tail))

/-- Some monomials with all levels of their coefficients added up. -/
def Monomial.normalizedAll : List Monomial → List Monomial
  | [] => []
  | ⟨exponent, coefficient⟩ :: rest =>
    ⟨exponent, coefficient.normalized⟩ :: Monomial.normalizedAll rest

end

@[simp] theorem Monomial.normalizedAll_nil : Monomial.normalizedAll [] = [] := rfl

@[simp] theorem Monomial.normalizedAll_cons (head : Monomial) (tail : List Monomial) :
    Monomial.normalizedAll (head :: tail) =
      ⟨head.exponent, head.coefficient.normalized⟩ :: Monomial.normalizedAll tail := by
  cases head
  rfl

theorem Monomial.normalizedAll_append (monomials monomials' : List Monomial) :
    Monomial.normalizedAll (monomials ++ monomials') =
      Monomial.normalizedAll monomials ++ Monomial.normalizedAll monomials' := by
  induction monomials with
  | nil => rfl
  | cons head tail inductionHypothesis =>
    rw [List.cons_append, Monomial.normalizedAll_cons, Monomial.normalizedAll_cons,
      inductionHypothesis, List.cons_append]

theorem Monomial.exists_of_mem_normalizedAll {monomials : List Monomial} {term : Monomial}
    (member : term ∈ Monomial.normalizedAll monomials) :
    ∃ original ∈ monomials, term = ⟨original.exponent, original.coefficient.normalized⟩ := by
  induction monomials with
  | nil => exact absurd member List.not_mem_nil
  | cons head tail inductionHypothesis =>
    rw [normalizedAll_cons] at member
    rcases List.mem_cons.mp member with rfl | inTail
    · exact ⟨head, List.mem_cons_self, rfl⟩
    · obtain ⟨original, inOriginal, equal⟩ := inductionHypothesis inTail
      exact ⟨original, List.mem_cons_of_mem _ inOriginal, equal⟩

namespace Poly

@[simp] theorem normalized_const (value : Int) : (const value).normalized = const value := rfl

theorem normalized_of_ne_nil {constant : Int} {monomials : List Monomial}
    (nonempty : monomials ≠ []) :
    normalized ⟨constant, monomials⟩ = ofMonomials (Monomial.normalizedAll monomials) := by
  cases monomials with
  | nil => exact absurd rfl nonempty
  | cons head tail => rw [normalized]

theorem isCanonical_normalized (poly : Poly) : poly.normalized.IsCanonical := by
  induction poly using induction with
  | constants value => exact .const value
  | sums constant monomials nonempty inductionHypothesis =>
    rw [normalized_of_ne_nil nonempty]
    refine isCanonical_ofMonomials fun term member => ?_
    obtain ⟨original, inMonomials, rfl⟩ := Monomial.exists_of_mem_normalizedAll member
    exact inductionHypothesis original inMonomials

theorem meaning_normalizedAll {monomials : List Monomial}
    (same : ∀ term ∈ monomials, term.coefficient.normalized.meaning = term.coefficient.meaning) :
    Table.meaning (Monomial.normalizedAll monomials) = Table.meaning monomials := by
  induction monomials with
  | nil => rfl
  | cons head tail inductionHypothesis =>
    rw [Monomial.normalizedAll_cons, Table.meaning_cons, Table.meaning_cons,
      same head List.mem_cons_self,
      inductionHypothesis fun term member => same term (List.mem_cons_of_mem _ member)]

/-- Adding up all levels keeps the meaning, also where levels repeat exponents. -/
theorem meaning_normalized (poly : Poly) : poly.normalized.meaning = poly.meaning := by
  induction poly using induction with
  | constants value => rfl
  | sums constant monomials nonempty inductionHypothesis =>
    have unrepeated : ∀ term ∈ Monomial.normalizedAll monomials,
        term.coefficient.IsUnrepeated := by
      intro term member
      obtain ⟨original, _, rfl⟩ := Monomial.exists_of_mem_normalizedAll member
      exact (isCanonical_normalized original.coefficient).isUnrepeated
    rw [normalized_of_ne_nil nonempty, meaning_ofMonomials unrepeated,
      meaning_normalizedAll inductionHypothesis, meaning_of_ne_nil nonempty]

end Poly

end PolyIntake
