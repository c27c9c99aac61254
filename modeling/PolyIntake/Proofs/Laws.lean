/-
This file proves the laws of addition. They are about values as they are stored,
not only about what the values mean. Addition is commutative for any two
polynomials, however they were put together, since each clash is settled by a
sum that is commutative itself. The other laws hold of canonical polynomials,
which are told apart by their meanings, and meanings are added like integers.

A sum of monomials follows the same laws: neither the order of the monomials nor
the way in which they are grouped has a part in it. It makes no difference that
levels collapse or vanish before the last monomial has arrived.
-/

import PolyIntake.Proofs.Values

namespace PolyIntake

/-! ### Commutativity -/

/-- Two tables are added in either order if this is so for the coefficients that meet. -/
theorem Table.sum_comm {left right : Table} (leftAscending : left.IsAscending)
    (rightAscending : right.IsAscending)
    (meeting : ∀ exponent coefficient coefficient', left.find? exponent = some coefficient →
      right.find? exponent = some coefficient' →
      coefficient + coefficient' = coefficient' + coefficient) :
    sum left right = sum right left := by
  refine ext_of_find? (isAscending_sum leftAscending rightAscending)
    (isAscending_sum rightAscending leftAscending) fun exponent => ?_
  rw [find?_sum leftAscending rightAscending, find?_sum rightAscending leftAscending]
  cases foundLeft : left.find? exponent with
  | none => cases right.find? exponent <;> rfl
  | some coefficient =>
    cases foundRight : right.find? exponent with
    | none => rfl
    | some coefficient' => exact congrArg some (meeting exponent _ _ foundLeft foundRight)

namespace Poly

/-- Any two polynomials are added in either order. -/
protected theorem add_comm (left right : Poly) : left + right = right + left := by
  induction left, right using add_induction with
  | constants left right leftConst rightConst =>
    rw [add_of_isConst leftConst rightConst, add_of_isConst rightConst leftConst, Int.add_comm]
  | tables left right notConst inductionHypothesis =>
    rw [add_of_not_isConst notConst, add_of_not_isConst (by rwa [Bool.and_comm]),
      Table.sum_comm left.isAscending_table right.isAscending_table inductionHypothesis]

/-! ### Laws of canonical polynomials -/

section Canonical

variable {first second third : Poly}

theorem IsCanonical.meaning_add (firstCanonical : first.IsCanonical)
    (secondCanonical : second.IsCanonical) :
    (first + second).meaning = first.meaning + second.meaning :=
  Poly.meaning_add firstCanonical.isUnrepeated secondCanonical.isUnrepeated

protected theorem IsCanonical.add_assoc (firstCanonical : first.IsCanonical)
    (secondCanonical : second.IsCanonical) (thirdCanonical : third.IsCanonical) :
    first + second + third = first + (second + third) := by
  have left := firstCanonical.add secondCanonical
  have right := secondCanonical.add thirdCanonical
  refine (left.add thirdCanonical).eq_of_meaning_eq (firstCanonical.add right) ?_
  rw [left.meaning_add thirdCanonical, firstCanonical.meaning_add secondCanonical,
    firstCanonical.meaning_add right, secondCanonical.meaning_add thirdCanonical, add_assoc]

protected theorem IsCanonical.add_zero (canonical : first.IsCanonical) : first + zero = first := by
  refine (canonical.add isCanonical_zero).eq_of_meaning_eq canonical ?_
  rw [canonical.meaning_add isCanonical_zero, meaning_zero, add_zero]

protected theorem IsCanonical.add_left_cancel (firstCanonical : first.IsCanonical)
    (secondCanonical : second.IsCanonical) (thirdCanonical : third.IsCanonical)
    (same : first + second = first + third) : second = third := by
  have meanings := congrArg meaning same
  rw [firstCanonical.meaning_add secondCanonical, firstCanonical.meaning_add thirdCanonical]
    at meanings
  exact secondCanonical.eq_of_meaning_eq thirdCanonical (add_left_cancel meanings)

end Canonical

/-- Addition is commutative for all polynomials. For canonical ones it is associative as well, zero
is neutral, and what is added to one polynomial is settled by the sum. -/
theorem addition_laws :
    (∀ first second : Poly, first + second = second + first) ∧
      ∀ first second third : Poly, first.IsCanonical → second.IsCanonical → third.IsCanonical →
        first + second + third = first + (second + third) ∧ first + zero = first ∧
          (first + second = first + third → second = third) :=
  ⟨Poly.add_comm, fun _ _ _ first second third =>
    ⟨first.add_assoc second third, first.add_zero, first.add_left_cancel second third⟩⟩

/-- The first two cancel a term and collapse to a constant before the third operand arrives, and the
last two cancel each other. -/
theorem addition_laws_collapsing :
    let first : Poly := ⟨0, [⟨0, const 5⟩, ⟨1, const 1⟩]⟩
    let second : Poly := ⟨0, [⟨1, const (-1)⟩]⟩
    let third : Poly := ⟨0, [⟨1, const 1⟩]⟩
    (first.IsCanonical ∧ second.IsCanonical ∧ third.IsCanonical) ∧
      first + second = const 5 ∧ first + second + third = first + (second + third) ∧
      first + zero = first ∧ first + (second + third) = first + zero ∧ second + third = zero := by
  intro first second third
  have firstCanonical : first.IsCanonical :=
    .sum _ (by decide) (by decide) (by simp [IsCanonical.const]) (by decide) (by simp)
  have secondCanonical : second.IsCanonical :=
    .sum _ (by decide) (by decide) (by simp [IsCanonical.const]) (by decide) (by simp)
  have thirdCanonical : third.IsCanonical :=
    .sum _ (by decide) (by decide) (by simp [IsCanonical.const]) (by decide) (by simp)
  obtain ⟨grouped, neutral, _⟩ :=
    addition_laws.2 first second third firstCanonical secondCanonical thirdCanonical
  have same : first + (second + third) = first + zero := by cbv
  have cancelled := (addition_laws.2 first (second + third) zero firstCanonical
    (secondCanonical.add thirdCanonical) isCanonical_zero).2.2 same
  exact ⟨⟨firstCanonical, secondCanonical, thirdCanonical⟩, by cbv, grouped, neutral, same,
    cancelled⟩

/-! ### Sums of monomials -/

section Monomials

variable {first second : List Monomial}

theorem meaning_ofMonomials_of_isCanonical
    (canonical : ∀ term ∈ first, term.coefficient.IsCanonical) :
    (ofMonomials first).meaning = Table.meaning first :=
  meaning_ofMonomials fun term member => (canonical term member).isUnrepeated

/-- The monomials of two lists are added list by list. -/
theorem ofMonomials_append (firstCanonical : ∀ term ∈ first, term.coefficient.IsCanonical)
    (secondCanonical : ∀ term ∈ second, term.coefficient.IsCanonical) :
    ofMonomials (first ++ second) = ofMonomials first + ofMonomials second := by
  have canonical : ∀ term ∈ first ++ second, term.coefficient.IsCanonical :=
    List.forall_mem_append.mpr ⟨firstCanonical, secondCanonical⟩
  have left := isCanonical_ofMonomials firstCanonical
  have right := isCanonical_ofMonomials secondCanonical
  refine (isCanonical_ofMonomials canonical).eq_of_meaning_eq (left.add right) ?_
  rw [left.meaning_add right, meaning_ofMonomials_of_isCanonical canonical,
    meaning_ofMonomials_of_isCanonical firstCanonical,
    meaning_ofMonomials_of_isCanonical secondCanonical, Table.meaning, List.map_append,
    List.sum_append]
  rfl

/-- Monomials may be added in any order. -/
theorem ofMonomials_perm (canonical : ∀ term ∈ first, term.coefficient.IsCanonical)
    (perm : first.Perm second) : ofMonomials second = ofMonomials first := by
  have canonical' : ∀ term ∈ second, term.coefficient.IsCanonical :=
    fun term member => canonical term (perm.mem_iff.mpr member)
  refine (isCanonical_ofMonomials canonical').eq_of_meaning_eq
    (isCanonical_ofMonomials canonical) ?_
  rw [meaning_ofMonomials_of_isCanonical canonical, meaning_ofMonomials_of_isCanonical canonical']
  exact (perm.symm.map _).sum_eq

end Monomials

/-- Adding up monomials with canonical coefficients comes to the same for every grouping and every
order of them, and the monomials of a canonical sum give it back. -/
theorem monomial_laws :
    (∀ first second : List Monomial, (∀ term ∈ first, term.coefficient.IsCanonical) →
      (∀ term ∈ second, term.coefficient.IsCanonical) →
        ofMonomials (first ++ second) = ofMonomials first + ofMonomials second) ∧
      (∀ first second : List Monomial, (∀ term ∈ first, term.coefficient.IsCanonical) →
        first.Perm second → ofMonomials second = ofMonomials first) ∧
      ∀ poly : Poly, poly.IsCanonical → ¬ poly.isConst = true →
        ofMonomials poly.monomials = poly := by
  refine ⟨fun _ _ => ofMonomials_append, fun _ _ => ofMonomials_perm, fun poly canonical sum => ?_⟩
  cases canonical with
  | const value => exact absurd rfl sum
  | sum monomials nonempty ascending coefficients nonzero notConstant =>
    exact ofMonomials_eq_of_isCanonical nonempty
      (.sum monomials nonempty ascending coefficients nonzero notConstant)

/-- The monomials of the first list add up to zero at power one, and with those of the second list
they come back. -/
theorem monomial_laws_cancelling :
    let first : List Monomial := [⟨1, const 2⟩, ⟨0, const 5⟩, ⟨1, const (-2)⟩]
    let second : List Monomial := [⟨1, const 3⟩]
    let total : Poly := ⟨0, [⟨0, const 5⟩, ⟨1, const 3⟩]⟩
    ((∀ term ∈ first, term.coefficient.IsCanonical) ∧
        (∀ term ∈ second, term.coefficient.IsCanonical) ∧ first.Perm first.reverse ∧
        total.IsCanonical ∧ ¬ total.isConst = true) ∧
      ofMonomials first = const 5 ∧ ofMonomials (first ++ second) = total ∧
      ofMonomials (first ++ second) = ofMonomials first + ofMonomials second ∧
      ofMonomials first.reverse = ofMonomials first ∧ ofMonomials total.monomials = total := by
  intro first second total
  have firstCanonical : ∀ term ∈ first, term.coefficient.IsCanonical := by
    simp [first, IsCanonical.const]
  have secondCanonical : ∀ term ∈ second, term.coefficient.IsCanonical := by
    simp [second, IsCanonical.const]
  have perm : first.Perm first.reverse := (List.reverse_perm first).symm
  have totalCanonical : total.IsCanonical :=
    .sum _ (by decide) (by decide) (by simp [IsCanonical.const]) (by decide) (by simp)
  obtain ⟨grouped, ordered, restored⟩ := monomial_laws
  exact ⟨⟨firstCanonical, secondCanonical, perm, totalCanonical, by decide⟩, by cbv, by cbv,
    grouped first second firstCanonical secondCanonical, ordered first _ firstCanonical perm,
    restored total totalCanonical (by decide)⟩

end Poly

end PolyIntake
