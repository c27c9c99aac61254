/-
This file proves that the calculator handles canonical polynomials only. The
values that exist at all are those that are built from integers and accepted
lines by addition and by collecting monomials, in any order and to any depth.

Every one of them is canonical at every level. Collecting monomials adds up a
level only where exponents clash and leaves the other coefficients as they are,
so the levels below have to be canonical already, and this is what the induction
over the way a value was built supplies. Conversely nothing more can be said of
the shape of a value, as each canonical polynomial can be built.
-/

import PolyIntake.Proofs.Parsing

namespace PolyIntake

namespace Poly

/-- A value of the calculator, by the operations that make values. -/
inductive IsBuilt : Poly → Prop
  | const (value : Int) : IsBuilt (.const value)
  | zero : IsBuilt .zero
  | parse {text : List Char} {poly : Poly} (accepted : parse text = .ok poly) : IsBuilt poly
  | add {left right : Poly} (leftBuilt : IsBuilt left) (rightBuilt : IsBuilt right) :
      IsBuilt (left + right)
  | ofMonomials {monomials : List Monomial}
      (coefficients : ∀ term ∈ monomials, IsBuilt term.coefficient) :
      IsBuilt (.ofMonomials monomials)

theorem IsBuilt.isCanonical {poly : Poly} (built : poly.IsBuilt) : poly.IsCanonical := by
  induction built with
  | const value => exact .const value
  | zero => exact isCanonical_zero
  | parse accepted => exact isCanonical_of_parse accepted
  | add _ _ leftCanonical rightCanonical => exact leftCanonical.add rightCanonical
  | ofMonomials _ inductionHypothesis => exact isCanonical_ofMonomials inductionHypothesis

/-- Collecting the monomials of a canonical polynomial gives the polynomial back. -/
theorem ofMonomials_eq_of_isCanonical {monomials : List Monomial} (nonempty : monomials ≠ [])
    (canonical : IsCanonical ⟨0, monomials⟩) : ofMonomials monomials = ⟨0, monomials⟩ := by
  have coefficients : ∀ term ∈ monomials, term.coefficient.IsCanonical :=
    fun _ member => canonical.coefficient member
  refine (isCanonical_ofMonomials coefficients).eq_of_meaning_eq canonical ?_
  rw [meaning_of_ne_nil nonempty]
  exact meaning_ofMonomials fun term member => (coefficients term member).isUnrepeated

theorem IsCanonical.isBuilt {poly : Poly} (canonical : poly.IsCanonical) : poly.IsBuilt := by
  induction canonical with
  | const value => exact .const value
  | sum monomials nonempty ascending coefficients nonzero notConstant inductionHypothesis =>
    rw [← ofMonomials_eq_of_isCanonical nonempty
      (.sum monomials nonempty ascending coefficients nonzero notConstant)]
    exact .ofMonomials inductionHypothesis

/-- The values of the calculator are the canonical polynomials. -/
theorem isBuilt_iff_isCanonical (poly : Poly) : poly.IsBuilt ↔ poly.IsCanonical :=
  ⟨IsBuilt.isCanonical, IsCanonical.isBuilt⟩

end Poly

end PolyIntake
