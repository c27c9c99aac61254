/-
This file proves that a written polynomial is a literal of the grammar. The
first half ties the printer with its list of pieces to a printer that calls
itself for the coefficient of each monomial: whatever is still on the list gets
written behind what is written already, each piece as the recursive printer
writes it.

The second half derives the text. The derived tree need not be the polynomial
itself, since a constant beside monomials is not written. It is the polynomial
without such constants, which has the same terms.
-/

import PolyIntake.Proofs.Numbers

namespace PolyIntake

/-! ### The recursive printer -/

mutual

/-- Writes a polynomial by calling itself for its coefficients. -/
def Poly.spelled : Poly → List Char
  | ⟨constant, []⟩ => Decimal.ofInt constant
  | ⟨_, head :: tail⟩ => Monomial.spelledAll ['('] (head :: tail)

/-- Writes the monomials of a list. The first is opened by the given text and every later one by
a plus sign and a parenthesis. -/
def Monomial.spelledAll (opening : List Char) : List Monomial → List Char
  | [] => []
  | ⟨exponent, coefficient⟩ :: rest =>
    opening ++ (coefficient.spelled ++ (',' :: Decimal.ofInt exponent ++ [')'] ++
      Monomial.spelledAll ['+', '('] rest))

end

@[simp] theorem Monomial.spelledAll_cons (opening : List Char) (head : Monomial)
    (tail : List Monomial) :
    Monomial.spelledAll opening (head :: tail) =
      opening ++ (head.coefficient.spelled ++ (',' :: Decimal.ofInt head.exponent ++ [')'] ++
        Monomial.spelledAll ['+', '('] tail)) := by
  cases head
  rfl

theorem Poly.spelled_of_ne_nil {constant : Int} {monomials : List Monomial}
    (nonempty : monomials ≠ []) :
    Poly.spelled ⟨constant, monomials⟩ = Monomial.spelledAll ['('] monomials := by
  cases monomials with
  | nil => exact absurd rfl nonempty
  | cons head tail => rw [Poly.spelled]

namespace Printer

/-- The text of a piece. -/
def Piece.spelled : Piece → List Char
  | .verbatim text => text
  | .literal poly => poly.spelled

theorem flatMap_spelled_pieces (opening : List Char) (monomials : List Monomial) :
    (pieces opening monomials).flatMap Piece.spelled = Monomial.spelledAll opening monomials := by
  induction monomials generalizing opening with
  | nil => rfl
  | cons head tail inductionHypothesis =>
    obtain ⟨exponent, coefficient⟩ := head
    rw [pieces, List.flatMap_cons, List.flatMap_cons, List.flatMap_cons, inductionHypothesis,
      Monomial.spelledAll]
    rfl

/-- The pieces on the list are written one by one behind what is written already. -/
theorem write_eq (todo : List Piece) (written : List (List Char)) :
    write todo written = written.reverse.flatten ++ todo.flatMap Piece.spelled := by
  fun_induction write todo written with
  | case1 written => rw [List.flatMap_nil, List.append_nil]
  | case2 written text todo inductionHypothesis =>
    rw [inductionHypothesis, List.reverse_cons, List.flatten_concat, List.append_assoc,
      List.flatMap_cons]
    rfl
  | case3 written poly todo constant inductionHypothesis =>
    obtain ⟨value, rfl⟩ := Poly.isConst_iff.mp constant
    rw [inductionHypothesis, List.reverse_cons, List.flatten_concat, List.append_assoc,
      List.flatMap_cons]
    rfl
  | case4 written poly todo notConstant inductionHypothesis =>
    obtain ⟨constant, monomials⟩ := poly
    have nonempty : monomials ≠ [] := fun empty => notConstant (empty ▸ rfl)
    rw [inductionHypothesis, List.flatMap_append, flatMap_spelled_pieces, List.flatMap_cons,
      Piece.spelled, Poly.spelled_of_ne_nil nonempty]

end Printer

theorem Poly.literal_eq_spelled (poly : Poly) : poly.literal = poly.spelled := by
  rw [literal, Printer.write_eq]
  exact List.append_nil _

/-! ### Constants that are not written -/

mutual

/-- The polynomial with zero for each constant that stands beside monomials, at every level. -/
def Poly.bare : Poly → Poly
  | ⟨constant, []⟩ => .const constant
  | ⟨_, head :: tail⟩ => ⟨0, Monomial.bareAll (head :: tail)⟩

/-- Some monomials with zero for each constant that stands beside monomials below them. -/
def Monomial.bareAll : List Monomial → List Monomial
  | [] => []
  | ⟨exponent, coefficient⟩ :: rest => ⟨exponent, coefficient.bare⟩ :: Monomial.bareAll rest

end

@[simp] theorem Monomial.bareAll_cons (head : Monomial) (tail : List Monomial) :
    Monomial.bareAll (head :: tail) =
      ⟨head.exponent, head.coefficient.bare⟩ :: Monomial.bareAll tail := by
  cases head
  rfl

theorem Monomial.bareAll_ne_nil {monomials : List Monomial} (nonempty : monomials ≠ []) :
    Monomial.bareAll monomials ≠ [] := by
  obtain ⟨head, tail, rfl⟩ := List.exists_cons_of_ne_nil nonempty
  rw [bareAll_cons]
  exact List.cons_ne_nil _ _

theorem Poly.bare_of_ne_nil {constant : Int} {monomials : List Monomial}
    (nonempty : monomials ≠ []) :
    Poly.bare ⟨constant, monomials⟩ = ⟨0, Monomial.bareAll monomials⟩ := by
  cases monomials with
  | nil => exact absurd rfl nonempty
  | cons head tail => rw [Poly.bare]

theorem Monomial.allTerms_bareAll {monomials : List Monomial}
    (same : ∀ monomial ∈ monomials,
      monomial.coefficient.bare.terms = monomial.coefficient.terms) :
    Monomial.allTerms (Monomial.bareAll monomials) = Monomial.allTerms monomials := by
  induction monomials with
  | nil => rfl
  | cons head tail inductionHypothesis =>
    rw [bareAll_cons, allTerms_cons, allTerms_cons, same head List.mem_cons_self,
      inductionHypothesis fun monomial member => same monomial (List.mem_cons_of_mem _ member)]

/-- A constant beside monomials is no term. -/
theorem Poly.terms_bare (poly : Poly) : poly.bare.terms = poly.terms := by
  induction poly using induction with
  | constants value => rfl
  | sums constant monomials nonempty inductionHypothesis =>
    rw [bare_of_ne_nil nonempty, terms_of_ne_nil (Monomial.bareAll_ne_nil nonempty),
      terms_of_ne_nil nonempty, Monomial.allTerms_bareAll inductionHypothesis]

/-! ### The literal is derived -/

open Grammar

variable {numerals : Numerals}

/-- Some monomials are spelled as a sum if their coefficients and exponents are spelled as what
they are. -/
theorem Monomial.isSum_spelledAll {monomials : List Monomial} (nonempty : monomials ≠ [])
    (derived : ∀ monomial ∈ monomials,
      numerals.exponent (Decimal.ofInt monomial.exponent) monomial.exponent ∧
      IsPoly numerals monomial.coefficient.spelled monomial.coefficient.bare) :
    IsSum numerals (Monomial.spelledAll ['('] monomials) (Monomial.bareAll monomials) := by
  induction monomials with
  | nil => exact absurd rfl nonempty
  | cons head tail inductionHypothesis =>
    obtain ⟨numeral, coefficient⟩ := derived head List.mem_cons_self
    have first := IsMonomial.mk coefficient numeral
    cases tail with
    | nil => simpa [Monomial.spelledAll, Monomial.bareAll] using IsSum.single first
    | cons head' tail =>
      have others := inductionHypothesis (List.cons_ne_nil _ _)
        fun monomial member => derived monomial (List.mem_cons_of_mem _ member)
      simpa using IsSum.more first others

/-- The literal of a polynomial is derived, and what is derived is the polynomial without the
constants that are not written. -/
theorem Poly.isPoly_literal {poly : Poly}
    (numbers : poly.HasNumbers (fun value => numerals.coefficient (Decimal.ofInt value) value)
      fun power => numerals.exponent (Decimal.ofInt power) power) :
    IsPoly numerals poly.literal poly.bare := by
  rw [literal_eq_spelled]
  induction poly using induction with
  | constants value =>
    rw [hasNumbers_const] at numbers
    exact .coefficient numbers
  | sums constant monomials nonempty inductionHypothesis =>
    rw [spelled_of_ne_nil nonempty, bare_of_ne_nil nonempty]
    refine .sum (Monomial.isSum_spelledAll nonempty fun monomial member => ?_)
    obtain ⟨numeral, below⟩ := (hasNumbers_iff nonempty).mp numbers monomial member
    exact ⟨numeral, inductionHypothesis monomial member below⟩

/-- The literal of any polynomial has the shape of one. -/
theorem Poly.isPoly_integers (poly : Poly) : IsPoly .integers poly.literal poly.bare :=
  isPoly_literal fun _ _ => ⟨isNumeral_ofInt _, fun _ _ => isNumeral_ofInt _⟩

/-- The literal of a polynomial in range is accepted. -/
theorem Poly.IsInRange.isPoly_accepted {poly : Poly} (inRange : poly.IsInRange) :
    IsPoly .accepted poly.literal poly.bare := by
  refine isPoly_literal fun term member => ?_
  obtain ⟨coefficient, exponents⟩ := inRange term member
  refine ⟨⟨isNumeral_ofInt _, coefficient⟩, fun power among => ⟨?_, exponents power among⟩⟩
  exact isNumeral_ofInt_of_nonneg (Integer.Kind.admits_iff.mp (exponents power among)).1

end PolyIntake
