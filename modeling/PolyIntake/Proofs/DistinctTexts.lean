/-
This file proves that the text of a polynomial tells what polynomial it is. Two
polynomials have one literal if and only if they agree in everything that is
written, which is everything but the constants beside monomials. So two
canonical polynomials with one literal are equal, whatever the size of their
numbers, also where the literal could not be read back.

The argument goes through the grammar, which derives the literal of any
polynomial and has one derivation of a text at most. A text is only given out
when no number in it has too many digits. Under this condition it is the
literal, and without it there is no text at all.
-/

import PolyIntake.Proofs.Printing

namespace PolyIntake

open Grammar

/-! ### Polynomials with one literal -/

theorem Monomial.spelledAll_bareAll {monomials : List Monomial} (opening : List Char)
    (same : ∀ monomial ∈ monomials,
      monomial.coefficient.bare.spelled = monomial.coefficient.spelled) :
    Monomial.spelledAll opening (Monomial.bareAll monomials) =
      Monomial.spelledAll opening monomials := by
  induction monomials generalizing opening with
  | nil => rfl
  | cons head tail inductionHypothesis =>
    rw [bareAll_cons, spelledAll_cons, spelledAll_cons, same head List.mem_cons_self,
      inductionHypothesis _ fun monomial member => same monomial (List.mem_cons_of_mem _ member)]

theorem Monomial.bareAll_eq_self {monomials : List Monomial}
    (same : ∀ monomial ∈ monomials, monomial.coefficient.bare = monomial.coefficient) :
    Monomial.bareAll monomials = monomials := by
  induction monomials with
  | nil => rfl
  | cons head tail inductionHypothesis =>
    obtain ⟨exponent, coefficient⟩ := head
    rw [bareAll_cons, same _ List.mem_cons_self,
      inductionHypothesis fun monomial member => same monomial (List.mem_cons_of_mem _ member)]

namespace Poly

/-- A constant beside monomials is not written. -/
theorem spelled_bare (poly : Poly) : poly.bare.spelled = poly.spelled := by
  induction poly using induction with
  | constants value => rfl
  | sums constant monomials nonempty inductionHypothesis =>
    rw [bare_of_ne_nil nonempty, spelled_of_ne_nil (Monomial.bareAll_ne_nil nonempty),
      spelled_of_ne_nil nonempty, Monomial.spelledAll_bareAll _ inductionHypothesis]

/-- There is no constant beside the monomials of a canonical polynomial. -/
theorem IsCanonical.bare_eq {poly : Poly} (canonical : poly.IsCanonical) : poly.bare = poly := by
  induction canonical with
  | const value => rfl
  | sum monomials nonempty _ _ _ _ inductionHypothesis =>
    rw [bare_of_ne_nil nonempty, Monomial.bareAll_eq_self inductionHypothesis]

theorem literal_eq_iff {left right : Poly} :
    left.literal = right.literal ↔ left.bare = right.bare := by
  constructor
  · intro same
    have derived : IsPoly .integers left.literal right.bare := by
      rw [same]
      exact right.isPoly_integers
    exact left.isPoly_integers.unique derived
  · intro same
    rw [literal_eq_spelled, literal_eq_spelled, ← spelled_bare left, same, spelled_bare]

/-! ### Texts that are given out -/

/-- No number of the polynomial has more digits than are ever written. -/
def HasShortNumbers (poly : Poly) : Prop :=
  poly.HasNumbers (fun value => value.natAbs < 10 ^ Decimal.longest)
    fun power => power.natAbs < 10 ^ Decimal.longest

theorem hasShortNumbers_iff {poly : Poly} :
    poly.HasShortNumbers ↔ poly.isWritable = true := by
  have short (number : Int) :
      Decimal.isWritable number = true ↔ number.natAbs < 10 ^ Decimal.longest := by
    unfold Decimal.isWritable Decimal.limit
    generalize Decimal.longest = longest
    exact decide_eq_true_iff
  simp only [isWritable_iff, short, HasShortNumbers]

theorem hasShortNumbers_bare_iff {poly : Poly} :
    poly.bare.HasShortNumbers ↔ poly.HasShortNumbers := by
  unfold HasShortNumbers HasNumbers
  rw [terms_bare]

theorem written_eq_ok_iff {poly : Poly} {text : String} :
    poly.written = .ok text ↔ poly.HasShortNumbers ∧ text = String.ofList poly.literal := by
  rw [hasShortNumbers_iff, written]
  constructor
  · intro given
    split at given
    case isTrue writable => exact ⟨writable, (Except.ok.inj given).symm⟩
    · cases given
  · rintro ⟨writable, rfl⟩
    exact if_pos writable

/-- The printer with its list of pieces writes what the recursive printer writes, and two
polynomials have one literal if and only if they differ in no more than constants beside
monomials. A text is given out exactly when all numbers are short enough, and it is the literal;
so two polynomials have one text if and only if they have such numbers and do not differ in more
than that. Canonical polynomials have one literal only if they are equal. -/
theorem text_spec (left right : Poly) :
    left.literal = left.spelled ∧
    (left.literal = right.literal ↔ left.bare = right.bare) ∧
    (∀ text, left.written = .ok text ↔
      left.HasShortNumbers ∧ text = String.ofList left.spelled) ∧
    ((∃ text, left.written = .ok text ∧ right.written = .ok text) ↔
      left.HasShortNumbers ∧ left.bare = right.bare) ∧
    (left.IsCanonical → right.IsCanonical → (left.literal = right.literal ↔ left = right)) := by
  refine ⟨left.literal_eq_spelled, literal_eq_iff, fun text => ?_, ⟨?_, ?_⟩, ?_⟩
  · rw [written_eq_ok_iff, literal_eq_spelled]
  · rintro ⟨text, given, given'⟩
    obtain ⟨short, rfl⟩ := written_eq_ok_iff.mp given
    obtain ⟨_, same⟩ := written_eq_ok_iff.mp given'
    exact ⟨short, literal_eq_iff.mp (String.ofList_injective same)⟩
  · rintro ⟨short, same⟩
    have short' : right.HasShortNumbers := by
      rwa [← hasShortNumbers_bare_iff, ← same, hasShortNumbers_bare_iff]
    refine ⟨_, written_eq_ok_iff.mpr ⟨short, rfl⟩, written_eq_ok_iff.mpr ⟨short', ?_⟩⟩
    rw [literal_eq_iff.mpr same]
  · intro canonical canonical'
    rw [literal_eq_iff, canonical.bare_eq, canonical'.bare_eq]

/-- The two coefficients have more than 64 bits, so neither literal can be read back. -/
theorem text_spec_beyond_range :
    IsCanonical ⟨0, [⟨1, const (2 ^ 64)⟩]⟩ ∧ IsCanonical ⟨0, [⟨1, const (2 ^ 64 + 1)⟩]⟩ ∧
      literal ⟨0, [⟨1, const (2 ^ 64)⟩]⟩ ≠ literal ⟨0, [⟨1, const (2 ^ 64 + 1)⟩]⟩ := by
  have canonical : IsCanonical ⟨0, [⟨1, const (2 ^ 64)⟩]⟩ :=
    .sum _ (by decide) (List.pairwise_singleton _ _) (by simp [IsCanonical.const]) (by decide)
      (by simp)
  have canonical' : IsCanonical ⟨0, [⟨1, const (2 ^ 64 + 1)⟩]⟩ :=
    .sum _ (by decide) (List.pairwise_singleton _ _) (by simp [IsCanonical.const]) (by decide)
      (by simp)
  obtain ⟨-, -, -, -, equal_iff⟩ :=
    text_spec ⟨0, [⟨1, const (2 ^ 64)⟩]⟩ ⟨0, [⟨1, const (2 ^ 64 + 1)⟩]⟩
  exact ⟨canonical, canonical', mt (equal_iff canonical canonical').mp (by decide)⟩

/-- A constant beside a monomial does not show. -/
example : literal ⟨7, [⟨-1, const 3⟩]⟩ = literal ⟨0, [⟨-1, const 3⟩]⟩ := by cbv

/-- The smallest power of ten with too many digits has no text, so neither does it have the text
of the recursive printer, nor has it one text with itself. -/
theorem not_written_beyond_limit :
    (const (10 ^ Decimal.longest)).written = .error .written ∧
      (¬ ∀ poly : Poly, poly.written = .ok (String.ofList poly.spelled)) ∧
      ¬ ∀ left right : Poly, (∃ text, left.written = .ok text ∧ right.written = .ok text) ↔
        left.bare = right.bare := by
  have overlong : (const (10 ^ Decimal.longest)).written = .error .written := by
    have notShort : ¬ (const (10 ^ Decimal.longest)).HasShortNumbers := by
      intro short
      have below := hasNumbers_const.mp short
      generalize Decimal.longest = longest at below
      rw [Int.natAbs_pow] at below
      exact Nat.lt_irrefl _ below
    rw [hasShortNumbers_iff] at notShort
    exact if_neg notShort
  refine ⟨overlong, fun each => ?_, fun each => ?_⟩
  · have given := each (const (10 ^ Decimal.longest))
    rw [overlong] at given
    cases given
  · obtain ⟨text, given, _⟩ :=
      (each (const (10 ^ Decimal.longest)) (const (10 ^ Decimal.longest))).mpr rfl
    rw [overlong] at given
    cases given

end Poly

end PolyIntake
