/-
This file proves what becomes of a polynomial that is written and read back. The
text is always a literal as far as its shape goes, so it is accepted if and only
if every number in it is in range, and what comes back is the canonical
polynomial of the same meaning. A polynomial comes back as it was if and only if
it is in range and canonical.

An accepted line has its numbers in range, but its value need not: coefficients
are added up after their range was checked, and a sum of two may have more than
64 bits. The exponents of a value are always those of its line. So the value of
a line comes back if and only if its coefficients happen to be in range.
-/

import PolyIntake.Proofs.Parsing
import PolyIntake.Proofs.Printing

namespace PolyIntake

namespace Poly

open Grammar

/-! ### What a literal stands for -/

theorem isInRange_bare_iff {poly : Poly} : poly.bare.IsInRange ↔ poly.IsInRange := by
  unfold IsInRange HasNumbers
  rw [terms_bare]

theorem meaning_bare (poly : Poly) : poly.bare.meaning = poly.meaning := by
  unfold meaning
  rw [terms_bare]

/-! ### Reading back -/

/-- The polynomial is written, and the result is what its text is read as. -/
def RereadsAs (poly result : Poly) : Prop :=
  ∃ text, poly.written = .ok text ∧ parse text.toList = .ok result

theorem rereadsAs_iff_parse {poly result : Poly} :
    poly.RereadsAs result ↔ poly.isWritable = true ∧ parse poly.literal = .ok result := by
  unfold RereadsAs written
  constructor
  · rintro ⟨text, written, accepted⟩
    split at written
    case isTrue writable =>
      cases written
      exact ⟨writable, by rwa [Poly.text, String.toList_ofList] at accepted⟩
    · cases written
  · rintro ⟨writable, accepted⟩
    refine ⟨poly.text, if_pos writable, ?_⟩
    rwa [Poly.text, String.toList_ofList]

theorem rereadsAs_iff {poly result : Poly} :
    poly.RereadsAs result ↔
      poly.IsInRange ∧ result.IsCanonical ∧ result.meaning = poly.meaning := by
  rw [rereadsAs_iff_parse]
  constructor
  · rintro ⟨_, accepted⟩
    obtain ⟨tree, derived, rfl⟩ := parse_eq_ok_iff.mp accepted
    obtain rfl : tree = poly.bare :=
      (derived.widen accepted_isWithin_integers).unique poly.isPoly_integers
    refine ⟨isInRange_bare_iff.mp derived.isInRange, isCanonical_normalized _, ?_⟩
    rw [meaning_normalized, meaning_bare]
  · rintro ⟨inRange, canonical, meaning⟩
    refine ⟨inRange.isWritable, parse_eq_ok_iff.mpr ⟨poly.bare, inRange.isPoly_accepted, ?_⟩⟩
    refine canonical.eq_of_meaning_eq (isCanonical_normalized poly.bare) ?_
    rw [meaning, meaning_normalized, meaning_bare]

/-- A written polynomial is accepted if and only if it is in range, as the canonical polynomial
of the same meaning. It comes back unchanged if and only if it is canonical as well. -/
theorem reread_spec (poly : Poly) :
    ((∃ result, poly.RereadsAs result) ↔ poly.IsInRange) ∧
      (∀ result, poly.RereadsAs result ↔
        poly.IsInRange ∧ result.IsCanonical ∧ result.meaning = poly.meaning) ∧
      (poly.RereadsAs poly ↔ poly.IsInRange ∧ poly.IsCanonical) := by
  refine ⟨⟨?_, ?_⟩, fun _ => rereadsAs_iff, ?_⟩
  · rintro ⟨result, reread⟩
    exact (rereadsAs_iff.mp reread).1
  · intro inRange
    exact ⟨poly.normalized,
      rereadsAs_iff.mpr ⟨inRange, isCanonical_normalized poly, meaning_normalized poly⟩⟩
  · rw [rereadsAs_iff]
    exact ⟨fun ⟨inRange, canonical, _⟩ => ⟨inRange, canonical⟩,
      fun ⟨inRange, canonical⟩ => ⟨inRange, canonical, rfl⟩⟩

/-! ### The values of accepted lines -/

/-- The exponents of a value are in range. -/
theorem hasNumbers_of_parse {text : List Char} {poly : Poly} (accepted : parse text = .ok poly) :
    poly.HasNumbers (fun _ => True) (Integer.Kind.unsigned31.admits · = true) := by
  obtain ⟨tree, derived, rfl⟩ := parse_eq_ok_iff.mp accepted
  refine hasNumbers_normalized (by decide) fun term member => ?_
  exact ⟨trivial, (derived.isInRange term member).2⟩

/-- The text of an accepted value is accepted if and only if the coefficients that were added up
have 64 bits, and then it gives the value back. -/
theorem reread_of_parse {text : List Char} {poly : Poly} (accepted : parse text = .ok poly) :
    ((∃ result, poly.RereadsAs result) ↔
      ∀ term ∈ poly.terms, Integer.Kind.signed64.admits term.coefficient = true) ∧
      ∀ result, poly.RereadsAs result → result = poly := by
  have canonical := isCanonical_of_parse accepted
  refine ⟨⟨?_, ?_⟩, ?_⟩
  · rintro ⟨result, reread⟩ term member
    exact ((rereadsAs_iff.mp reread).1 term member).1
  · intro coefficients
    refine ⟨poly, rereadsAs_iff.mpr ⟨fun term member => ?_, canonical, rfl⟩⟩
    exact ⟨coefficients term member, (hasNumbers_of_parse accepted term member).2⟩
  · intro result reread
    obtain ⟨_, canonical', meaning⟩ := rereadsAs_iff.mp reread
    exact canonical'.eq_of_meaning_eq canonical meaning

theorem reread_of_parse_monomial :
    parse "(1,2)".toList = .ok ⟨0, [⟨2, const 1⟩]⟩ ∧
      ∃ result, RereadsAs ⟨0, [⟨2, const 1⟩]⟩ result := by
  have derived : IsMonomial .accepted "(1,2)".toList ⟨2, const 1⟩ :=
    @isMonomial_of_digits ['1'] ['2'] (by decide) (by decide) (by decide) (by decide)
  have accepted : parse "(1,2)".toList = .ok ⟨0, [⟨2, const 1⟩]⟩ :=
    parse_eq_ok_iff.mpr ⟨_, .sum (.single derived), by cbv⟩
  exact ⟨accepted, (reread_of_parse accepted).1.mpr (by decide)⟩

/-- Two coefficients in range may have a sum that is not, and its text is refused. -/
theorem not_reread_sum_beyond_range :
    parse "(9223372036854775807,0)+(1,0)".toList = .ok (const (2 ^ 63)) ∧
      ¬ ∃ result, RereadsAs (const (2 ^ 63)) result := by
  have largest : IsMonomial .accepted "(9223372036854775807,0)".toList
      ⟨0, const 9223372036854775807⟩ :=
    @isMonomial_of_digits "9223372036854775807".toList ['0'] (by decide) (by decide) (by decide)
      (by decide)
  have one : IsMonomial .accepted "(1,0)".toList ⟨0, const 1⟩ :=
    @isMonomial_of_digits ['1'] ['0'] (by decide) (by decide) (by decide) (by decide)
  refine ⟨parse_eq_ok_iff.mpr ⟨_, .sum (.more largest (.single one)), by cbv⟩, ?_⟩
  rintro ⟨result, reread⟩
  exact absurd (rereadsAs_iff.mp reread).1 (by decide)

end Poly

end PolyIntake
