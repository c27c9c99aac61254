/-
This file defines the grammar of polynomial literals. A literal is a coefficient
or a sum of monomials joined by plus signs, and a monomial is a literal and an
exponent in parentheses with a comma between them. A derivation of a text is
indexed by the polynomial that is written there, monomial by monomial and
before anything is added up.

What counts as a numeral is left open, since the same grammar is needed twice:
the reader takes numerals in the range of their place, while the printer writes
integers of any size and sign.

The grammar is unambiguous, also when more text follows: a literal that ends in
front of a comma or the end of the line is the only one that begins where it
begins. Its characters are legal and its parentheses pair up, so neither of the
checks in front of the parser refuses a line that the grammar derives.
-/

import PolyIntake.Poly.Parser
import PolyIntake.Proofs.Numerals

namespace PolyIntake

namespace Grammar

/-! ### Derivations -/

/-- The texts that are numerals, with their values, as coefficients and as exponents. -/
structure Numerals where
  coefficient : List Char → Int → Prop
  exponent : List Char → Int → Prop

/-- Integers of any size, also negative exponents. -/
def Numerals.integers : Numerals :=
  ⟨IsNumeral true, IsNumeral true⟩

/-- The numerals that are accepted: coefficients of 64 bits with a sign, and exponents of 31
bits that have none. -/
def Numerals.accepted : Numerals where
  coefficient text value := IsNumeral true text value ∧ Integer.Kind.signed64.admits value = true
  exponent text value := IsNumeral false text value ∧ Integer.Kind.unsigned31.admits value = true

mutual

/-- `Poly := Coeff | MonoSum`. -/
inductive IsPoly (numerals : Numerals) : List Char → Poly → Prop
  | coefficient {text : List Char} {value : Int} (numeral : numerals.coefficient text value) :
      IsPoly numerals text (.const value)
  | sum {text : List Char} {monomials : List Monomial} (sum : IsSum numerals text monomials) :
      IsPoly numerals text ⟨0, monomials⟩

/-- `MonoSum := Mono ('+' Mono)*`. -/
inductive IsSum (numerals : Numerals) : List Char → List Monomial → Prop
  | single {text : List Char} {monomial : Monomial} (first : IsMonomial numerals text monomial) :
      IsSum numerals text [monomial]
  | more {text text' : List Char} {monomial : Monomial} {monomials : List Monomial}
      (first : IsMonomial numerals text monomial) (others : IsSum numerals text' monomials) :
      IsSum numerals (text ++ '+' :: text') (monomial :: monomials)

/-- `Mono := '(' Poly ',' Exp ')'`. -/
inductive IsMonomial (numerals : Numerals) : List Char → Monomial → Prop
  | mk {text text' : List Char} {poly : Poly} {exponent : Int}
      (coefficient : IsPoly numerals text poly) (numeral : numerals.exponent text' exponent) :
      IsMonomial numerals ('(' :: text ++ ',' :: text' ++ [')']) ⟨exponent, poly⟩

end

variable {numerals : Numerals}

theorem IsMonomial.exists_cons {text : List Char} {monomial : Monomial}
    (derived : IsMonomial numerals text monomial) : ∃ rest, text = '(' :: rest := by
  cases derived
  exact ⟨_, rfl⟩

theorem IsSum.exists_cons {text : List Char} {monomials : List Monomial}
    (derived : IsSum numerals text monomials) : ∃ rest, text = '(' :: rest := by
  cases derived with
  | single first => exact first.exists_cons
  | more first others =>
    obtain ⟨rest, rfl⟩ := first.exists_cons
    exact ⟨_, rfl⟩

theorem IsMonomial.exists_concat {text : List Char} {monomial : Monomial}
    (derived : IsMonomial numerals text monomial) : ∃ rest, text = rest ++ [')'] := by
  cases derived
  exact ⟨_, rfl⟩

theorem IsSum.exists_concat {text : List Char} {monomials : List Monomial}
    (derived : IsSum numerals text monomials) : ∃ rest, text = rest ++ [')'] := by
  match derived with
  | .single first => exact first.exists_concat
  | .more first others =>
    obtain ⟨rest, rfl⟩ := others.exists_concat
    exact ⟨_, by rw [← List.cons_append, ← List.append_assoc]⟩

/-- A sum goes on with one more monomial behind a plus sign. -/
theorem IsSum.concat {text text' : List Char} {monomials : List Monomial} {monomial : Monomial}
    (sum : IsSum numerals text monomials)
    (last : IsMonomial numerals text' monomial) :
    IsSum numerals (text ++ '+' :: text') (monomials ++ [monomial]) := by
  match sum with
  | .single first => exact .more first (.single last)
  | .more first others =>
    rw [List.append_assoc]
    exact .more first (others.concat last)

theorem IsSum.ne_nil {text : List Char} {monomials : List Monomial}
    (derived : IsSum numerals text monomials) : monomials ≠ [] := by
  cases derived <;> exact List.cons_ne_nil _ _

/-- A constant at some power, both written without a sign. -/
theorem isMonomial_of_digits {digits digits' : List Char} (isDigits : IsDigits digits)
    (isDigits' : IsDigits digits')
    (coefficient : Integer.Kind.signed64.admits (Nat.ofDigitChars 10 digits 0) = true)
    (exponent : Integer.Kind.unsigned31.admits (Nat.ofDigitChars 10 digits' 0) = true) :
    IsMonomial .accepted ('(' :: digits ++ ',' :: digits' ++ [')'])
      ⟨Nat.ofDigitChars 10 digits' 0, .const (Nat.ofDigitChars 10 digits 0)⟩ :=
  .mk (.coefficient ⟨.plain isDigits, coefficient⟩) ⟨.plain isDigits', exponent⟩

/-! ### Wider classes of numerals -/

/-- Every numeral of the first class is one of the second, with the same value. -/
structure Numerals.IsWithin (narrow wide : Numerals) : Prop where
  coefficient {text : List Char} {value : Int} :
    narrow.coefficient text value → wide.coefficient text value
  exponent {text : List Char} {value : Int} :
    narrow.exponent text value → wide.exponent text value

theorem accepted_isWithin_integers : Numerals.accepted.IsWithin .integers :=
  ⟨And.left, fun numeral => numeral.1.toSigned⟩

mutual

theorem IsPoly.widen {narrow wide : Numerals} (within : narrow.IsWithin wide) {text : List Char}
    {poly : Poly} : IsPoly narrow text poly → IsPoly wide text poly
  | .coefficient numeral => .coefficient (within.coefficient numeral)
  | .sum sum => .sum (sum.widen within)

theorem IsSum.widen {narrow wide : Numerals} (within : narrow.IsWithin wide) {text : List Char}
    {monomials : List Monomial} : IsSum narrow text monomials → IsSum wide text monomials
  | .single first => .single (first.widen within)
  | .more first others => .more (first.widen within) (others.widen within)

theorem IsMonomial.widen {narrow wide : Numerals} (within : narrow.IsWithin wide)
    {text : List Char} {monomial : Monomial} :
    IsMonomial narrow text monomial → IsMonomial wide text monomial
  | .mk coefficient numeral => .mk (coefficient.widen within) (within.exponent numeral)

end

theorem IsPoly.ne_nil {text : List Char} {poly : Poly} (derived : IsPoly .integers text poly) :
    text ≠ [] := by
  cases derived with
  | coefficient numeral => exact IsNumeral.ne_nil numeral
  | sum sum =>
    obtain ⟨rest, rfl⟩ := sum.exists_cons
    exact List.cons_ne_nil _ _

/-! ### Unambiguity -/

theorem noDigitNext_of_endsPoly {rest : List Char}
    (ends : Parser.endsPoly rest.head? = true) : NoDigitNext rest := by
  cases rest with
  | nil => exact noDigitNext_nil
  | cons char rest =>
    have comma : char = ',' := by simpa [Parser.endsPoly] using ends
    exact noDigitNext_cons (by rw [comma]; decide) rest

theorem IsNumeral.ne_paren_cons {signed : Bool} {text rest rest' : List Char} {value : Int}
    (numeral : IsNumeral signed text value) : text ++ rest ≠ '(' :: rest' := by
  intro equal
  cases text with
  | nil => exact numeral.ne_nil rfl
  | cons head tail =>
    obtain ⟨rfl, _⟩ := List.cons.inj equal
    rcases numeral.isDigit_or_eq_of_mem List.mem_cons_self with digit | minus
    · exact absurd digit (by decide)
    · exact absurd minus (by decide)

mutual

/-- A literal that ends in front of a comma or the end of the line is the only one that begins
at its place. -/
theorem IsPoly.append_inj {text text' rest rest' : List Char} {poly poly' : Poly}
    (derived : IsPoly .integers text poly) (derived' : IsPoly .integers text' poly')
    (ends : Parser.endsPoly rest.head? = true) (ends' : Parser.endsPoly rest'.head? = true)
    (same : text ++ rest = text' ++ rest') : poly = poly' ∧ rest = rest' := by
  match derived, derived' with
  | .coefficient numeral, .coefficient numeral' =>
    obtain ⟨_, rfl, rests⟩ := IsNumeral.append_inj numeral numeral' (noDigitNext_of_endsPoly ends)
      (noDigitNext_of_endsPoly ends') same
    exact ⟨rfl, rests⟩
  | .coefficient numeral, .sum sum' =>
    obtain ⟨tail, rfl⟩ := sum'.exists_cons
    exact absurd same (IsNumeral.ne_paren_cons numeral)
  | .sum sum, .coefficient numeral' =>
    obtain ⟨tail, rfl⟩ := sum.exists_cons
    exact absurd same.symm (IsNumeral.ne_paren_cons numeral')
  | .sum sum, .sum sum' =>
    obtain ⟨rfl, rests⟩ := sum.append_inj sum' ends ends' same
    exact ⟨rfl, rests⟩

theorem IsSum.append_inj {text text' rest rest' : List Char} {monomials monomials' : List Monomial}
    (derived : IsSum .integers text monomials) (derived' : IsSum .integers text' monomials')
    (ends : Parser.endsPoly rest.head? = true) (ends' : Parser.endsPoly rest'.head? = true)
    (same : text ++ rest = text' ++ rest') : monomials = monomials' ∧ rest = rest' := by
  match derived, derived' with
  | .single first, .single first' =>
    obtain ⟨rfl, rests⟩ := first.append_inj first' same
    exact ⟨rfl, rests⟩
  | .single first, .more first' others' =>
    rw [List.append_assoc] at same
    obtain ⟨_, rfl⟩ := first.append_inj first' same
    exact absurd ends (by simp [Parser.endsPoly])
  | .more first others, .single first' =>
    rw [List.append_assoc] at same
    obtain ⟨_, rfl⟩ := first.append_inj first' same
    exact absurd ends' (by simp [Parser.endsPoly])
  | .more first others, .more first' others' =>
    rw [List.append_assoc, List.append_assoc] at same
    obtain ⟨rfl, rests⟩ := first.append_inj first' same
    obtain ⟨rfl, rests⟩ := others.append_inj others' ends ends' (List.cons.inj rests).2
    exact ⟨rfl, rests⟩

/-- A monomial ends with its parenthesis, whatever follows. -/
theorem IsMonomial.append_inj {text text' rest rest' : List Char} {monomial monomial' : Monomial}
    (derived : IsMonomial .integers text monomial)
    (derived' : IsMonomial .integers text' monomial') (same : text ++ rest = text' ++ rest') :
    monomial = monomial' ∧ rest = rest' := by
  match derived, derived' with
  | .mk coefficient numeral, .mk coefficient' numeral' =>
    simp only [List.cons_append, List.append_assoc, List.nil_append] at same
    obtain ⟨rfl, behind⟩ := coefficient.append_inj coefficient' rfl rfl (List.cons.inj same).2
    obtain ⟨_, rfl, rests⟩ := IsNumeral.append_inj numeral numeral'
      (noDigitNext_cons (by decide) _) (noDigitNext_cons (by decide) _) (List.cons.inj behind).2
    exact ⟨rfl, (List.cons.inj rests).2⟩

end

/-- A text has one derivation at most. -/
theorem IsPoly.unique {text : List Char} {poly poly' : Poly} (derived : IsPoly .integers text poly)
    (derived' : IsPoly .integers text poly') : poly = poly' :=
  (@append_inj text text [] [] poly poly' derived derived' rfl rfl rfl).1

/-! ### The checks in front of the parser -/

theorem IsNumeral.isLegal_of_mem {signed : Bool} {text : List Char} {value : Int}
    (numeral : IsNumeral signed text value) {char : Char} (member : char ∈ text) :
    Parser.isLegal char = true := by
  rcases numeral.isDigit_or_eq_of_mem member with digit | rfl
  · simp [Parser.isLegal, digit]
  · decide

mutual

theorem IsPoly.isLegal_of_mem {text : List Char} {poly : Poly}
    (derived : IsPoly .integers text poly) {char : Char} (member : char ∈ text) :
    Parser.isLegal char = true := by
  match derived with
  | .coefficient numeral => exact IsNumeral.isLegal_of_mem numeral member
  | .sum sum => exact sum.isLegal_of_mem member

theorem IsSum.isLegal_of_mem {text : List Char} {monomials : List Monomial}
    (derived : IsSum .integers text monomials) {char : Char} (member : char ∈ text) :
    Parser.isLegal char = true := by
  match derived with
  | .single first => exact first.isLegal_of_mem member
  | .more first others =>
    rcases List.mem_append.mp member with inFirst | behind
    · exact first.isLegal_of_mem inFirst
    · rcases List.mem_cons.mp behind with rfl | inOthers
      · decide
      · exact others.isLegal_of_mem inOthers

theorem IsMonomial.isLegal_of_mem {text : List Char} {monomial : Monomial}
    (derived : IsMonomial .integers text monomial) {char : Char} (member : char ∈ text) :
    Parser.isLegal char = true := by
  match derived with
  | .mk coefficient numeral =>
    simp only [List.cons_append, List.append_assoc, List.mem_cons, List.mem_append,
      List.not_mem_nil, or_false] at member
    rcases member with rfl | inCoefficient | rfl | inExponent | rfl
    · decide
    · exact coefficient.isLegal_of_mem inCoefficient
    · decide
    · exact IsNumeral.isLegal_of_mem numeral inExponent
    · decide

end

/-- A line has no illegal character if each of its characters is legal. -/
theorem illegalFrom_eq_none {text : List Char}
    (legal : ∀ char ∈ text, Parser.isLegal char = true) (position : Nat) :
    Parser.illegalFrom position text = none := by
  induction text generalizing position with
  | nil => rfl
  | cons head tail inductionHypothesis =>
    rw [Parser.illegalFrom, if_pos (legal head List.mem_cons_self)]
    exact inductionHypothesis (fun char member => legal char (List.mem_cons_of_mem _ member)) _

theorem balancedFrom_numeral {signed : Bool} {text : List Char} {value : Int}
    (numeral : IsNumeral signed text value) (depth : Nat) (rest : List Char) :
    Parser.balancedFrom depth (text ++ rest) = Parser.balancedFrom depth rest := by
  have flat : ∀ char ∈ text, char ≠ '(' ∧ char ≠ ')' := by
    intro char member
    rcases numeral.isDigit_or_eq_of_mem member with digit | rfl
    · constructor <;> (rintro rfl; exact absurd digit (by decide))
    · decide
  clear numeral
  induction text with
  | nil => rfl
  | cons head tail inductionHypothesis =>
    obtain ⟨notOpening, notClosing⟩ := flat head List.mem_cons_self
    rw [List.cons_append, Parser.balancedFrom]
    · exact inductionHypothesis fun char member => flat char (List.mem_cons_of_mem _ member)
    · exact notOpening
    · exact notClosing

mutual

/-- The parentheses of a literal pair up among themselves. -/
theorem IsPoly.balancedFrom_append {text : List Char} {poly : Poly}
    (derived : IsPoly .integers text poly) (depth : Nat) (rest : List Char) :
    Parser.balancedFrom depth (text ++ rest) = Parser.balancedFrom depth rest := by
  match derived with
  | .coefficient numeral => exact balancedFrom_numeral numeral depth rest
  | .sum sum => exact sum.balancedFrom_append depth rest

theorem IsSum.balancedFrom_append {text : List Char} {monomials : List Monomial}
    (derived : IsSum .integers text monomials) (depth : Nat) (rest : List Char) :
    Parser.balancedFrom depth (text ++ rest) = Parser.balancedFrom depth rest := by
  match derived with
  | .single first => exact first.balancedFrom_append depth rest
  | .more first others =>
    rw [List.append_assoc, first.balancedFrom_append, List.cons_append, Parser.balancedFrom,
      others.balancedFrom_append]
    · decide
    · decide

theorem IsMonomial.balancedFrom_append {text : List Char} {monomial : Monomial}
    (derived : IsMonomial .integers text monomial) (depth : Nat) (rest : List Char) :
    Parser.balancedFrom depth (text ++ rest) = Parser.balancedFrom depth rest := by
  match derived with
  | .mk coefficient numeral =>
    simp only [List.cons_append, List.append_assoc, List.nil_append]
    rw [Parser.balancedFrom, coefficient.balancedFrom_append, Parser.balancedFrom,
      balancedFrom_numeral numeral, Parser.balancedFrom]
    · decide
    · decide

end

end Grammar

end PolyIntake
