/-
This file says what a polynomial means. Its variables are counted by the levels
of nesting, and a power product is the sequence of their exponents, of which
only finitely many differ from zero. The meaning of a polynomial is the finitely
supported map that gives each power product its integer coefficient.

A polynomial is read as a list of terms: every constant that it ends in, times
the powers that enclose it. Its meaning is the sum of these terms, so one
polynomial can be written in many ways. Arithmetic is exact: the meaning of a
sum is the sum of the meanings, as long as the operands repeat no exponent, and
dropping zeros and collapsing a constant at power zero changes no meaning.
-/

import Mathlib.Algebra.Ring.Int.Defs
import Mathlib.Data.Finsupp.Basic
import Mathlib.Data.List.ToFinsupp
import PolyIntake.Proofs.Canonical

namespace PolyIntake

/-! ### Terms -/

/-- A constant of a polynomial with the exponents that enclose it, outermost first. -/
structure Term where
  coefficient : Int
  exponents : List Int
  deriving DecidableEq, Repr

namespace Term

/-- The term as the coefficient of a power of a new outermost variable. -/
def under (exponent : Int) (term : Term) : Term :=
  ⟨term.coefficient, exponent :: term.exponents⟩

end Term

mutual

/-- The terms of a polynomial, in the order in which their constants stand in it. -/
def Poly.terms : Poly → List Term
  | ⟨constant, []⟩ => [⟨constant, []⟩]
  | ⟨_, head :: tail⟩ => Monomial.allTerms (head :: tail)

/-- The terms of a list of monomials. -/
def Monomial.allTerms : List Monomial → List Term
  | [] => []
  | ⟨exponent, coefficient⟩ :: rest =>
    coefficient.terms.map (Term.under exponent) ++ Monomial.allTerms rest

end

@[simp] theorem Poly.terms_const (value : Int) : (Poly.const value).terms = [⟨value, []⟩] := rfl

theorem Poly.terms_of_ne_nil {constant : Int} {monomials : List Monomial}
    (nonempty : monomials ≠ []) :
    Poly.terms ⟨constant, monomials⟩ = Monomial.allTerms monomials := by
  cases monomials with
  | nil => exact absurd rfl nonempty
  | cons head tail => rw [Poly.terms]

@[simp] theorem Monomial.allTerms_nil : Monomial.allTerms [] = [] := rfl

@[simp] theorem Monomial.allTerms_cons (head : Monomial) (tail : List Monomial) :
    Monomial.allTerms (head :: tail) =
      head.coefficient.terms.map (Term.under head.exponent) ++ Monomial.allTerms tail := by
  cases head
  rfl

noncomputable section

/-! ### Power products -/

/-- The exponents of the variables, outermost first. Sequences that differ only in trailing
zeros are one power product. -/
abbrev Powers := ℕ →₀ ℤ

namespace Powers

/-- Puts the exponent of a new outermost variable in front. -/
def cons (exponent : ℤ) (powers : Powers) : Powers :=
  Finsupp.single 0 exponent + powers.embDomain (addRightEmbedding 1)

theorem toFinsupp_cons (exponent : ℤ) (exponents : List ℤ) :
    (exponent :: exponents).toFinsupp = cons exponent exponents.toFinsupp :=
  List.toFinsupp_cons_eq_single_add_embDomain exponent exponents

@[simp] theorem cons_apply_zero (exponent : ℤ) (powers : Powers) :
    cons exponent powers 0 = exponent := by
  rw [cons, Finsupp.add_apply, Finsupp.single_eq_same, Finsupp.embDomain_of_notMem_range, add_zero]
  rintro ⟨index, equal⟩
  exact Nat.succ_ne_zero index equal

@[simp] theorem cons_apply_succ (exponent : ℤ) (powers : Powers) (index : ℕ) :
    cons exponent powers (index + 1) = powers index := by
  rw [cons, Finsupp.add_apply, Finsupp.single_eq_of_ne (Nat.succ_ne_zero index), zero_add]
  exact Finsupp.embDomain_apply_self (addRightEmbedding 1) powers index

theorem cons_eq_cons_iff {exponent exponent' : ℤ} {powers powers' : Powers} :
    cons exponent powers = cons exponent' powers' ↔ exponent = exponent' ∧ powers = powers' := by
  constructor
  · intro equal
    refine ⟨?_, Finsupp.ext fun index => ?_⟩
    · simpa using DFunLike.congr_fun equal 0
    · simpa using DFunLike.congr_fun equal (index + 1)
  · rintro ⟨rfl, rfl⟩
    rfl

theorem cons_injective (exponent : ℤ) : Function.Injective (cons exponent) :=
  fun _ _ equal => (cons_eq_cons_iff.mp equal).2

@[simp] theorem cons_zero_zero : cons 0 0 = 0 := by
  rw [cons, Finsupp.single_zero, Finsupp.embDomain_zero, add_zero]

/-- Every power product has an exponent of the outermost variable and a rest. -/
theorem exists_cons (powers : Powers) : ∃ exponent rest, powers = cons exponent rest := by
  refine ⟨powers 0, powers.comapDomain (· + 1) (add_left_injective 1).injOn,
    Finsupp.ext fun index => ?_⟩
  cases index with
  | zero => rw [cons_apply_zero]
  | succ index => rw [cons_apply_succ, Finsupp.comapDomain_apply]

end Powers

/-! ### Meanings -/

/-- A polynomial in the sense of algebra: an integer for each power product, and other than zero
for finitely many. -/
abbrev Meaning := Powers →₀ ℤ

namespace Meaning

/-- Two meanings agree if they agree on all power products, taken apart. -/
theorem ext_cons {left right : Meaning}
    (same : ∀ exponent powers, left (.cons exponent powers) = right (.cons exponent powers)) :
    left = right := by
  refine Finsupp.ext fun powers => ?_
  obtain ⟨exponent, rest, rfl⟩ := powers.exists_cons
  exact same exponent rest

/-- Multiplies by a power of a new outermost variable. -/
def raise (exponent : ℤ) : Meaning →+ Meaning :=
  Finsupp.mapDomain.addMonoidHom (Powers.cons exponent)

@[simp] theorem raise_single (exponent : ℤ) (powers : Powers) (value : ℤ) :
    raise exponent (Finsupp.single powers value) =
      Finsupp.single (.cons exponent powers) value :=
  Finsupp.mapDomain_single

theorem raise_apply_cons (exponent exponent' : ℤ) (meaning : Meaning) (powers : Powers) :
    raise exponent meaning (.cons exponent' powers) =
      if exponent = exponent' then meaning powers else 0 := by
  show Finsupp.mapDomain (Powers.cons exponent) meaning _ = _
  split
  case isTrue same =>
    rw [← same, Finsupp.mapDomain_apply (Powers.cons_injective exponent)]
  case isFalse different =>
    refine Finsupp.mapDomain_of_notMem_range _ _ ?_
    rintro ⟨other, equal⟩
    exact different (Powers.cons_eq_cons_iff.mp equal).1

/-- A constant has no power of the outermost variable but the zeroth. -/
theorem single_zero_apply_cons (value exponent : ℤ) (powers : Powers) :
    (Finsupp.single 0 value : Meaning) (.cons exponent powers) =
      if exponent = 0 then (Finsupp.single 0 value : Meaning) powers else 0 := by
  have raised := raise_apply_cons 0 exponent (Finsupp.single 0 value) powers
  rw [raise_single, Powers.cons_zero_zero] at raised
  rw [raised]
  exact if_congr eq_comm rfl rfl

end Meaning

/-- The meaning of a term: its coefficient at the power product of its exponents. -/
def Term.meaning (term : Term) : Meaning :=
  Finsupp.single term.exponents.toFinsupp term.coefficient

theorem Term.meaning_under (exponent : ℤ) (term : Term) :
    (term.under exponent).meaning = Meaning.raise exponent term.meaning := by
  rw [Term.meaning, Term.meaning, Meaning.raise_single]
  exact congrArg (Finsupp.single · term.coefficient) (Powers.toFinsupp_cons exponent _)

/-- The meaning of a polynomial: the sum of its terms. -/
def Poly.meaning (poly : Poly) : Meaning :=
  (poly.terms.map Term.meaning).sum

/-- The meaning of a list of monomials: the sum of their coefficients, each times its power. -/
def Table.meaning (terms : List Monomial) : Meaning :=
  (terms.map fun term => Meaning.raise term.exponent term.coefficient.meaning).sum

namespace Table

@[simp] theorem meaning_nil : Table.meaning [] = 0 := rfl

@[simp] theorem meaning_cons (head : Monomial) (tail : List Monomial) :
    Table.meaning (head :: tail) =
      Meaning.raise head.exponent head.coefficient.meaning + Table.meaning tail := by
  rw [Table.meaning, List.map_cons, List.sum_cons]
  rfl

end Table

namespace Poly

@[simp] theorem meaning_const (value : Int) :
    (const value).meaning = Finsupp.single 0 value := by
  rw [meaning, terms_const, List.map_singleton, List.sum_singleton, Term.meaning,
    List.toFinsupp_nil]

@[simp] theorem meaning_zero : zero.meaning = 0 := by
  rw [zero, meaning_const, Finsupp.single_zero]

theorem sum_meaning_allTerms (monomials : List Monomial) :
    ((Monomial.allTerms monomials).map Term.meaning).sum = Table.meaning monomials := by
  induction monomials with
  | nil => rfl
  | cons head tail inductionHypothesis =>
    have under : Term.meaning ∘ Term.under head.exponent =
        Meaning.raise head.exponent ∘ Term.meaning :=
      funext fun term => term.meaning_under head.exponent
    rw [Monomial.allTerms_cons, List.map_append, List.sum_append, inductionHypothesis,
      Table.meaning_cons, List.map_map, under, ← List.map_map, ← map_list_sum]
    rfl

/-- A sum means the sum of its monomials. -/
theorem meaning_of_ne_nil {constant : Int} {monomials : List Monomial}
    (nonempty : monomials ≠ []) : meaning ⟨constant, monomials⟩ = Table.meaning monomials := by
  rw [meaning, terms_of_ne_nil nonempty, sum_meaning_allTerms]

end Poly

/-! ### What a look-up in a table contributes -/

/-- The value at a power product of a coefficient that may be absent. -/
def Meaning.ofFound (found : Option Poly) (powers : Powers) : ℤ :=
  found.elim 0 fun coefficient => coefficient.meaning powers

namespace Table

/-- The coefficient of a power in an ascending table is the one that is found there. -/
theorem meaning_apply_cons {table : Table} (ascending : table.IsAscending) (exponent : ℤ)
    (powers : Powers) :
    Table.meaning table (.cons exponent powers) =
      Meaning.ofFound (table.find? exponent) powers := by
  induction table with
  | nil => rfl
  | cons head tail inductionHypothesis =>
    rw [meaning_cons, Finsupp.add_apply, Meaning.raise_apply_cons,
      inductionHypothesis ascending.tail, find?_cons ascending]
    split
    case isTrue here =>
      have absent : find? tail exponent = none :=
        here ▸ find?_eq_none_of_lt (isAscending_cons.mp ascending).1
      rw [absent]
      exact add_zero _
    · exact zero_add _

/-- Storing a term at an exponent that the table does not have adds the term. -/
theorem meaning_insert {term : Monomial} {table : Table}
    (absent : ∀ other ∈ table, other.exponent ≠ term.exponent) :
    Table.meaning (insert term table) =
      Meaning.raise term.exponent term.coefficient.meaning + Table.meaning table := by
  induction table with
  | nil => rw [insert, meaning_cons]
  | cons head tail inductionHypothesis =>
    rw [insert]
    split
    · rw [meaning_cons]
    · rw [if_neg fun equal => absent head List.mem_cons_self equal.symm, meaning_cons, meaning_cons,
        inductionHypothesis fun other member => absent other (List.mem_cons_of_mem _ member),
        add_left_comm]

/-- Collecting terms with different exponents into a table adds all of them. -/
theorem meaning_foldl_insert {terms : List Monomial} {table : Table}
    (distinct : terms.Pairwise fun earlier later => earlier.exponent ≠ later.exponent)
    (absent : ∀ term ∈ terms, ∀ other ∈ table, other.exponent ≠ term.exponent) :
    Table.meaning (terms.foldl (fun table term => insert term table) table) =
      Table.meaning terms + Table.meaning table := by
  induction terms generalizing table with
  | nil => rw [List.foldl_nil, meaning_nil, zero_add]
  | cons head tail inductionHypothesis =>
    obtain ⟨fresh, tailDistinct⟩ := List.pairwise_cons.mp distinct
    have absentTail : ∀ term ∈ tail, ∀ other ∈ insert head table,
        other.exponent ≠ term.exponent := by
      intro term member other stored
      rcases mem_of_mem_insert stored with rfl | inTable
      · exact fresh term member
      · exact absent term (List.mem_cons_of_mem _ member) other inTable
    rw [List.foldl_cons, inductionHypothesis tailDistinct absentTail,
      meaning_insert (absent head List.mem_cons_self), meaning_cons]
    exact add_left_comm _ _ _ |>.trans (add_assoc _ _ _).symm

/-- The sum of two ascending tables means the sum of both, once this is known of the
coefficients that meet at an exponent. -/
theorem meaning_sum {left right : Table} (leftAscending : left.IsAscending)
    (rightAscending : right.IsAscending)
    (meeting : ∀ exponent coefficient coefficient', left.find? exponent = some coefficient →
      right.find? exponent = some coefficient' →
      (coefficient + coefficient').meaning = coefficient.meaning + coefficient'.meaning) :
    Table.meaning (sum left right) = Table.meaning left + Table.meaning right := by
  refine Meaning.ext_cons fun exponent powers => ?_
  rw [Finsupp.add_apply, meaning_apply_cons (isAscending_sum leftAscending rightAscending),
    meaning_apply_cons leftAscending, meaning_apply_cons rightAscending,
    find?_sum leftAscending rightAscending]
  cases foundLeft : left.find? exponent with
  | none => cases right.find? exponent <;> exact (zero_add _).symm
  | some coefficient =>
    cases foundRight : right.find? exponent with
    | none => exact (add_zero _).symm
    | some coefficient' =>
      exact DFunLike.congr_fun (meeting exponent _ _ foundLeft foundRight) powers

end Table

/-! ### Arithmetic is exact -/

namespace Poly

/-- A polynomial that repeats no exponent means what its table means. -/
theorem meaning_table {poly : Poly} (unrepeated : poly.IsUnrepeated) :
    Table.meaning poly.table = poly.meaning := by
  by_cases constant : poly.isConst = true
  · obtain ⟨value, rfl⟩ := isConst_iff.mp constant
    rw [table, if_pos constant]
    split
    case isTrue zeroValue =>
      rw [show value = 0 from zeroValue, ← zero, meaning_zero, Table.meaning_nil]
    · rw [Table.meaning_cons, Table.meaning_nil, add_zero, meaning_const, Meaning.raise_single,
        Powers.cons_zero_zero]
  · obtain ⟨value, monomials⟩ := poly
    have nonempty : monomials ≠ [] := fun empty => constant (empty ▸ rfl)
    rw [table, if_neg constant, meaning_of_ne_nil nonempty, Table.ofList,
      Table.meaning_foldl_insert unrepeated.distinct fun _ _ _ member =>
        absurd member List.not_mem_nil, Table.meaning_nil, add_zero]

/-- Leaving out zero terms changes no meaning. -/
theorem meaning_nonzero (table : Table) : Table.meaning table.nonzero = Table.meaning table := by
  unfold Table.nonzero
  induction table with
  | nil => rfl
  | cons head tail inductionHypothesis =>
    rw [List.filter_cons, Table.meaning_cons]
    split
    · rw [Table.meaning_cons, inductionHypothesis]
    case isFalse dropped =>
      have isZero : head.coefficient = zero := by simpa using dropped
      rw [inductionHypothesis, isZero, meaning_zero, map_zero, zero_add]

/-- The polynomial of a table means what the table means. -/
theorem meaning_ofTable (table : Table) : (ofTable table).meaning = Table.meaning table := by
  rw [← meaning_nonzero table]
  refine ofTable_cases table ?empty ?constant ?sum
  case empty =>
    intro empty
    rw [empty, meaning_zero, Table.meaning_nil]
  case constant =>
    intro value single
    rw [single, Table.meaning_cons, Table.meaning_nil, add_zero, meaning_const,
      Meaning.raise_single, Powers.cons_zero_zero]
  case sum => exact fun nonempty _ => meaning_of_ne_nil nonempty

/-- Addition is exact for polynomials that repeat no exponent. -/
theorem meaning_add {left right : Poly} (leftUnrepeated : left.IsUnrepeated)
    (rightUnrepeated : right.IsUnrepeated) :
    (left + right).meaning = left.meaning + right.meaning := by
  induction left, right using add_induction with
  | constants left right leftConst rightConst =>
    obtain ⟨value, rfl⟩ := isConst_iff.mp leftConst
    obtain ⟨value', rfl⟩ := isConst_iff.mp rightConst
    rw [add_of_isConst leftConst rightConst, meaning_const, meaning_const, meaning_const]
    exact Finsupp.single_add 0 value value'
  | tables left right notConst inductionHypothesis =>
    have leftTerms := isKept_isUnrepeated.terms left leftUnrepeated
    have rightTerms := isKept_isUnrepeated.terms right rightUnrepeated
    rw [add_of_not_isConst notConst, meaning_ofTable,
      Table.meaning_sum left.isAscending_table right.isAscending_table,
      meaning_table leftUnrepeated, meaning_table rightUnrepeated]
    intro exponent coefficient coefficient' found found'
    exact inductionHypothesis exponent coefficient coefficient' found found'
      (leftTerms _ (Table.mem_of_find? found)).2 (rightTerms _ (Table.mem_of_find? found')).2

/-- Collecting monomials into a table adds their meanings, also where exponents repeat. -/
theorem meaning_foldl_collect {monomials : List Monomial} {table : Table}
    (ascending : table.IsAscending)
    (tableUnrepeated : ∀ term ∈ table, term.coefficient.IsUnrepeated)
    (unrepeated : ∀ term ∈ monomials, term.coefficient.IsUnrepeated) :
    Table.meaning (monomials.foldl collect table) =
      Table.meaning table + Table.meaning monomials := by
  induction monomials generalizing table with
  | nil => rw [List.foldl_nil, Table.meaning_nil, add_zero]
  | cons head tail inductionHypothesis =>
    have single : Table.IsAscending [head] := List.pairwise_singleton _ _
    have headUnrepeated : ∀ term ∈ [head], term.coefficient.IsUnrepeated := fun term member =>
      List.mem_singleton.mp member ▸ unrepeated head List.mem_cons_self
    have collected : Table.meaning (collect table head) =
        Table.meaning table + Table.meaning [head] := by
      rw [collect_eq_sum ascending, Table.meaning_sum ascending single]
      exact fun _ _ _ found found' => meaning_add (tableUnrepeated _ (Table.mem_of_find? found))
        (headUnrepeated _ (Table.mem_of_find? found'))
    have collectedUnrepeated : ∀ term ∈ [head].foldl collect table,
        True ∧ term.coefficient.IsUnrepeated :=
      isKept_isUnrepeated.foldl_collect (fun term member => ⟨trivial, headUnrepeated term member⟩)
        ascending fun term member => ⟨trivial, tableUnrepeated term member⟩
    rw [List.foldl_cons, inductionHypothesis (isAscending_collect ascending head)
      (fun term member => (collectedUnrepeated term member).2)
      fun term member => unrepeated term (List.mem_cons_of_mem _ member),
      collected, Table.meaning_cons, Table.meaning_cons, Table.meaning_nil, add_zero, add_assoc]

/-- The sum of some monomials means the sum of their meanings, in whatever order they stand
and however often they repeat an exponent. -/
theorem meaning_ofMonomials {monomials : List Monomial}
    (unrepeated : ∀ term ∈ monomials, term.coefficient.IsUnrepeated) :
    (ofMonomials monomials).meaning = Table.meaning monomials := by
  rw [ofMonomials, meaning_ofTable, meaning_foldl_collect Table.isAscending_nil
    (fun _ member => absurd member List.not_mem_nil) unrepeated, Table.meaning_nil, zero_add]

/-- Arithmetic is exact. A sum of two polynomials means the sum of both, and a sum of monomials
means the sum of their coefficients, each times its power. Only the levels of the operands must
not repeat an exponent; the list of monomials may. -/
theorem arithmetic_spec :
    (∀ left right : Poly, left.IsUnrepeated → right.IsUnrepeated →
      (left + right).meaning = left.meaning + right.meaning) ∧
    ∀ monomials : List Monomial, (∀ term ∈ monomials, term.coefficient.IsUnrepeated) →
      (ofMonomials monomials).meaning =
        (monomials.map fun term => Meaning.raise term.exponent term.coefficient.meaning).sum :=
  ⟨fun _ _ => meaning_add, fun _ => meaning_ofMonomials⟩

/-- A zero term behind which a lower power stands, with a constant at power zero that is not
collapsed, and beside them a constant that plays no part. -/
theorem arithmetic_spec_unsorted :
    IsUnrepeated ⟨7, [⟨2, zero⟩, ⟨0, const 5⟩]⟩ ∧
      IsUnrepeated ⟨0, [⟨2, const 4⟩, ⟨-1, ⟨0, [⟨0, const 3⟩]⟩⟩]⟩ ∧
      (Poly.mk 7 [⟨2, zero⟩, ⟨0, const 5⟩] +
          Poly.mk 0 [⟨2, const 4⟩, ⟨-1, ⟨0, [⟨0, const 3⟩]⟩⟩]).meaning =
        meaning ⟨7, [⟨2, zero⟩, ⟨0, const 5⟩]⟩ +
          meaning ⟨0, [⟨2, const 4⟩, ⟨-1, ⟨0, [⟨0, const 3⟩]⟩⟩]⟩ ∧
      (ofMonomials [⟨1, ⟨7, [⟨2, zero⟩, ⟨0, const 5⟩]⟩⟩, ⟨1, const 6⟩]).meaning =
        Meaning.raise 1 (meaning ⟨7, [⟨2, zero⟩, ⟨0, const 5⟩]⟩) +
          Meaning.raise 1 (const 6).meaning := by
  have left : IsUnrepeated ⟨7, [⟨2, zero⟩, ⟨0, const 5⟩]⟩ :=
    .mk _ _ (by decide) (by simp [zero, isUnrepeated_const])
  have inner : IsUnrepeated ⟨0, [⟨0, const 3⟩]⟩ :=
    .mk _ _ (by decide) (by simp [isUnrepeated_const])
  have right : IsUnrepeated ⟨0, [⟨2, const 4⟩, ⟨-1, ⟨0, [⟨0, const 3⟩]⟩⟩]⟩ :=
    .mk _ _ (by decide) (by simp [isUnrepeated_const, inner])
  refine ⟨left, right, arithmetic_spec.1 _ _ left right, ?_⟩
  have repeated := arithmetic_spec.2 [⟨1, ⟨7, [⟨2, zero⟩, ⟨0, const 5⟩]⟩⟩, ⟨1, const 6⟩]
    (by simp [left, isUnrepeated_const])
  rwa [List.map_cons, List.map_singleton, List.sum_cons, List.sum_singleton] at repeated

end Poly

end

end PolyIntake
