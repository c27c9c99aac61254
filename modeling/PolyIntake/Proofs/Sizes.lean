/-
This file proves that arithmetic never adds to the size of a polynomial. A size
of integers gives nothing to zero, and to a sum no more than to its two parts
together; the size of a polynomial is what its coefficients have together, at
whatever powers they stand. Two sizes of integers are meant above all: the
absolute value, and the one that counts the integers other than zero.

Terms that meet at an exponent may cancel, zero terms are dropped, and levels
collapse, so a sum may well be smaller than its parts together. That it is never
larger is proved once for all sizes, by the induction over sums.
-/

import Mathlib.Algebra.Order.BigOperators.Group.List
import Mathlib.Algebra.Order.Group.Nat
import PolyIntake.Proofs.NormalForm

namespace PolyIntake

/-- A way to measure integers: zero has no size, and a sum has no more than its parts. -/
structure IsSize (size : Int → Nat) : Prop where
  zero : size 0 = 0
  add_le : ∀ left right, size (left + right) ≤ size left + size right

theorem isSize_natAbs : IsSize Int.natAbs :=
  ⟨rfl, Int.natAbs_add_le⟩

/-- Counts an integer, unless it is zero. -/
def countNonzero (value : Int) : Nat :=
  if value = 0 then 0 else 1

theorem isSize_countNonzero : IsSize countNonzero := by
  refine ⟨rfl, fun left right => ?_⟩
  unfold countNonzero
  split <;> split <;> split <;> omega

/-- The size of the coefficients of a polynomial together. -/
def Poly.total (size : Int → Nat) (poly : Poly) : Nat :=
  (poly.terms.map fun term => size term.coefficient).sum

/-- The size of the coefficients of some monomials together. -/
def Table.total (size : Int → Nat) (table : Table) : Nat :=
  (table.map fun term => term.coefficient.total size).sum

variable {size : Int → Nat}

/-! ### Sizes of tables -/

namespace Table

@[simp] theorem total_nil : Table.total size [] = 0 := rfl

@[simp] theorem total_cons (head : Monomial) (tail : Table) :
    Table.total size (head :: tail) = head.coefficient.total size + Table.total size tail :=
  List.sum_cons

end Table

namespace Poly

@[simp] theorem total_const (value : Int) : (const value).total size = size value := by
  simp [total]

theorem sum_size_allTerms (monomials : List Monomial) :
    ((Monomial.allTerms monomials).map fun term => size term.coefficient).sum =
      Table.total size monomials := by
  induction monomials with
  | nil => rfl
  | cons head tail inductionHypothesis =>
    rw [Monomial.allTerms_cons, List.map_append, List.sum_append, inductionHypothesis, List.map_map]
    rfl

theorem total_of_ne_nil {constant : Int} {monomials : List Monomial}
    (nonempty : monomials ≠ []) :
    total size ⟨constant, monomials⟩ = Table.total size monomials := by
  rw [total, terms_of_ne_nil nonempty, sum_size_allTerms]

end Poly

namespace Table

/-- Storing a term adds no more than its size. -/
theorem total_insert_le (term : Monomial) (table : Table) :
    Table.total size (insert term table) ≤
      term.coefficient.total size + Table.total size table := by
  induction table with
  | nil => simp [insert]
  | cons head tail inductionHypothesis =>
    rw [insert]
    split
    · rw [total_cons]
    · split <;> simp only [total_cons] <;> omega

theorem total_foldl_insert_le (terms : List Monomial) (table : Table) :
    Table.total size (terms.foldl (fun table term => insert term table) table) ≤
      Table.total size terms + Table.total size table := by
  induction terms generalizing table with
  | nil => simp
  | cons head tail inductionHypothesis =>
    have stored : Table.total size (insert head table) ≤
        head.coefficient.total size + Table.total size table := total_insert_le head table
    have rest := inductionHypothesis (insert head table)
    rw [List.foldl_cons, total_cons]
    omega

/-- A sum of tables is no larger than the two tables, once this is known of the coefficients that
meet at an exponent. -/
theorem total_sum_le {left right : Table}
    (meeting : ∀ term ∈ left, ∀ term' ∈ right, term.exponent = term'.exponent →
      (term.coefficient + term'.coefficient).total size ≤
        term.coefficient.total size + term'.coefficient.total size) :
    Table.total size (sum left right) ≤ Table.total size left + Table.total size right := by
  fun_induction sum left right with
  | case1 right => simp
  | case2 left => simp
  | case3 head tail head' tail' less inductionHypothesis =>
    have rest := inductionHypothesis fun term member =>
      meeting term (List.mem_cons_of_mem _ member)
    simp only [total_cons] at rest ⊢
    omega
  | case4 head tail head' tail' notLess less inductionHypothesis =>
    have rest := inductionHypothesis fun term member term' member' =>
      meeting term member term' (List.mem_cons_of_mem _ member')
    simp only [total_cons] at rest ⊢
    omega
  | case5 head tail head' tail' notLess notLess' inductionHypothesis =>
    have heads := meeting head List.mem_cons_self head' List.mem_cons_self (by omega)
    have rest := inductionHypothesis fun term member term' member' =>
      meeting term (List.mem_cons_of_mem _ member) term' (List.mem_cons_of_mem _ member')
    simp only [total_cons] at rest ⊢
    omega

end Table

/-! ### Sizes of sums -/

namespace Poly

/-- The table of a polynomial is no larger than the polynomial. -/
theorem total_table_le (poly : Poly) : Table.total size poly.table ≤ poly.total size := by
  unfold table
  split
  · split <;> simp
  case isFalse sum =>
    obtain ⟨constant, monomials⟩ := poly
    have nonempty : monomials ≠ [] := fun empty => sum (empty ▸ rfl)
    rw [total_of_ne_nil nonempty]
    exact Table.total_foldl_insert_le monomials []

/-- The polynomial of a table is no larger than the table. -/
theorem total_ofTable_le (isSize : IsSize size) (table : Table) :
    (ofTable table).total size ≤ Table.total size table := by
  have kept : Table.total size table.nonzero ≤ Table.total size table :=
    (List.filter_sublist.map _).sum_le_sum fun _ _ => Nat.zero_le _
  refine ofTable_cases table ?empty ?constant ?sum
  case empty =>
    intro _
    rw [zero, total_const, isSize.zero]
    exact Nat.zero_le _
  case constant =>
    intro value single
    rwa [single, Table.total_cons, Table.total_nil, Nat.add_zero] at kept
  case sum =>
    intro nonempty _
    rwa [total_of_ne_nil nonempty]

/-- A sum is no larger than its two parts together. -/
theorem total_add_le (isSize : IsSize size) (left right : Poly) :
    (left + right).total size ≤ left.total size + right.total size := by
  induction left, right using add_induction with
  | constants left right leftConst rightConst =>
    obtain ⟨value, rfl⟩ := isConst_iff.mp leftConst
    obtain ⟨value', rfl⟩ := isConst_iff.mp rightConst
    rw [add_of_isConst leftConst rightConst, total_const, total_const, total_const]
    exact isSize.add_le value value'
  | tables left right notConst inductionHypothesis =>
    have merged : Table.total size (Table.sum left.table right.table) ≤
        Table.total size left.table + Table.total size right.table := by
      refine Table.total_sum_le fun term member term' member' same => ?_
      have found := Table.find?_of_mem left.isAscending_table member
      have found' := Table.find?_of_mem right.isAscending_table member'
      exact inductionHypothesis term.exponent _ _ found (same ▸ found')
    rw [add_of_not_isConst notConst]
    calc (ofTable (Table.sum left.table right.table)).total size
        ≤ Table.total size (Table.sum left.table right.table) := total_ofTable_le isSize _
      _ ≤ Table.total size left.table + Table.total size right.table := merged
      _ ≤ left.total size + right.total size :=
        Nat.add_le_add left.total_table_le right.total_table_le

theorem total_foldl_collect_le (isSize : IsSize size) (monomials : List Monomial) {table : Table}
    (ascending : table.IsAscending) :
    Table.total size (monomials.foldl collect table) ≤
      Table.total size table + Table.total size monomials := by
  induction monomials generalizing table with
  | nil => simp
  | cons head tail inductionHypothesis =>
    have collected : Table.total size (collect table head) ≤
        Table.total size table + Table.total size [head] := by
      rw [collect_eq_sum ascending]
      exact Table.total_sum_le fun term _ term' _ _ => total_add_le isSize _ _
    have rest := inductionHypothesis (isAscending_collect ascending head)
    rw [List.foldl_cons]
    simp only [Table.total_cons, Table.total_nil] at collected ⊢
    omega

/-- A sum of monomials is no larger than the monomials together. -/
theorem total_ofMonomials_le (isSize : IsSize size) (monomials : List Monomial) :
    (ofMonomials monomials).total size ≤ Table.total size monomials := by
  have collected := total_foldl_collect_le isSize monomials Table.isAscending_nil
  rw [Table.total_nil, Nat.zero_add] at collected
  exact Nat.le_trans (total_ofTable_le isSize _) collected

theorem total_normalizedAll_le {monomials : List Monomial}
    (each : ∀ term ∈ monomials,
      term.coefficient.normalized.total size ≤ term.coefficient.total size) :
    Table.total size (Monomial.normalizedAll monomials) ≤ Table.total size monomials := by
  induction monomials with
  | nil => exact Nat.le_refl _
  | cons head tail inductionHypothesis =>
    rw [Monomial.normalizedAll_cons, Table.total_cons, Table.total_cons]
    exact Nat.add_le_add (each head List.mem_cons_self)
      (inductionHypothesis fun term member => each term (List.mem_cons_of_mem _ member))

/-- Adding up all levels makes no polynomial larger. -/
theorem total_normalized_le (isSize : IsSize size) (poly : Poly) :
    poly.normalized.total size ≤ poly.total size := by
  induction poly using induction with
  | constants value => exact Nat.le_refl _
  | sums constant monomials nonempty inductionHypothesis =>
    rw [normalized_of_ne_nil nonempty, total_of_ne_nil nonempty]
    exact Nat.le_trans (total_ofMonomials_le isSize _) (total_normalizedAll_le inductionHypothesis)

end Poly

end PolyIntake
