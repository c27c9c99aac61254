/-
This file proves that a table of terms is a finite map. The tables that the
arithmetic works on hold their exponents in strictly ascending order, so a
table is determined by what looking up an exponent in it finds, and every
operation on tables is described by what it does to a look-up.

Storing a term changes the look-up of its own exponent and no other, keeps the
order, and leaves a table of terms that were there before or were stored. The
table of a polynomial is ascending whatever order its monomials are in.
-/

import PolyIntake.Poly

namespace PolyIntake

@[simp] theorem Monomial.mk_exponent_coefficient (term : Monomial) :
    Monomial.mk term.exponent term.coefficient = term := by
  cases term
  rfl

namespace Table

/-! ### Ascending tables -/

/-- The exponents of a table ascend strictly, so no two terms share one. -/
def IsAscending (table : Table) : Prop :=
  table.Pairwise fun earlier later => earlier.exponent < later.exponent

instance (table : Table) : Decidable table.IsAscending :=
  inferInstanceAs (Decidable (List.Pairwise _ table))

theorem isAscending_nil : IsAscending [] :=
  List.Pairwise.nil

theorem isAscending_cons {head : Monomial} {tail : Table} :
    IsAscending (head :: tail) ↔
      (∀ term ∈ tail, head.exponent < term.exponent) ∧ IsAscending tail :=
  List.pairwise_cons

theorem IsAscending.tail {head : Monomial} {tail : Table}
    (ascending : IsAscending (head :: tail)) : IsAscending tail :=
  (isAscending_cons.mp ascending).2

/-! ### Looking up an exponent -/

/-- Ascending exponents that are all the same leave room for one term only. -/
theorem IsAscending.exists_eq_singleton {table : Table} (ascending : table.IsAscending)
    (nonempty : table ≠ []) {exponent : Int} (same : ∀ term ∈ table, term.exponent = exponent) :
    ∃ coefficient, table = [⟨exponent, coefficient⟩] := by
  obtain ⟨head, tail, rfl⟩ := List.exists_cons_of_ne_nil nonempty
  obtain ⟨above, _⟩ := isAscending_cons.mp ascending
  have atHead := same head List.mem_cons_self
  have single : tail = [] := by
    refine List.eq_nil_iff_forall_not_mem.mpr fun term member => ?_
    have further := above term member
    have atTerm := same term (List.mem_cons_of_mem _ member)
    omega
  exact ⟨head.coefficient, by rw [single, ← atHead, Monomial.mk_exponent_coefficient]⟩

@[simp] theorem find?_nil (exponent : Int) : find? [] exponent = none := rfl

/-- An exponent in front of all terms of a table is not found. -/
theorem find?_eq_none_of_lt {table : Table} {exponent : Int}
    (below : ∀ term ∈ table, exponent < term.exponent) : table.find? exponent = none := by
  cases table with
  | nil => rfl
  | cons head tail =>
    have less := below head List.mem_cons_self
    rw [find?, if_neg (by omega), if_pos less]

/-- The look-up in an ascending table passes over a head with another exponent. -/
theorem find?_cons {head : Monomial} {tail : Table} (ascending : IsAscending (head :: tail))
    (exponent : Int) :
    find? (head :: tail) exponent =
      if head.exponent = exponent then some head.coefficient else find? tail exponent := by
  obtain ⟨above, _⟩ := isAscending_cons.mp ascending
  rw [find?]
  split
  · rfl
  · split
    case isTrue less =>
      exact (find?_eq_none_of_lt fun term member => Int.lt_trans less (above term member)).symm
    · rfl

/-- What a look-up finds is a term of the table. -/
theorem mem_of_find? {table : Table} {exponent : Int} {coefficient : Poly}
    (found : table.find? exponent = some coefficient) : ⟨exponent, coefficient⟩ ∈ table := by
  fun_induction find? table exponent with
  | case1 => cases found
  | case2 head tail equal =>
    cases found
    rw [← equal, Monomial.mk_exponent_coefficient]
    exact List.mem_cons_self
  | case3 => cases found
  | case4 head tail different notLess inductionHypothesis =>
    exact List.mem_cons_of_mem _ (inductionHypothesis found)

/-- A term of an ascending table is found at its exponent. -/
theorem find?_of_mem {table : Table} (ascending : table.IsAscending) {term : Monomial}
    (member : term ∈ table) : table.find? term.exponent = some term.coefficient := by
  induction table with
  | nil => cases member
  | cons head tail inductionHypothesis =>
    rw [find?_cons ascending]
    rcases List.mem_cons.mp member with rfl | member
    · rw [if_pos rfl]
    · have above := (isAscending_cons.mp ascending).1 term member
      rw [if_neg (by omega)]
      exact inductionHypothesis ascending.tail member

/-- Ascending tables in which every exponent finds the same are the same table. -/
theorem ext_of_find? {left right : Table} (leftAscending : left.IsAscending)
    (rightAscending : right.IsAscending)
    (same : ∀ exponent, left.find? exponent = right.find? exponent) : left = right := by
  induction left generalizing right with
  | nil =>
    cases right with
    | nil => rfl
    | cons head' tail' =>
      have found := same head'.exponent
      rw [find?_cons rightAscending, if_pos rfl] at found
      cases found
  | cons head tail inductionHypothesis =>
    cases right with
    | nil =>
      have found := same head.exponent
      rw [find?_cons leftAscending, if_pos rfl] at found
      cases found
    | cons head' tail' =>
      -- The smaller of the two heads would be missing on the other side.
      have headMember := mem_of_find?
        ((same head.exponent).symm.trans (find?_of_mem leftAscending List.mem_cons_self))
      have headMember' := mem_of_find?
        ((same head'.exponent).trans (find?_of_mem rightAscending List.mem_cons_self))
      rw [Monomial.mk_exponent_coefficient] at headMember headMember'
      obtain ⟨above, leftTail⟩ := isAscending_cons.mp leftAscending
      obtain ⟨above', rightTail⟩ := isAscending_cons.mp rightAscending
      have heads : head = head' := by
        rcases List.mem_cons.mp headMember with equal | inTail'
        · exact equal
        · rcases List.mem_cons.mp headMember' with equal | inTail
          · exact equal.symm
          · exact absurd (above _ inTail) (Int.lt_asymm (above' _ inTail'))
      subst heads
      refine congrArg (head :: ·) (inductionHypothesis leftTail rightTail fun exponent => ?_)
      have found := same exponent
      rw [find?_cons leftAscending, find?_cons rightAscending] at found
      by_cases atHead : head.exponent = exponent
      · subst atHead
        rw [find?_eq_none_of_lt above, find?_eq_none_of_lt above']
      · rwa [if_neg atHead, if_neg atHead] at found

/-! ### Storing a term -/

/-- A table holds nothing that was neither there before nor stored. -/
theorem mem_of_mem_insert {term other : Monomial} {table : Table}
    (member : other ∈ insert term table) : other = term ∨ other ∈ table := by
  induction table with
  | nil => exact Or.inl (List.mem_singleton.mp member)
  | cons head tail inductionHypothesis =>
    rw [insert] at member
    split at member
    · exact List.mem_cons.mp member
    · split at member
      · rcases List.mem_cons.mp member with equal | inTail
        · exact Or.inl equal
        · exact Or.inr (List.mem_cons_of_mem _ inTail)
      · rcases List.mem_cons.mp member with equal | inTail
        · exact Or.inr (equal ▸ List.mem_cons_self)
        · exact (inductionHypothesis inTail).imp_right (List.mem_cons_of_mem _)

/-- Storing a term keeps a table ascending. -/
theorem isAscending_insert {table : Table} (ascending : table.IsAscending) (term : Monomial) :
    IsAscending (insert term table) := by
  induction table with
  | nil => exact List.pairwise_singleton _ _
  | cons head tail inductionHypothesis =>
    obtain ⟨above, tailAscending⟩ := isAscending_cons.mp ascending
    rw [insert]
    split
    case isTrue less =>
      refine isAscending_cons.mpr ⟨fun other member => ?_, ascending⟩
      rcases List.mem_cons.mp member with rfl | inTail
      · exact less
      · exact Int.lt_trans less (above other inTail)
    case isFalse notLess =>
      split
      case isTrue equal =>
        exact isAscending_cons.mpr ⟨fun other member => equal ▸ above other member, tailAscending⟩
      case isFalse different =>
        refine isAscending_cons.mpr ⟨fun other member => ?_, inductionHypothesis tailAscending⟩
        rcases mem_of_mem_insert member with rfl | inTail
        · omega
        · exact above other inTail

/-- Storing a term changes what its own exponent finds and nothing else. -/
theorem find?_insert {table : Table} (ascending : table.IsAscending) (term : Monomial)
    (exponent : Int) :
    find? (insert term table) exponent =
      if term.exponent = exponent then some term.coefficient else find? table exponent := by
  have stored := isAscending_insert ascending term
  induction table with
  | nil =>
    rw [insert, find?_cons stored]
  | cons head tail inductionHypothesis =>
    rw [insert] at stored ⊢
    split
    case isTrue less =>
      rw [if_pos less] at stored
      rw [find?_cons stored]
    case isFalse notLess =>
      rw [if_neg notLess] at stored
      split
      case isTrue equal =>
        rw [if_pos equal] at stored
        rw [find?_cons stored, find?_cons ascending, equal]
        split <;> rfl
      case isFalse different =>
        rw [if_neg different] at stored
        rw [find?_cons stored, find?_cons ascending,
          inductionHypothesis ascending.tail stored.tail]
        split
        · rw [if_neg (by omega)]
        · rfl

/-! ### Tables of lists and of polynomials -/

/-- Storing the terms of a list one after the other keeps a table ascending. -/
theorem isAscending_foldl_insert (terms : List Monomial) {table : Table}
    (ascending : table.IsAscending) :
    IsAscending (terms.foldl (fun table term => insert term table) table) := by
  induction terms generalizing table with
  | nil => exact ascending
  | cons head tail inductionHypothesis =>
    exact inductionHypothesis (isAscending_insert ascending head)

theorem isAscending_ofList (terms : List Monomial) : IsAscending (ofList terms) :=
  isAscending_foldl_insert terms isAscending_nil

theorem mem_of_mem_foldl_insert {terms : List Monomial} {table : Table} {term : Monomial}
    (member : term ∈ terms.foldl (fun table term => insert term table) table) :
    term ∈ terms ∨ term ∈ table := by
  induction terms generalizing table with
  | nil => exact Or.inr member
  | cons head tail inductionHypothesis =>
    rcases inductionHypothesis member with inTail | stored
    · exact Or.inl (List.mem_cons_of_mem _ inTail)
    · rcases mem_of_mem_insert stored with rfl | inTable
      · exact Or.inl List.mem_cons_self
      · exact Or.inr inTable

/-- The table of a list holds terms of the list only. -/
theorem mem_of_mem_ofList {terms : List Monomial} {term : Monomial}
    (member : term ∈ ofList terms) : term ∈ terms := by
  exact (mem_of_mem_foldl_insert member).resolve_right List.not_mem_nil

end Table

end PolyIntake
