/-
This file proves that the machine for sums computes what a recursive definition
of the sum would. A sum that was started on top of other frames hands its value
back to exactly those frames, so a clash can be settled in one step, by the sum
of its two coefficients, and a level of the machine is a single merge of the
two tables of terms.

Two consequences carry the rest of the theory. The sum of two polynomials that
are not both constants is the polynomial of the merged tables, in which every
exponent of both tables has the sum of its two coefficients. And whatever is to
be proved of all sums may be assumed of the sums of the coefficients that meet.
-/

import PolyIntake.Poly.Sum
import PolyIntake.Proofs.Tables

namespace PolyIntake

namespace Sum

/-! ### Frames below a configuration do not matter -/

/-- The same configuration with further frames underneath. -/
def Config.onto (frames : List Frame) : Config → Config
  | .returning value above => .returning value (above ++ frames)
  | .working frame above => .working frame (above ++ frames)

theorem onto_start (left right : Poly) (above frames : List Frame) :
    (start left right above).onto frames = start left right (above ++ frames) := by
  unfold start
  split <;> rfl

/-- A configuration works as it does alone, and then hands its value to the frames
underneath. -/
theorem run_onto (config : Config) (frames : List Frame) :
    run (config.onto frames) = run (.returning (run config) frames) := by
  fun_induction run config with
  | case1 value => rfl
  | case2 value frame above inductionHypothesis =>
    rw [← inductionHypothesis, Config.onto, List.cons_append, run, Config.onto]
  | case3 table awaited above inductionHypothesis =>
    rw [← inductionHypothesis]
    show run (.working ⟨table, [], awaited⟩ (above ++ frames)) =
      run (.returning (.ofTable table) (above ++ frames))
    conv => lhs; rw [run]
  | case4 table clash clashes awaited above inductionHypothesis =>
    rw [← inductionHypothesis, Config.onto, run, onto_start, List.cons_append]

/-- A sum that is started on top of some frames hands its value to them. -/
theorem run_start (left right : Poly) (frames : List Frame) :
    run (start left right frames) = run (.returning (left + right) frames) := by
  have started := run_onto (start left right []) frames
  rwa [onto_start, List.nil_append] at started

/-! ### One level at a time -/

/-- Settles all clashes of a table by the sums of their coefficients. -/
def settle (table : Table) (clashes : List Clash) : Table :=
  clashes.foldl
    (fun table clash => table.insert ⟨clash.exponent, clash.left + clash.right⟩) table

/-- A frame at work hands back the polynomial of its table with all clashes settled. -/
theorem run_working (table : Table) (clashes : List Clash) (awaited : Int)
    (frames : List Frame) :
    run (.working ⟨table, clashes, awaited⟩ frames) =
      run (.returning (.ofTable (settle table clashes)) frames) := by
  induction clashes generalizing table awaited with
  | nil => rw [run, settle, List.foldl_nil]
  | cons clash clashes inductionHypothesis =>
    rw [run, run_start, run]
    exact inductionHypothesis _ _

/-- Clashes behind the first term of a table leave that term alone. -/
theorem settle_cons {head : Monomial} {clashes : List Clash}
    (above : ∀ clash ∈ clashes, head.exponent < clash.exponent) (tail : Table) :
    settle (head :: tail) clashes = head :: settle tail clashes := by
  induction clashes generalizing tail with
  | nil => rfl
  | cons clash clashes inductionHypothesis =>
    have behind := above clash List.mem_cons_self
    have inserted : Table.insert ⟨clash.exponent, clash.left + clash.right⟩ (head :: tail) =
        head :: Table.insert ⟨clash.exponent, clash.left + clash.right⟩ tail := by
      rw [Table.insert, if_neg (by simp only; omega), if_neg (by simp only; omega)]
    have rest := inductionHypothesis
      (fun other member => above other (List.mem_cons_of_mem _ member))
      (Table.insert ⟨clash.exponent, clash.left + clash.right⟩ tail)
    rw [settle, List.foldl_cons, inserted]
    exact rest

/-- Every clash stands at an exponent of the left table, so it lies behind whatever the left
table lies behind. -/
theorem lt_exponent_of_mem_clashes {left right : Table} {bound : Int}
    (above : ∀ term ∈ left, bound < term.exponent) {clash : Clash}
    (member : clash ∈ (merge left right).2) : bound < clash.exponent := by
  fun_induction merge left right with
  | case1 => cases member
  | case2 => cases member
  | case3 head tail head' tail' less table clashes merged inductionHypothesis =>
    rw [merged] at inductionHypothesis
    exact inductionHypothesis (fun term inTail => above term (List.mem_cons_of_mem _ inTail)) member
  | case4 head tail head' tail' notLess less table clashes merged inductionHypothesis =>
    rw [merged] at inductionHypothesis
    exact inductionHypothesis above member
  | case5 head tail head' tail' notLess notLess' table clashes merged inductionHypothesis =>
    rw [merged] at inductionHypothesis
    rcases List.mem_cons.mp member with rfl | inClashes
    · exact above head List.mem_cons_self
    · exact inductionHypothesis (fun term inTail => above term (List.mem_cons_of_mem _ inTail))
        inClashes

end Sum

namespace Table

/-- The sum of two tables: a term whose exponent only one of them has is kept, and two terms
with one exponent become one, with the sum of their coefficients. -/
def sum : (left right : Table) → Table
  | [], right => right
  | left, [] => left
  | head :: tail, head' :: tail' =>
    if head.exponent < head'.exponent then head :: sum tail (head' :: tail')
    else if head'.exponent < head.exponent then head' :: sum (head :: tail) tail'
    else ⟨head.exponent, head.coefficient + head'.coefficient⟩ :: sum tail tail'
termination_by left right => left.length + right.length

/-- Merging two tables and settling the clashes adds them. -/
theorem settle_merge {left right : Table} (leftAscending : left.IsAscending)
    (rightAscending : right.IsAscending) :
    Sum.settle (Sum.merge left right).1 (Sum.merge left right).2 = sum left right := by
  fun_induction Sum.merge left right with
  | case1 right => rw [sum]; rfl
  | case2 left notNil => rw [sum]; rfl; exact notNil
  | case3 head tail head' tail' less table clashes merged inductionHypothesis =>
    obtain ⟨above, tailAscending⟩ := isAscending_cons.mp leftAscending
    have behind : ∀ clash ∈ (Sum.merge tail (head' :: tail')).2, head.exponent < clash.exponent :=
      fun clash => Sum.lt_exponent_of_mem_clashes above
    rw [merged] at inductionHypothesis behind
    rw [sum, if_pos less, Sum.settle_cons behind,
      ← inductionHypothesis tailAscending rightAscending]
  | case4 head tail head' tail' notLess less table clashes merged inductionHypothesis =>
    have above : ∀ term ∈ head :: tail, head'.exponent < term.exponent := by
      intro term member
      rcases List.mem_cons.mp member with rfl | inTail
      · exact less
      · exact Int.lt_trans less ((isAscending_cons.mp leftAscending).1 term inTail)
    have behind : ∀ clash ∈ (Sum.merge (head :: tail) tail').2, head'.exponent < clash.exponent :=
      fun clash => Sum.lt_exponent_of_mem_clashes above
    rw [merged] at inductionHypothesis behind
    rw [sum, if_neg notLess, if_pos less, Sum.settle_cons behind,
      ← inductionHypothesis leftAscending rightAscending.tail]
  | case5 head tail head' tail' notLess notLess' table clashes merged inductionHypothesis =>
    obtain ⟨above, tailAscending⟩ := isAscending_cons.mp leftAscending
    have behind : ∀ clash ∈ (Sum.merge tail tail').2, head.exponent < clash.exponent :=
      fun clash => Sum.lt_exponent_of_mem_clashes above
    rw [merged] at inductionHypothesis behind
    have inserted : Table.insert ⟨head.exponent, head.coefficient + head'.coefficient⟩
        (head :: table) = ⟨head.exponent, head.coefficient + head'.coefficient⟩ :: table := by
      rw [Table.insert, if_neg (by simp), if_pos rfl]
    rw [sum, if_neg notLess, if_neg notLess', Sum.settle, List.foldl_cons, inserted,
      ← inductionHypothesis tailAscending rightAscending.tail]
    exact @Sum.settle_cons ⟨head.exponent, head.coefficient + head'.coefficient⟩ _ behind table

/-- A sum of tables lies behind whatever both tables lie behind. -/
theorem lt_exponent_of_mem_sum {left right : Table} {bound : Int}
    (leftAbove : ∀ term ∈ left, bound < term.exponent)
    (rightAbove : ∀ term ∈ right, bound < term.exponent) {term : Monomial}
    (member : term ∈ sum left right) : bound < term.exponent := by
  fun_induction sum left right with
  | case1 right => exact rightAbove term member
  | case2 left => exact leftAbove term member
  | case3 head tail head' tail' less inductionHypothesis =>
    rcases List.mem_cons.mp member with rfl | inSum
    · exact leftAbove _ List.mem_cons_self
    · exact inductionHypothesis
        (fun other inTail => leftAbove other (List.mem_cons_of_mem _ inTail)) rightAbove inSum
  | case4 head tail head' tail' notLess less inductionHypothesis =>
    rcases List.mem_cons.mp member with rfl | inSum
    · exact rightAbove _ List.mem_cons_self
    · exact inductionHypothesis leftAbove
        (fun other inTail => rightAbove other (List.mem_cons_of_mem _ inTail)) inSum
  | case5 head tail head' tail' notLess notLess' inductionHypothesis =>
    rcases List.mem_cons.mp member with rfl | inSum
    · exact leftAbove head List.mem_cons_self
    · exact inductionHypothesis
        (fun other inTail => leftAbove other (List.mem_cons_of_mem _ inTail))
        (fun other inTail => rightAbove other (List.mem_cons_of_mem _ inTail)) inSum

/-- A sum of ascending tables is ascending. -/
theorem isAscending_sum {left right : Table} (leftAscending : left.IsAscending)
    (rightAscending : right.IsAscending) : IsAscending (sum left right) := by
  fun_induction sum left right with
  | case1 => exact rightAscending
  | case2 => exact leftAscending
  | case3 head tail head' tail' less inductionHypothesis =>
    obtain ⟨above, tailAscending⟩ := isAscending_cons.mp leftAscending
    obtain ⟨above', _⟩ := isAscending_cons.mp rightAscending
    refine isAscending_cons.mpr
      ⟨fun term => lt_exponent_of_mem_sum above fun other member => ?_,
        inductionHypothesis tailAscending rightAscending⟩
    rcases List.mem_cons.mp member with rfl | inTail
    · exact less
    · exact Int.lt_trans less (above' other inTail)
  | case4 head tail head' tail' notLess less inductionHypothesis =>
    obtain ⟨above, _⟩ := isAscending_cons.mp leftAscending
    obtain ⟨above', tailAscending'⟩ := isAscending_cons.mp rightAscending
    refine isAscending_cons.mpr
      ⟨fun term => lt_exponent_of_mem_sum (fun other member => ?_) above',
        inductionHypothesis leftAscending tailAscending'⟩
    rcases List.mem_cons.mp member with rfl | inTail
    · exact less
    · exact Int.lt_trans less (above other inTail)
  | case5 head tail head' tail' notLess notLess' inductionHypothesis =>
    obtain ⟨above, tailAscending⟩ := isAscending_cons.mp leftAscending
    obtain ⟨above', tailAscending'⟩ := isAscending_cons.mp rightAscending
    have same : head.exponent = head'.exponent := by omega
    exact isAscending_cons.mpr
      ⟨fun term => lt_exponent_of_mem_sum above fun other member => same ▸ above' other member,
        inductionHypothesis tailAscending tailAscending'⟩

/-- Looking up an exponent in a sum of tables adds what both of them find. -/
theorem find?_sum {left right : Table} (leftAscending : left.IsAscending)
    (rightAscending : right.IsAscending) (exponent : Int) :
    (sum left right).find? exponent =
      Option.merge (· + ·) (left.find? exponent) (right.find? exponent) := by
  have ascending := isAscending_sum leftAscending rightAscending
  fun_induction sum left right with
  | case1 right =>
    rw [find?_nil]
    cases right.find? exponent <;> rfl
  | case2 left =>
    rw [find?_nil]
    cases left.find? exponent <;> rfl
  | case3 head tail head' tail' less inductionHypothesis =>
    rw [find?_cons ascending, find?_cons leftAscending,
      inductionHypothesis leftAscending.tail rightAscending ascending.tail]
    split
    case isTrue here =>
      have absent : find? (head' :: tail') exponent = none := by
        rw [find?, if_neg (by omega), if_pos (by omega)]
      rw [absent]
      rfl
    · rfl
  | case4 head tail head' tail' notLess less inductionHypothesis =>
    rw [find?_cons ascending, find?_cons rightAscending,
      inductionHypothesis leftAscending rightAscending.tail ascending.tail]
    split
    case isTrue here =>
      have absent : find? (head :: tail) exponent = none := by
        rw [find?, if_neg (by omega), if_pos (by omega)]
      rw [absent]
      rfl
    · rfl
  | case5 head tail head' tail' notLess notLess' inductionHypothesis =>
    have same : head'.exponent = head.exponent := by omega
    rw [find?_cons ascending, find?_cons leftAscending, find?_cons rightAscending,
      inductionHypothesis leftAscending.tail rightAscending.tail ascending.tail, same]
    split <;> rfl

/-- A term of a sum of tables is a term of one of them, or has the sum of two coefficients that
meet at its exponent. -/
theorem forall_mem_sum {property : Monomial → Prop} {left right : Table}
    (leftAscending : left.IsAscending) (rightAscending : right.IsAscending)
    (fromLeft : ∀ term ∈ left, property term) (fromRight : ∀ term ∈ right, property term)
    (meeting : ∀ exponent coefficient coefficient', left.find? exponent = some coefficient →
      right.find? exponent = some coefficient' →
      property ⟨exponent, coefficient + coefficient'⟩) :
    ∀ term ∈ sum left right, property term := by
  intro term member
  have found := find?_of_mem (isAscending_sum leftAscending rightAscending) member
  rw [find?_sum leftAscending rightAscending] at found
  obtain ⟨exponent, coefficient⟩ := term
  cases foundLeft : left.find? exponent with
  | none =>
    cases foundRight : right.find? exponent with
    | none =>
      rw [foundLeft, foundRight] at found
      cases found
    | some coefficient' =>
      rw [foundLeft, foundRight] at found
      cases found
      exact fromRight _ (mem_of_find? foundRight)
  | some leftCoefficient =>
    cases foundRight : right.find? exponent with
    | none =>
      rw [foundLeft, foundRight] at found
      cases found
      exact fromLeft _ (mem_of_find? foundLeft)
    | some rightCoefficient =>
      rw [foundLeft, foundRight] at found
      cases found
      exact meeting _ _ _ foundLeft foundRight

/-- No coefficient weighs more than its table. -/
theorem weight_le_of_mem {table : Table} {term : Monomial} (member : term ∈ table) :
    term.coefficient.weight ≤ Monomial.totalWeight table := by
  induction table with
  | nil => cases member
  | cons head tail inductionHypothesis =>
    rw [Monomial.totalWeight_cons]
    rcases List.mem_cons.mp member with rfl | inTail
    · omega
    · have := inductionHypothesis inTail
      omega

end Table

/-! ### The sum of two polynomials -/

namespace Poly

theorem isAscending_table (poly : Poly) : poly.table.IsAscending := by
  unfold table
  split
  · split
    · exact Table.isAscending_nil
    · exact List.pairwise_singleton _ _
  · exact Table.isAscending_ofList poly.monomials

/-- Two constants are added as integers. -/
theorem add_of_isConst {left right : Poly} (leftConst : left.isConst = true)
    (rightConst : right.isConst = true) :
    left + right = const (left.constant + right.constant) := by
  show Sum.run (Sum.start left right []) = _
  rw [Sum.start, if_pos (by rw [leftConst, rightConst]; rfl), Sum.run]

/-- Unless both are constants, the tables of two polynomials are added. -/
theorem add_of_not_isConst {left right : Poly}
    (notConst : ¬ (left.isConst && right.isConst) = true) :
    left + right = ofTable (Table.sum left.table right.table) := by
  show Sum.run (Sum.start left right []) = _
  rw [Sum.start, if_neg notConst]
  show Sum.run (.working ⟨_, _, 0⟩ []) = _
  rw [Sum.run_working, Sum.run, Table.settle_merge left.isAscending_table right.isAscending_table]

/-- Two coefficients that meet at an exponent weigh less than the two polynomials. -/
theorem weight_add_lt_of_find? {left right coefficient coefficient' : Poly} {exponent : Int}
    (notConst : ¬ (left.isConst && right.isConst) = true)
    (found : left.table.find? exponent = some coefficient)
    (found' : right.table.find? exponent = some coefficient') :
    coefficient.weight + coefficient'.weight < left.weight + right.weight := by
  have leftBound := Table.weight_le_of_mem (Table.mem_of_find? found)
  have rightBound := Table.weight_le_of_mem (Table.mem_of_find? found')
  simp only at leftBound rightBound
  by_cases leftConst : left.isConst = true
  · have rightSum : ¬ right.isConst = true := by simpa [leftConst] using notConst
    have := totalWeight_table_le_of_isConst leftConst
    have := totalWeight_table_le_of_not_isConst rightSum
    omega
  · have := totalWeight_table_le_of_not_isConst leftConst
    by_cases rightConst : right.isConst = true
    · have := totalWeight_table_le_of_isConst rightConst
      omega
    · have := totalWeight_table_le_of_not_isConst rightConst
      omega

/-- Induction over the sums that a sum is made of: a statement holds of all pairs of polynomials
if it holds of constants, and of a pair as soon as it holds of all coefficients that meet at
one exponent of the two tables. -/
theorem add_induction {motive : Poly → Poly → Prop}
    (constants : ∀ left right, left.isConst = true → right.isConst = true → motive left right)
    (tables : ∀ left right, ¬ (left.isConst && right.isConst) = true →
      (∀ exponent coefficient coefficient', left.table.find? exponent = some coefficient →
        right.table.find? exponent = some coefficient' → motive coefficient coefficient') →
      motive left right)
    (left right : Poly) : motive left right := by
  by_cases bothConst : (left.isConst && right.isConst) = true
  · obtain ⟨leftConst, rightConst⟩ := Bool.and_eq_true_iff.mp bothConst
    exact constants left right leftConst rightConst
  · refine tables left right bothConst fun exponent coefficient coefficient' found found' => ?_
    have lighter := weight_add_lt_of_find? bothConst found found'
    exact add_induction constants tables coefficient coefficient'
termination_by left.weight + right.weight

/-- A property of polynomials that arithmetic keeps, with the exponents that it allows:
constants have it, a table of allowed exponents with such coefficients makes a polynomial that
has it, and the table of a polynomial that has it is of that kind. -/
structure IsKept (allowed : Int → Prop) (property : Poly → Prop) : Prop where
  constants : ∀ value, property (const value)
  sums : ∀ table : Table, table.IsAscending →
    (∀ term ∈ table, allowed term.exponent ∧ property term.coefficient) → property (ofTable table)
  terms : ∀ poly, property poly →
    ∀ term ∈ poly.table, allowed term.exponent ∧ property term.coefficient

/-- A property that arithmetic keeps passes from two polynomials to their sum. -/
theorem IsKept.add {allowed : Int → Prop} {property : Poly → Prop}
    (kept : IsKept allowed property) {left right : Poly} (leftHolds : property left)
    (rightHolds : property right) : property (left + right) := by
  induction left, right using add_induction with
  | constants left right leftConst rightConst =>
    rw [add_of_isConst leftConst rightConst]
    exact kept.constants _
  | tables left right notConst inductionHypothesis =>
    rw [add_of_not_isConst notConst]
    have leftTerms := kept.terms left leftHolds
    have rightTerms := kept.terms right rightHolds
    refine kept.sums _ (Table.isAscending_sum left.isAscending_table right.isAscending_table)
      (Table.forall_mem_sum left.isAscending_table right.isAscending_table leftTerms rightTerms
        fun exponent coefficient coefficient' found found' => ?_)
    obtain ⟨allowed, leftCoefficient⟩ := leftTerms _ (Table.mem_of_find? found)
    obtain ⟨_, rightCoefficient⟩ := rightTerms _ (Table.mem_of_find? found')
    exact ⟨allowed, inductionHypothesis exponent coefficient coefficient' found found'
      leftCoefficient rightCoefficient⟩

/-! ### Sums of monomials -/

/-- Entering a term into a table adds the table of that one term. -/
theorem collect_eq_sum {table : Table} (ascending : table.IsAscending) (term : Monomial) :
    collect table term = Table.sum table [term] := by
  have single : Table.IsAscending [term] := List.pairwise_singleton _ _
  obtain ⟨coefficient, merged, entered⟩ : ∃ coefficient,
      Option.merge (· + ·) (table.find? term.exponent) (some term.coefficient) = some coefficient ∧
        collect table term = table.insert ⟨term.exponent, coefficient⟩ := by
    unfold collect
    cases table.find? term.exponent with
    | none => exact ⟨term.coefficient, rfl, by rw [Monomial.mk_exponent_coefficient]⟩
    | some current => exact ⟨current + term.coefficient, rfl, rfl⟩
  rw [entered]
  refine Table.ext_of_find? (Table.isAscending_insert ascending _)
    (Table.isAscending_sum ascending single) fun exponent => ?_
  rw [Table.find?_insert ascending, Table.find?_sum ascending single, Table.find?_cons single,
    Table.find?_nil]
  by_cases here : term.exponent = exponent
  · rw [if_pos here, if_pos here, ← here, merged]
  · rw [if_neg here, if_neg here]
    cases table.find? exponent <;> rfl

theorem isAscending_collect {table : Table} (ascending : table.IsAscending) (term : Monomial) :
    (collect table term).IsAscending := by
  rw [collect_eq_sum ascending]
  exact Table.isAscending_sum ascending (List.pairwise_singleton _ _)

theorem isAscending_foldl_collect (monomials : List Monomial) {table : Table}
    (ascending : table.IsAscending) : (monomials.foldl collect table).IsAscending := by
  induction monomials generalizing table with
  | nil => exact ascending
  | cons head tail inductionHypothesis =>
    exact inductionHypothesis (isAscending_collect ascending head)

/-- A property that arithmetic keeps passes from some monomials to the table that is collected
from them. -/
theorem IsKept.foldl_collect {allowed : Int → Prop} {property : Poly → Prop}
    (kept : IsKept allowed property) {monomials : List Monomial}
    (holds : ∀ term ∈ monomials, allowed term.exponent ∧ property term.coefficient)
    {table : Table} (ascending : table.IsAscending)
    (tableHolds : ∀ term ∈ table, allowed term.exponent ∧ property term.coefficient) :
    ∀ term ∈ monomials.foldl collect table,
      allowed term.exponent ∧ property term.coefficient := by
  induction monomials generalizing table with
  | nil => exact tableHolds
  | cons head tail inductionHypothesis =>
    have single : Table.IsAscending [head] := List.pairwise_singleton _ _
    have headHolds : ∀ term ∈ [head], allowed term.exponent ∧ property term.coefficient :=
      fun term member => List.mem_singleton.mp member ▸ holds head List.mem_cons_self
    refine inductionHypothesis (fun term member => holds term (List.mem_cons_of_mem _ member))
      (isAscending_collect ascending head) ?_
    rw [collect_eq_sum ascending]
    refine Table.forall_mem_sum ascending single tableHolds headHolds
      fun exponent coefficient coefficient' found found' => ?_
    obtain ⟨allowed, current⟩ := tableHolds _ (Table.mem_of_find? found)
    exact ⟨allowed, kept.add current (headHolds _ (Table.mem_of_find? found')).2⟩

/-- A property that arithmetic keeps passes from some monomials to their sum. -/
theorem IsKept.ofMonomials {allowed : Int → Prop} {property : Poly → Prop}
    (kept : IsKept allowed property) {monomials : List Monomial}
    (holds : ∀ term ∈ monomials, allowed term.exponent ∧ property term.coefficient) :
    property (ofMonomials monomials) :=
  kept.sums _ (isAscending_foldl_collect monomials Table.isAscending_nil)
    (kept.foldl_collect holds Table.isAscending_nil fun _ member => absurd member List.not_mem_nil)

end Poly

end PolyIntake
