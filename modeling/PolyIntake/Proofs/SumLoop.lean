/-
This file proves that the loop that adds polynomials ends, and that it computes
what structural recursion would: two constants are added as integers, and
otherwise the terms of both polynomials are put together, where every exponent
that both of them have carries the recursive sum of its two coefficients. The
operands may be anything, with repeated exponents, zero terms and constants
beside their monomials.

The loop holds its open levels in frames. In a turn it stores the value that was
handed back, if there was one, and then either takes one of the clashes of the
innermost frame and starts on it, or closes the frame. Which clash is taken does
not matter: every clash is stored at an exponent of its own, so the frames below
will be handed the same value in the end. The weight of what is pending falls
with every turn, so no way of taking clashes goes on for ever.
-/

import Mathlib.Data.List.Induction
import PolyIntake.Proofs.Canonical

namespace PolyIntake

/-! ### The terms of a polynomial -/

namespace Poly

/-- The coefficient of a polynomial at an exponent. A constant other than zero is its own
coefficient at power zero. Of several monomials with one exponent the last counts. -/
def lastCoefficient? (poly : Poly) (exponent : Int) : Option Poly :=
  if poly.isConst then
    if poly.constant = 0 ∨ exponent ≠ 0 then none else some poly
  else
    (poly.monomials.reverse.find? (·.exponent = exponent)).map Monomial.coefficient

end Poly

namespace Table

theorem find?_ofList (terms : List Monomial) (exponent : Int) :
    (ofList terms).find? exponent =
      (terms.reverse.find? (·.exponent = exponent)).map Monomial.coefficient := by
  induction terms using List.reverseRecOn with
  | nil => rfl
  | append_singleton terms term inductionHypothesis =>
    have stored : ofList (terms ++ [term]) = insert term (ofList terms) := by
      rw [ofList, List.foldl_append]
      rfl
    rw [stored, find?_insert (isAscending_ofList terms), inductionHypothesis,
      List.reverse_concat, List.find?_cons]
    by_cases here : term.exponent = exponent <;> simp [here]

/-- Two terms at different exponents are stored in either order. -/
theorem insert_insert {table : Table} (ascending : table.IsAscending) {first second : Monomial}
    (different : first.exponent ≠ second.exponent) :
    insert first (insert second table) = insert second (insert first table) := by
  have firstStored := isAscending_insert ascending first
  have secondStored := isAscending_insert ascending second
  refine ext_of_find? (isAscending_insert secondStored first)
    (isAscending_insert firstStored second) fun exponent => ?_
  rw [find?_insert secondStored, find?_insert ascending, find?_insert firstStored,
    find?_insert ascending]
  by_cases here : first.exponent = exponent
  · rw [if_pos here, if_neg (fun there => different (here.trans there.symm)), if_pos here]
  · rw [if_neg here, if_neg here]

end Table

namespace Poly

/-- The table of a polynomial has its last coefficients. -/
theorem find?_table (poly : Poly) (exponent : Int) :
    poly.table.find? exponent = poly.lastCoefficient? exponent := by
  unfold table lastCoefficient?
  split
  · by_cases absent : poly.constant = 0
    · rw [if_pos absent, if_pos (Or.inl absent), Table.find?_nil]
    · rw [if_neg absent, Table.find?_cons (List.pairwise_singleton _ _), Table.find?_nil]
      by_cases atZero : exponent = 0
      · rw [if_pos atZero.symm, if_neg (by simp [absent, atZero])]
      · rw [if_neg (Ne.symm atZero), if_pos (Or.inr atZero)]
  · exact Table.find?_ofList poly.monomials exponent

/-! ### The recursive sum -/

/-- The sum by structural recursion. Two constants are added as integers. Otherwise the sum is the
polynomial of the table that has a term for every exponent of the two operands: the coefficient of
the one that has it, or the recursive sum of both coefficients. -/
structure IsRecursiveSum (sum : Poly → Poly → Poly) : Prop where
  constants : ∀ value value', sum (const value) (const value') = const (value + value')
  tables : ∀ left right, ¬ (left.isConst = true ∧ right.isConst = true) →
    ∃ table : Table, table.IsAscending ∧
      (∀ exponent, table.find? exponent =
        Option.merge sum (left.lastCoefficient? exponent) (right.lastCoefficient? exponent)) ∧
      sum left right = ofTable table

theorem isRecursiveSum_add : IsRecursiveSum (· + ·) where
  constants _ _ := add_of_isConst rfl rfl
  tables left right notConst := by
    refine ⟨Table.sum left.table right.table,
      Table.isAscending_sum left.isAscending_table right.isAscending_table, fun exponent => ?_,
      add_of_not_isConst (by rwa [Bool.and_eq_true])⟩
    rw [Table.find?_sum left.isAscending_table right.isAscending_table, find?_table, find?_table]

/-- Recursion leaves no choice. -/
theorem IsRecursiveSum.eq_add {sum : Poly → Poly → Poly} (recursive : IsRecursiveSum sum)
    (left right : Poly) : sum left right = left + right := by
  induction left, right using add_induction with
  | constants left right leftConst rightConst =>
    rw [add_of_isConst leftConst rightConst, eq_const_of_isConst leftConst,
      eq_const_of_isConst rightConst]
    exact recursive.constants _ _
  | tables left right notConst inductionHypothesis =>
    obtain ⟨table, ascending, found, equal⟩ :=
      recursive.tables left right (by rwa [← Bool.and_eq_true])
    rw [equal, add_of_not_isConst notConst]
    refine congrArg ofTable (Table.ext_of_find? ascending
      (Table.isAscending_sum left.isAscending_table right.isAscending_table) fun exponent => ?_)
    rw [found, Table.find?_sum left.isAscending_table right.isAscending_table, ← find?_table,
      ← find?_table]
    cases foundLeft : left.table.find? exponent with
    | none => cases right.table.find? exponent <;> rfl
    | some coefficient =>
      cases foundRight : right.table.find? exponent with
      | none => rfl
      | some coefficient' =>
        exact congrArg some
          (inductionHypothesis exponent coefficient coefficient' foundLeft foundRight)

theorem isRecursiveSum_iff {sum : Poly → Poly → Poly} :
    IsRecursiveSum sum ↔ ∀ left right, sum left right = left + right := by
  constructor
  · exact IsRecursiveSum.eq_add
  · intro same
    obtain rfl : sum = (· + ·) := funext fun left => funext fun right => same left right
    exact isRecursiveSum_add

end Poly

namespace Sum

/-! ### Turns of the loop -/

/-- What the loop holds at the beginning of a turn: the open frames, innermost first, and the value
that was handed back in the turn before, if there was one. -/
structure Loop where
  frames : List Frame
  value? : Option Poly

/-- What a configuration of the machine is for the loop. -/
def Config.toLoop : Config → Loop
  | .returning value frames => ⟨frames, some value⟩
  | .working frame frames => ⟨frame :: frames, none⟩

/-- The loop when it starts on a sum, above some frames. -/
def Loop.opened (left right : Poly) (frames : List Frame) : Loop :=
  (start left right frames).toLoop

/-- A frame stores a value that is handed back to it at the exponent that it awaits. -/
def Frame.receive (frame : Frame) : Option Poly → Frame
  | none => frame
  | some value => { frame with table := frame.table.insert ⟨frame.awaited, value⟩ }

/-- A turn of the loop. The innermost frame stores what was handed back. Then one of its clashes is
taken, whichever it is, and its sum is started on; or it has no clashes, and then it is closed and
the polynomial of its table is handed back. -/
inductive Turn : Loop → Loop → Prop
  | take {frame : Frame} {frames : List Frame} {value? : Option Poly} {before after : List Clash}
      {clash : Clash} (pending : frame.clashes = before ++ clash :: after) :
      Turn ⟨frame :: frames, value?⟩ (.opened clash.left clash.right
        (⟨(frame.receive value?).table, before ++ after, clash.exponent⟩ :: frames))
  | close {frame : Frame} {frames : List Frame} {value? : Option Poly}
      (settled : frame.clashes = []) :
      Turn ⟨frame :: frames, value?⟩ ⟨frames, some (.ofTable (frame.receive value?).table)⟩

/-- The loop comes to its end with this value, whichever clashes are taken in its turns. It ends
when no frame is open, and then there has to be a value. -/
inductive Loop.Ends (result : Poly) : Loop → Prop
  | done : Ends result ⟨[], some result⟩
  | turn {loop : Loop} (possible : ∃ next, Turn loop next)
      (every : ∀ next, Turn loop next → Ends result next) : Ends result loop

theorem clashes_receive (frame : Frame) (value? : Option Poly) :
    (frame.receive value?).clashes = frame.clashes := by
  cases value? <;> rfl

/-- As long as a frame is open, there is a next turn. -/
theorem exists_turn (frame : Frame) (frames : List Frame) (value? : Option Poly) :
    ∃ next, Turn ⟨frame :: frames, value?⟩ next := by
  cases pending : frame.clashes with
  | nil => exact ⟨_, .close pending⟩
  | cons clash clashes => exact ⟨_, @Turn.take _ _ _ [] clashes clash pending⟩

/-! ### Every turn lowers the weight -/

/-- The weight of what is pending. Handing a value back costs one turn. -/
def Loop.weight (loop : Loop) : Nat :=
  frameWeight loop.frames + loop.value?.elim 0 fun _ => 1

theorem weight_toLoop (config : Config) : config.toLoop.weight = config.weight := by
  cases config <;> rfl

theorem clashWeight_append (first second : List Clash) :
    clashWeight (first ++ second) = clashWeight first + clashWeight second := by
  induction first with
  | nil => rw [List.nil_append, clashWeight, Nat.zero_add]
  | cons clash rest inductionHypothesis =>
    rw [List.cons_append, clashWeight, inductionHypothesis, clashWeight]
    exact (Nat.add_assoc _ _ _).symm

theorem weight_lt_of_turn {loop next : Loop} (turn : Turn loop next) :
    next.weight < loop.weight := by
  cases turn with
  | @take frame frames value? before after clash pending =>
    have lighter := weight_start_lt clash.left clash.right
      (⟨(frame.receive value?).table, before ++ after, clash.exponent⟩ :: frames)
    rw [Loop.opened, weight_toLoop]
    simp only [Loop.weight, frameWeight, pending, clashWeight_append, clashWeight] at *
    omega
  | close settled =>
    simp only [Loop.weight, frameWeight, settled, clashWeight, Option.elim_some]
    omega

/-! ### Every turn keeps the loop sound -/

/-- In every open frame the table is ascending, and no two clashes have one exponent. -/
def Loop.IsSound (loop : Loop) : Prop :=
  ∀ frame ∈ loop.frames, frame.table.IsAscending ∧
    frame.clashes.Pairwise fun earlier later => earlier.exponent ≠ later.exponent

theorem map_exponent_merge (left right : Table) :
    (merge left right).1.map Monomial.exponent = (Table.sum left right).map Monomial.exponent := by
  fun_induction merge left right with
  | case1 => rw [Table.sum]
  | case2 left notNil => rw [Table.sum]; exact notNil
  | case3 head tail head' tail' less table clashes merged inductionHypothesis =>
    rw [merged] at inductionHypothesis
    rw [Table.sum, if_pos less, List.map_cons, List.map_cons, inductionHypothesis]
  | case4 head tail head' tail' notLess less table clashes merged inductionHypothesis =>
    rw [merged] at inductionHypothesis
    rw [Table.sum, if_neg notLess, if_pos less, List.map_cons, List.map_cons, inductionHypothesis]
  | case5 head tail head' tail' notLess notLess' table clashes merged inductionHypothesis =>
    rw [merged] at inductionHypothesis
    rw [Table.sum, if_neg notLess, if_neg notLess', List.map_cons, List.map_cons,
      inductionHypothesis]

/-- A merged table has the exponents of the sum of both tables, so it is ascending as well. -/
theorem isAscending_merge {left right : Table} (leftAscending : left.IsAscending)
    (rightAscending : right.IsAscending) : Table.IsAscending (merge left right).1 := by
  have ascending := Table.isAscending_sum leftAscending rightAscending
  unfold Table.IsAscending at ascending ⊢
  rw [← List.pairwise_map] at ascending ⊢
  rwa [map_exponent_merge]

/-- The clashes of an ascending table have an exponent each. -/
theorem pairwise_clashes {left right : Table} (ascending : left.IsAscending) :
    (merge left right).2.Pairwise fun earlier later => earlier.exponent ≠ later.exponent := by
  fun_induction merge left right with
  | case1 => exact List.Pairwise.nil
  | case2 => exact List.Pairwise.nil
  | case3 head tail head' tail' less table clashes merged inductionHypothesis =>
    rw [merged] at inductionHypothesis
    exact inductionHypothesis ascending.tail
  | case4 head tail head' tail' notLess less table clashes merged inductionHypothesis =>
    rw [merged] at inductionHypothesis
    exact inductionHypothesis ascending
  | case5 head tail head' tail' notLess notLess' table clashes merged inductionHypothesis =>
    obtain ⟨above, tailAscending⟩ := Table.isAscending_cons.mp ascending
    have behind : ∀ clash ∈ (merge tail tail').2, head.exponent < clash.exponent :=
      fun _ => lt_exponent_of_mem_clashes above
    rw [merged] at inductionHypothesis behind
    exact List.pairwise_cons.mpr
      ⟨fun clash member => Int.ne_of_lt (behind clash member), inductionHypothesis tailAscending⟩

theorem Frame.isAscending_receive {frame : Frame} (ascending : frame.table.IsAscending)
    (value? : Option Poly) : (frame.receive value?).table.IsAscending := by
  cases value? with
  | none => exact ascending
  | some value => exact Table.isAscending_insert ascending _

theorem isSound_opened (left right : Poly) {frames : List Frame}
    (below : Loop.IsSound ⟨frames, none⟩) : (Loop.opened left right frames).IsSound := by
  unfold Loop.opened start
  split
  · exact below
  · refine List.forall_mem_cons.mpr ⟨⟨?_, ?_⟩, below⟩
    · exact isAscending_merge left.isAscending_table right.isAscending_table
    · exact pairwise_clashes left.isAscending_table

theorem isSound_of_turn {loop next : Loop} (sound : loop.IsSound) (turn : Turn loop next) :
    next.IsSound := by
  cases turn with
  | @take frame frames value? before after clash pending =>
    obtain ⟨⟨ascending, distinct⟩, below⟩ := List.forall_mem_cons.mp sound
    refine isSound_opened _ _ (List.forall_mem_cons.mpr
      ⟨⟨Frame.isAscending_receive ascending value?, ?_⟩, below⟩)
    rw [pending] at distinct
    exact distinct.sublist ((List.Sublist.refl before).append (List.sublist_cons_self clash after))
  | close settled => exact (List.forall_mem_cons.mp sound).2

/-! ### Every turn keeps what the loop comes to -/

/-- What the loop comes to: the value, where no frame is open, and what the machine makes of the
open frames otherwise. -/
def Loop.outcome? : Loop → Option Poly
  | ⟨[], value?⟩ => value?
  | ⟨frame :: frames, value?⟩ => some (run (.working (frame.receive value?) frames))

theorem outcome?_toLoop (config : Config) : config.toLoop.outcome? = some (run config) := by
  cases config with
  | returning value frames =>
    cases frames with
    | nil => rw [run]; rfl
    | cons frame frames => rw [run]; rfl
  | working frame frames => rfl

/-- A frame at work hands back the polynomial of its table with all clashes settled. -/
theorem run_frame (frame : Frame) (frames : List Frame) :
    run (.working frame frames) =
      run (.returning (.ofTable (settle frame.table frame.clashes)) frames) :=
  run_working frame.table frame.clashes frame.awaited frames

/-- A clash may be settled in front of all others. -/
theorem settle_take {table : Table} (ascending : table.IsAscending) {before : List Clash}
    {clash : Clash} (different : ∀ other ∈ before, other.exponent ≠ clash.exponent)
    (after : List Clash) :
    settle table (before ++ clash :: after) =
      settle (table.insert ⟨clash.exponent, clash.left + clash.right⟩) (before ++ after) := by
  induction before generalizing table with
  | nil => rfl
  | cons other before inductionHypothesis =>
    obtain ⟨here, rest⟩ := List.forall_mem_cons.mp different
    have settled := inductionHypothesis
      (Table.isAscending_insert ascending ⟨other.exponent, other.left + other.right⟩) rest
    unfold settle at settled ⊢
    rw [List.cons_append, List.foldl_cons, settled, List.cons_append, List.foldl_cons,
      Table.insert_insert ascending (Ne.symm here)]

theorem outcome?_of_turn {loop next : Loop} (sound : loop.IsSound) (turn : Turn loop next) :
    next.outcome? = loop.outcome? := by
  cases turn with
  | @take frame frames value? before after clash pending =>
    obtain ⟨⟨ascending, distinct⟩, _⟩ := List.forall_mem_cons.mp sound
    have different : ∀ other ∈ before, other.exponent ≠ clash.exponent := by
      rw [pending, List.pairwise_append] at distinct
      exact fun other member => distinct.2.2 other member clash List.mem_cons_self
    have settled := settle_take (Frame.isAscending_receive ascending value?) different after
    show (Loop.opened clash.left clash.right _).outcome? =
      some (run (.working (frame.receive value?) frames))
    rw [Loop.opened, outcome?_toLoop, run_start, run, run_working, ← settled, run_frame,
      clashes_receive, pending]
  | @close frame frames value? settled =>
    show (Config.returning (.ofTable (frame.receive value?).table) frames).toLoop.outcome? =
      some (run (.working (frame.receive value?) frames))
    rw [outcome?_toLoop, run_frame, clashes_receive, settled, settle, List.foldl_nil]

/-! ### The end of the loop -/

/-- A sound loop ends with what it comes to. -/
theorem ends_of_isSound {loop : Loop} (sound : loop.IsSound) {result : Poly}
    (outcome : loop.outcome? = some result) : loop.Ends result := by
  induction weight : loop.weight using Nat.strongRecOn generalizing loop with
  | ind weight inductionHypothesis =>
    obtain ⟨frames, value?⟩ := loop
    cases frames with
    | nil =>
      obtain rfl : value? = some result := outcome
      exact .done
    | cons frame frames =>
      refine .turn (exists_turn frame frames value?) fun next turn => ?_
      exact inductionHypothesis next.weight (weight ▸ weight_lt_of_turn turn)
        (isSound_of_turn sound turn) ((outcome?_of_turn sound turn).trans outcome) rfl

/-- The loop ends with one value only. -/
theorem Loop.Ends.unique {loop : Loop} {result result' : Poly} (ends : loop.Ends result)
    (ends' : loop.Ends result') : result = result' := by
  induction ends with
  | done =>
    cases ends' with
    | done => rfl
    | turn possible =>
      obtain ⟨next, turn⟩ := possible
      cases turn
  | turn possible every inductionHypothesis =>
    obtain ⟨next, turn⟩ := possible
    cases ends' with
    | done => cases turn
    | turn _ every' => exact inductionHypothesis next turn (every' next turn)

/-- The recursive equations of the sum have one solution, and it is addition. Started on any two
polynomials, the loop ends, whichever clashes are taken, and what it ends with is their sum. -/
theorem loop_spec :
    (∀ sum : Poly → Poly → Poly,
      Poly.IsRecursiveSum sum ↔ ∀ left right, sum left right = left + right) ∧
      ∀ left right result : Poly,
        (Loop.opened left right []).Ends result ↔ result = left + right := by
  refine ⟨fun _ => Poly.isRecursiveSum_iff, fun left right result => ?_⟩
  have sound : (Loop.opened left right []).IsSound :=
    isSound_opened left right fun _ member => absurd member List.not_mem_nil
  have ends := ends_of_isSound sound (outcome?_toLoop (start left right []))
  constructor
  · exact fun ends' => ends'.unique ends
  · rintro rfl
    exact ends

end Sum

end PolyIntake
