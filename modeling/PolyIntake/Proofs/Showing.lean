/-
This file proves that what a run comes to can be shown in every form. An outcome
of a run lists each accepted line with its number, its kind and its value, and
it holds no value of more than three levels, so that nothing is missing from an
item, nothing in it is marked up, and a document has room for all of it. What is
shown goes to the output if the run did its job and to the error channel if not.
-/

import PolyIntake.Proofs.Leaves
import PolyIntake.Proofs.Runs
import PolyIntake.Report

namespace PolyIntake

/-! ### What comes to something -/

/-- There is no fault: something comes of it. -/
def Succeeds {Fault Result : Type} (shown : Except Fault Result) : Prop :=
  ∃ result, shown = .ok result

namespace Succeeds

variable {Fault First Second : Type}

theorem bind {first : Except Fault First} {next : First → Except Fault Second}
    (shown : Succeeds first) (after : ∀ value, first = .ok value → Succeeds (next value)) :
    Succeeds (first >>= next) := by
  obtain ⟨value, rfl⟩ := shown
  exact after value rfl

theorem map {first : Except Fault First} (shown : Succeeds first) (change : First → Second) :
    Succeeds (first.map change) := by
  obtain ⟨value, rfl⟩ := shown
  exact ⟨change value, rfl⟩

/-- Each step of a list comes to one of the results. -/
theorem mapM {step : First → Except Fault Second} {members : List First}
    (each : ∀ member ∈ members, Succeeds (step member)) : Succeeds (members.mapM step) := by
  induction members with
  | nil => exact ⟨[], rfl⟩
  | cons head tail inductionHypothesis =>
    rw [List.forall_mem_cons] at each
    rw [List.mapM_cons]
    exact bind each.1 fun _ _ => bind (inductionHypothesis each.2) fun _ _ => ⟨_, rfl⟩

end Succeeds

namespace Value

theorem levelsOfMembers_le {members : List Value} {most : Nat}
    (each : ∀ member ∈ members, member.levels ≤ most) : levelsOfMembers members ≤ most := by
  induction members with
  | nil => exact Nat.zero_le most
  | cons head tail inductionHypothesis =>
    rw [List.forall_mem_cons] at each
    rw [levelsOfMembers]
    exact Nat.max_le.mpr ⟨each.1, inductionHypothesis each.2⟩

theorem levels_list_map_le {Member : Type} {members : List Member} {value : Member → Value}
    {most : Nat} (each : ∀ member, (value member).levels ≤ most) :
    (Value.list (members.map value)).levels ≤ most + 1 := by
  rw [levels]
  refine Nat.succ_le_succ (levelsOfMembers_le fun member isMember => ?_)
  obtain ⟨source, -, rfl⟩ := List.mem_map.mp isMember
  exact each source

end Value

/-! ### Plain text -/

namespace Report

open Session

/-! ### Shown items -/

section Outcomes

variable (output : OutputRules) (entries : List Entry)

/-- The items of a parse are its accepted lines, also where there are none. -/
theorem items_parse : items (Task.parse.outcome output entries).data =
    .ok ((accepted entries).map itemValue) := by
  have listed : Fields.get? (Task.parse.outcome output entries).data "items" =
      some (.list ((accepted entries).map itemValue)) := rfl
  rw [items, Fields.filled?, listed]
  cases accepted entries <;> rfl

end Outcomes

/-! ### Documents -/

theorem levels_itemValue_le (item : Nat × Line) : (itemValue item).levels ≤ 2 := by
  obtain ⟨number, command | poly⟩ := item
  · cases command <;> exact Nat.le_refl 2
  · exact Nat.le_refl 2

theorem succeeds_document {outcome : Outcome}
    (data : ∀ field ∈ outcome.data, field.2.levels ≤ deepest)
    (detail : ∀ field ∈ problemDetail outcome, field.2.levels ≤ deepest) :
    Succeeds (document outcome) := by
  have room : (fits outcome.data && fits (problemDetail outcome)) = true := by
    simpa [fits] using And.intro data detail
  exact ⟨_, if_pos room⟩

/-- A parse has three levels of values at most. -/
theorem succeeds_document_parse (output : OutputRules) (entries : List Entry) :
    Succeeds (document (Task.parse.outcome output entries)) := by
  have items : (Value.list ((accepted entries).map itemValue)).levels ≤ 3 :=
    Value.levels_list_map_le levels_itemValue_le
  have refused : (Value.list ((rejected entries).map rejectedValue)).levels ≤ 3 :=
    Value.levels_list_map_le fun _ => Nat.le_refl 2
  have passed : (Value.list
      ((skipped entries).map fun (number : Nat) => Value.int number)).levels ≤ 2 :=
    Value.levels_list_map_le fun _ => Nat.le_refl 1
  have room : ∀ {levels : Nat}, levels ≤ 3 → levels ≤ deepest :=
    fun few => Nat.le_trans few (by decide)
  refine succeeds_document (List.forall_mem_append.mpr ⟨?_, ?_⟩) (by rintro _ ⟨⟩)
  · intro field member
    rcases List.mem_cons.mp member with rfl | member
    · exact room items
    rcases List.mem_cons.mp member with rfl | member
    · exact room refused
    obtain rfl := List.mem_singleton.mp member
    exact room (Nat.le_succ 2)
  · intro field member
    split at member
    · obtain rfl := List.mem_singleton.mp member
      exact room (Nat.le_trans passed (Nat.le_succ 2))
    · cases member

/-- A check has two levels of values, those of its counts and of the numbers of refused lines. -/
theorem succeeds_document_check (output : OutputRules) (entries : List Entry) :
    Succeeds (document (Task.check.outcome output entries)) := by
  have room : ∀ {levels : Nat}, levels ≤ 2 → levels ≤ deepest :=
    fun few => Nat.le_trans few (by decide)
  have blamed : (Value.list
      ((rejected entries).map fun diagnostic => Value.int diagnostic.line)).levels ≤ 2 :=
    Value.levels_list_map_le fun _ => Nat.le_refl 1
  have counted : ∀ field ∈ [("counts", Value.record (counts entries))],
      field.2.levels ≤ deepest := by
    intro field member
    obtain rfl := List.mem_singleton.mp member
    exact room (Nat.le_refl 2)
  unfold Task.outcome
  dsimp only
  split
  case h_1 => exact succeeds_document counted (by rintro _ ⟨⟩)
  case h_2 =>
    refine succeeds_document counted fun field member => ?_
    obtain rfl := List.mem_singleton.mp member
    exact room blamed

/-- A failure without data is shown by its problem, if nothing details it. -/
theorem succeeds_text_failure (operation : String) {problem : Problem}
    (plain : problem.detail = []) (form : Form) :
    Succeeds (text form (.failure operation [] problem)) := by
  cases form with
  | document =>
    refine succeeds_document (by rintro _ ⟨⟩) fun field member => ?_
    rw [show problemDetail (.failure operation [] problem) = [] from plain] at member
    cases member
  | terse => exact ⟨_, rfl⟩
  | full => exact ⟨_, rfl⟩

end Report

end PolyIntake
