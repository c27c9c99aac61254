/-
This file proves that runs do not disturb each other. A reader keeps two things
from one run to the next: its reporter, which is the same for all of them, and
the scope. A run changes the scope while it goes on, and it may end in the
middle of a line, because the source fails or because the reporter does; but
whatever it entered it has left again by then. The run behind it therefore
begins where the first run of all began, and comes to what it would come to on
its own.

With a reporter that never fails, a run is the run of which the other files
speak.
-/

import PolyIntake.Proofs.Runs
import PolyIntake.Session.Reporting

namespace PolyIntake

open Log

namespace Session

variable (settings : Settings) (reporter : Reporter)

/-! ### Runs with a reporter -/

theorem failure?_reliable (entry : Entry) : Reporter.reliable.failure? entry = none := by
  cases entry <;> rfl

theorem handleLinesUntil_reliable (lines : List NumberedLine) :
    handleLinesUntil .reliable lines = Work.map .ok (handleLines lines) := by
  induction lines with
  | nil => rfl
  | cons line rest inductionHypothesis =>
    simp only [handleLinesUntil, failure?_reliable, inductionHypothesis]
    rfl

/-- A run whose reporter never fails. -/
theorem runReporting_reliable : runReporting settings .reliable = run settings := by
  funext task source
  simp only [runReporting, readSourceUntil, handleLinesUntil_reliable]
  rfl

/-- No line leaves its number in scope, be it the one over which the reporter fails. -/
theorem handleLinesUntil_restores (lines : List NumberedLine) :
    (handleLinesUntil reporter lines).Restores := by
  induction lines with
  | nil => exact Work.restores_done _
  | cons line rest inductionHypothesis =>
    refine (handleLine_yields line).toRestores.andThen fun entry => ?_
    cases reporter.failure? entry with
    | some failure => exact Work.restores_done _
    | none => exact inductionHypothesis.map _

theorem readSourceUntil_restores (rules : InputRules) (source : Source) :
    (readSourceUntil reporter rules source).Restores := by
  refine ((handleLinesUntil_restores reporter _).andThen fun value => ?_).within _ _
  cases value with
  | error failure => exact Work.restores_done _
  | ok entries =>
    cases source.failure with
    | some failure => exact Work.restores_done _
    | none => exact (Work.yields_log ..).toRestores.map _

theorem runReporting_restores (task : Task) (source : Source) :
    (runReporting settings reporter task source).Restores := by
  refine (readSourceUntil_restores reporter _ _).andThen fun value => ?_
  cases value with
  | ok entries => exact Work.restores_done _
  | error failure => exact (cutShort_yields task failure).toRestores

/-! ### Runs one after the other -/

/-- Of runs that one reader makes one after the other, each has the outcome, the events and the
scope behind it that it has when it is made on its own in the scope in front of the first, and that
scope is the one behind each of them. Runs may be cut short by their source or by the reporter, and
failures may pass through. -/
theorem runAll_isolated (runs : List (Task × Source)) (scope : Scope) :
    runAll settings reporter runs scope =
        runs.map (fun (task, source) => runReporting settings reporter task source scope) ∧
      ∀ traced ∈ runAll settings reporter runs scope, traced.scope = scope := by
  induction runs with
  | nil => exact ⟨rfl, fun _ member => by cases member⟩
  | cons request rest inductionHypothesis =>
    obtain ⟨task, source⟩ := request
    have restored := runReporting_restores settings reporter task source scope
    simp only [runAll, restored, List.map_cons]
    refine ⟨congrArg _ inductionHypothesis.1, fun traced member => ?_⟩
    rcases List.mem_cons.mp member with rfl | later
    · exact restored
    · exact inductionHypothesis.2 traced later

end Session

end PolyIntake
