/-
This file describes work by what can be told of it from outside: the value that
it gives, the diagnostics that it reports and the scope that it leaves behind.
For the work of this program neither the value nor the diagnostics depend on
what is in scope when it begins, and the scope behind it is the scope in front
of it. The records that it logs do carry the scope; of those it is said which
ones may occur.

Each way of putting work together has one lemma for either description, so that
the work of a whole run is described by following how it was put together.
-/

import PolyIntake.Log
import PolyIntake.Proofs.Records

namespace PolyIntake

namespace Log

/-! ### What events tell -/

/-- The diagnostics that were reported, in order. -/
def reported (events : List Event) : List Diagnostic :=
  events.filterMap fun
    | .reported diagnostic => some diagnostic
    | .logged _ => none

/-- The records that were logged, in order. -/
def logged (events : List Event) : List Record :=
  events.filterMap fun
    | .logged record => some record
    | .reported _ => none

theorem reported_append (first second : List Event) :
    reported (first ++ second) = reported first ++ reported second :=
  List.filterMap_append

theorem logged_append (first second : List Event) :
    logged (first ++ second) = logged first ++ logged second :=
  List.filterMap_append

/-- A value that is taken out of a scope again leaves the scope that it was put into. -/
theorem Scope.leave_enter (name : String) (value : Value) (scope : Scope) :
    (scope.enter name value).leave name scope = scope := by
  unfold leave enter
  cases before : Fields.get? scope.fields name with
  | some old => exact congrArg mk ((Fields.set_set ..).trans (Fields.set_of_get? before))
  | none => exact congrArg mk (Fields.erase_set before value)

namespace Work

variable {First Second Result : Type}

/-! ### What work leaves in scope -/

/-- In whatever scope it is done, work leaves the scope as it was. -/
def Restores (work : Work Result) : Prop :=
  ∀ scope, (work scope).scope = scope

theorem restores_done (value : Result) : (done value).Restores :=
  fun _ => rfl

theorem Restores.map {work : Work First} (restores : work.Restores) (change : First → Second) :
    (Work.map change work).Restores :=
  restores

theorem Restores.andThen {first : Work First} {next : First → Work Second}
    (before : first.Restores) (after : ∀ value, (next value).Restores) :
    (Work.andThen first next).Restores := by
  intro scope
  show (next (first scope).value (first scope).scope).scope = scope
  rw [after, before]

/-- Only the name that was entered is put right, so the work has to do the same for all others. -/
theorem Restores.within {work : Work Result} (restores : work.Restores) (name : String)
    (entered : Value) : (Work.within name entered work).Restores := by
  intro scope
  show (work (scope.enter name entered)).scope.leave name scope = scope
  rw [restores, Scope.leave_enter]

/-! ### What work comes to -/

/-- In whatever scope it is done, work gives this value, reports these diagnostics and leaves the
scope as it was. -/
structure Yields (work : Work Result) (value : Result) (diagnostics : List Diagnostic) : Prop where
  gives : ∀ scope, (work scope).value = value
  reports : ∀ scope, reported (work scope).events = diagnostics
  restores : ∀ scope, (work scope).scope = scope

theorem Yields.toRestores {work : Work Result} {value : Result} {diagnostics : List Diagnostic}
    (yields : Yields work value diagnostics) : work.Restores :=
  yields.restores

theorem yields_done (value : Result) : Yields (done value) value [] :=
  ⟨fun _ => rfl, fun _ => rfl, fun _ => rfl⟩

theorem yields_log (level : Level) (speaker : Speaker) (event : String) (values : Fields) :
    Yields (log level speaker event values) () [] :=
  ⟨fun _ => rfl, fun _ => rfl, fun _ => rfl⟩

theorem yields_report (diagnostic : Diagnostic) : Yields (report diagnostic) () [diagnostic] :=
  ⟨fun _ => rfl, fun _ => rfl, fun _ => rfl⟩

theorem Yields.map {work : Work First} {value : First} {diagnostics : List Diagnostic}
    (yields : Yields work value diagnostics) (change : First → Second) :
    Yields (Work.map change work) (change value) diagnostics :=
  ⟨fun scope => congrArg change (yields.gives scope), yields.reports, yields.restores⟩

/-- What is done next begins in the scope in which the first work began. -/
theorem Yields.andThen {first : Work First} {next : First → Work Second} {value : First}
    {value' : Second} {diagnostics diagnostics' : List Diagnostic}
    (before : Yields first value diagnostics) (after : Yields (next value) value' diagnostics') :
    Yields (Work.andThen first next) value' (diagnostics ++ diagnostics') := by
  refine ⟨fun scope => ?_, fun scope => ?_, fun scope => ?_⟩
  · show (next (first scope).value (first scope).scope).value = value'
    rw [before.gives, after.gives]
  · show reported
        ((first scope).events ++ (next (first scope).value (first scope).scope).events) = _
    rw [reported_append, before.gives, before.reports, after.reports]
  · show (next (first scope).value (first scope).scope).scope = scope
    rw [before.gives, after.restores, before.restores]

theorem Yields.within {work : Work Result} {value : Result} {diagnostics : List Diagnostic}
    (yields : Yields work value diagnostics) (name : String) (entered : Value) :
    Yields (Work.within name entered work) value diagnostics :=
  ⟨fun _ => yields.gives _, fun _ => yields.reports _, yields.toRestores.within name entered⟩

/-! ### What work may log -/

/-- In whatever scope it is done, work logs no other records than these. -/
def LogsOnly (permitted : Record → Prop) (work : Work Result) : Prop :=
  ∀ scope, ∀ record ∈ logged (work scope).events, permitted record

variable {permitted : Record → Prop}

theorem LogsOnly.map {work : Work First} (logs : LogsOnly permitted work)
    (change : First → Second) : LogsOnly permitted (Work.map change work) :=
  logs

theorem LogsOnly.andThen {first : Work First} {next : First → Work Second}
    (before : LogsOnly permitted first) (after : ∀ value, LogsOnly permitted (next value)) :
    LogsOnly permitted (Work.andThen first next) := by
  intro scope record member
  have joint : record ∈ logged ((first scope).events ++
      (next (first scope).value (first scope).scope).events) := member
  rw [logged_append] at joint
  rcases List.mem_append.mp joint with earlier | later
  · exact before scope record earlier
  · exact after _ _ record later

theorem LogsOnly.within {work : Work Result} (logs : LogsOnly permitted work)
    (name : String) (entered : Value) : LogsOnly permitted (Work.within name entered work) :=
  fun scope => logs (scope.enter name entered)

end Work

end Log

end PolyIntake
