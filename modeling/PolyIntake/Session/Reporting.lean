/-
This file runs the reader with a reporter that may fail. A reporter is handed
the diagnostic of every refused line at once, and when it fails the run ends
there, in the middle of its lines, as it does when the source fails. A reader
keeps its reporter from one run to the next, and nothing else but the scope.
-/

import PolyIntake.Session

namespace PolyIntake

namespace Session

open Log

/-! ### Reporters -/

/-- A reporter: what it fails with when it is handed a diagnostic, if it fails. -/
abbrev Reporter := Diagnostic → Option Source.Failure

/-- The reporter that never fails. -/
def Reporter.reliable : Reporter := fun _ => none

/-- What a reporter fails with over a line. It is only called for refused lines. -/
def Reporter.failure? (reporter : Reporter) : Entry → Option Source.Failure
  | .rejected diagnostic => reporter diagnostic
  | _ => none

/-! ### Runs with a reporter -/

/-- Handles lines one after the other until the reporter fails. -/
def handleLinesUntil (reporter : Reporter) :
    List NumberedLine → Work (Except Source.Failure (List Entry))
  | [] => .done (.ok [])
  | line :: rest =>
    Work.andThen (handleLine line) fun entry =>
      match reporter.failure? entry with
      | some failure => .done (.error failure)
      | none => Work.map (Except.map (entry :: ·)) (handleLinesUntil reporter rest)

/-- Reads a source with its name in scope until it or the reporter fails. -/
def readSourceUntil (reporter : Reporter) (rules : InputRules) (source : Source) :
    Work (Except Source.Failure (List Entry)) :=
  .inSource source.name <|
    Work.andThen (handleLinesUntil reporter (rules.read source.lines)) fun
      | .error failure => .done (.error failure)
      | .ok entries =>
        match source.failure with
        | some failure => .done (.error failure)
        | none =>
          Work.map (fun _ => .ok entries)
            (.log .debug .service "stream parsed" (counts entries))

/-- Runs a task over a source with a reporter. A failure of the reporter is taken for one of the
source. -/
def runReporting (settings : Settings) (reporter : Reporter) (task : Task) (source : Source) :
    Work (Except Source.Failure Outcome) :=
  Work.andThen (readSourceUntil reporter settings.input source) fun
    | .ok entries => .done (.ok (task.outcome settings.output entries))
    | .error failure => task.cutShort failure

/-- Runs tasks one after the other, whatever comes of each. A run begins in the scope that the run
before it leaves behind. -/
def runAll (settings : Settings) (reporter : Reporter) :
    List (Task × Source) → Scope → List (Traced (Except Source.Failure Outcome))
  | [], _ => []
  | (task, source) :: rest, scope =>
    let traced := runReporting settings reporter task source scope
    traced :: runAll settings reporter rest traced.scope

end Session

end PolyIntake
