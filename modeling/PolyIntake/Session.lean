/-
This file runs the reader over a source. Every line is read, and reported if
it is refused, before the next one is looked at. Parsing lists what the lines
hold; checking only tells whether any line was refused.

A source that fails ends the run. The lines in front of the failure have been
reported by then, but the outcome holds nothing of them: it only names the
failure. Two kinds of failure are part of the job, reading trouble and
exhausted call depth; every other failure passes through.
-/

import PolyIntake.Log
import PolyIntake.Outcome
import PolyIntake.Settings

namespace PolyIntake

/-! ### Lines of a run -/

/-- A line as plain data: its kind, its written form or keyword, and its argument. -/
def Line.fields : Line → Fields
  | .poly value => [("kind", .string "poly"), ("value", .string value.text)]
  | .command request =>
    [("kind", .string "command"), ("value", .string request.keyword)] ++
      match request.argument? with
      | some argument => [("arg", .int argument)]
      | none => []

/-- A diagnostic as plain data. -/
def Diagnostic.fields (diagnostic : Diagnostic) : Fields :=
  [("line", .int diagnostic.line), ("message", .string diagnostic.complaint.text)]

/-- What became of a line. -/
inductive Entry where
  | skipped (number : Nat)
  | accepted (number : Nat) (line : Line)
  | rejected (diagnostic : Diagnostic)

/-- What becomes of a line that was read: it is accepted, or refused with a diagnostic. -/
def Entry.ofReading (number : Nat) : Except Diagnostic Line → Entry
  | .ok line => .accepted number line
  | .error diagnostic => .rejected diagnostic

namespace Session

open Log

/-- Reads a line. An accepted literal and a refusal of either kind are logged, and a refusal is
reported after that. -/
def readLine (number : Int) (text : List Char) : Work (Except Diagnostic Line) :=
  match Line.parse text with
  | .ok (.command command) => .done (.ok (.command command))
  | .ok (.poly poly) =>
    Work.map (fun _ => .ok (.poly poly))
      (.log .debug .grammar
        ("Parsed polynomial of " ++ Decimal.natText text.length ++ " characters") [])
  | .error error =>
    let diagnostic : Diagnostic := ⟨number, error.complaint⟩
    Work.andThen
      (.log .debug .lines
        ("Line " ++ Decimal.text number ++ " rejected as " ++ error.subject ++ ": " ++
          error.message) [])
      fun _ => Work.map (fun _ => .error diagnostic) (.report diagnostic)

/-- Reads a line with its number in scope, unless it is skipped. -/
def handleLine (line : NumberedLine) : Work Entry :=
  if line.skipped then .done (.skipped line.number)
  else
    Work.map (Entry.ofReading line.number)
      (.atLine line.number (readLine line.number line.text))

/-- Handles lines one after the other. -/
def handleLines : List NumberedLine → Work (List Entry)
  | [] => .done []
  | line :: rest =>
    Work.andThen (handleLine line) fun entry => Work.map (entry :: ·) (handleLines rest)

/-! ### The tally of a run -/

/-- The accepted lines. -/
def accepted (entries : List Entry) : List (Nat × Line) :=
  entries.filterMap fun
    | .accepted number line => some (number, line)
    | _ => none

/-- The diagnostics of the refused lines. -/
def rejected (entries : List Entry) : List Diagnostic :=
  entries.filterMap fun
    | .rejected diagnostic => some diagnostic
    | _ => none

/-- The numbers of the skipped lines. -/
def skipped (entries : List Entry) : List Nat :=
  entries.filterMap fun
    | .skipped number => some number
    | _ => none

/-- The counts of a run. -/
def counts (entries : List Entry) : Fields :=
  [("total", .int entries.length), ("accepted", .int (accepted entries).length),
    ("rejected", .int (rejected entries).length), ("skipped", .int (skipped entries).length)]

/-- An accepted line as plain data. -/
def itemValue (item : Nat × Line) : Value :=
  .record (("line", .int item.1) :: item.2.fields)

/-- A refused line as plain data. -/
def rejectedValue (diagnostic : Diagnostic) : Value :=
  .record diagnostic.fields

/-- The number in the record of a refused line. -/
def numberIn (record : Fields) : Value := (Fields.get? record "line").getD .null

/-! ### Runs -/

/-- Reads a whole source with its name in scope. A run that is not cut short by a failure of
the source ends with a record of the counts. -/
def readSource (rules : InputRules) (source : Source) :
    Work (Except Source.Failure (List Entry)) :=
  .inSource source.name <|
    Work.andThen (handleLines (rules.read source.lines)) fun entries =>
      match source.failure with
      | some failure => .done (.error failure)
      | none =>
        Work.map (fun _ => .ok entries)
          (.log .debug .service "stream parsed" (counts entries))

/-- The two things to do with a source. -/
inductive Task where
  | parse
  | check
  deriving DecidableEq

/-- The name of a task. -/
def Task.name : Task → String
  | .parse => "parse"
  | .check => "check"

/-- The outcome of a run over all lines. -/
def Task.outcome (task : Task) (output : OutputRules) (entries : List Entry) : Outcome :=
  match task with
  | .parse =>
    .success task.name <|
      [("items", .list ((accepted entries).map itemValue)),
        ("rejected", .list ((rejected entries).map rejectedValue)),
        ("counts", .record (counts entries))] ++
      if output.showSkipped then
        [("skipped", .list ((skipped entries).map fun (number : Nat) => Value.int number))]
      else []
  | .check =>
    let data : Fields := [("counts", .record (counts entries))]
    match rejected entries with
    | [] => .success task.name data
    | refused => .failure task.name data ⟨"REJECTED_LINES",
        Decimal.natText refused.length ++ " of " ++ Decimal.natText entries.length ++
          " lines rejected",
        [("lines", .list (refused.map fun diagnostic => numberIn diagnostic.fields))]⟩

/-- The outcome of a run that a failure of the source cut short, as far as it is part of the
job. It is logged outside of the scope of the source. -/
def Task.cutShort (task : Task) (failure : Source.Failure) :
    Work (Except Source.Failure Outcome) :=
  let unreadable :=
    Work.map
      (fun _ => .ok (.failure task.name []
        ⟨"READ_ERROR", "Cannot read input: " ++ failure.message, []⟩))
      (.log .warning .service "input read failed"
        [("op", .string task.name), ("error", .string failure.message)])
  match failure with
  | .device _ => unreadable
  | .undecodable _ => unreadable
  | .callDepth _ =>
    Work.map
      (fun _ => .ok (.failure task.name []
        ⟨"NESTING_ERROR", "Input nested too deeply", []⟩))
      (.log .error .service "input exhausted the call stack" [("op", .string task.name)])
  | .other message => .done (.error (.other message))

/-- Runs a task over a source. -/
def run (settings : Settings) (task : Task) (source : Source) :
    Work (Except Source.Failure Outcome) :=
  Work.andThen (readSource settings.input source) fun
    | .ok entries => .done (.ok (task.outcome settings.output entries))
    | .error failure => task.cutShort failure

end Session

end PolyIntake
