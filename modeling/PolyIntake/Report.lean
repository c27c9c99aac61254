/-
This file shows outcomes. There are three forms: a JSON document for programs,
a terse one with one value for each accepted line, and a full one for people,
which is laid out for a terminal of 120 cells. The terminal is never addressed:
nothing is coloured, and control characters that would move the cursor are left
out of what is laid out.
-/

import PolyIntake.Json.Printer
import PolyIntake.Outcome
import PolyIntake.Report.Table
import PolyIntake.Settings
import PolyIntake.Text.Markup
import PolyIntake.Text.Sequences
import PolyIntake.Value.Display

namespace PolyIntake

namespace Report

open Text

/-! ### Forms and faults -/

/-- The forms of a report. -/
inductive Form where
  | document
  | terse
  | full
  deriving DecidableEq

/-- The form that is asked for; a document goes before brevity. -/
def formOf (jsonOutput quiet : Bool) : Form :=
  if jsonOutput then .document else if quiet then .terse else .full

/-- Why an outcome cannot be shown: an item lacks a field, something is asked of a value whose
kind does not have it, the number of a line is marked up wrongly, or a document has too many
levels. -/
inductive Fault where
  | lacking (field : String)
  | noFields (kind : Value.Kind)
  | noSearch (kind : Value.Kind)
  | noMembers (kind : Value.Kind)
  | noPairs (kind : Value.Kind)
  | noLetters (kind : Value.Kind)
  | markup (fault : Markup.Fault)
  | tooDeep
  deriving DecidableEq

/-- The word for a kind of values in messages. -/
def kindWord : Value.Kind → String
  | .null => "NoneType"
  | .bool => "bool"
  | .int => "int"
  | .float => "float"
  | .string => "str"
  | .list => "list"
  | .record => "dict"
  | .moment => "date"

/-- The wording of a fault. -/
def Fault.message : Fault → String
  | .lacking field => Text.quotedText field
  | .noFields .string => "string indices must be integers, not 'str'"
  | .noFields .list => "list indices must be integers or slices, not str"
  | .noFields kind => "'" ++ kindWord kind ++ "' object is not subscriptable"
  | .noSearch kind => "argument of type '" ++ kindWord kind ++ "' is not iterable"
  | .noMembers kind => "'" ++ kindWord kind ++ "' object is not iterable"
  | .noPairs kind => "'" ++ kindWord kind ++ "' object has no attribute 'items'"
  | .noLetters kind => "'" ++ kindWord kind ++ "' object has no attribute 'translate'"
  | .markup fault => fault.message
  | .tooDeep => "Error serializing to JSON: ValueError: Maximum serialization depth exceeded"

/-! ### Items -/

/-- A field of an item. -/
def demand (item : Value) (name : String) : Except Fault Value :=
  match item with
  | .record fields =>
    match Fields.get? fields name with
    | some value => .ok value
    | none => .error (.lacking name)
  | other => .error (.noFields other.kind)

/-- An item has an argument. Only what has parts can be searched for one. -/
def hasArgument : Value → Except Fault Bool
  | .record fields => .ok (Fields.get? fields "arg").isSome
  | .list _ => .ok false
  | .string _ => .ok false
  | other => .error (.noSearch other.kind)

/-- The value of an item, followed by its argument if it has one. -/
def itemText (item : Value) : Except Fault String := do
  let argument ← hasArgument item
  let value ← demand item "value"
  if argument then
    let argument ← demand item "arg"
    .ok (value.display ++ " " ++ argument.display)
  else .ok value.display

/-- The accepted lines among the data of an outcome. A text stands for its characters, and a
record for its names. -/
def items (data : Fields) : Except Fault (List Value) :=
  match Fields.filled? data "items" with
  | none => .ok []
  | some (.list members) => .ok members
  | some (.string text) => .ok (text.toList.map fun char => .string (String.ofList [char]))
  | some (.record fields) => .ok (fields.map fun field => .string field.1)
  | some other => .error (.noMembers other.kind)

/-- The wording of the problem. -/
def problemText (outcome : Outcome) : String :=
  match outcome.problem with
  | some problem => problem.message
  | none => "Unknown error"

/-! ### The terse form -/

/-- One value for each accepted line, or a word about the operation. -/
def terse (outcome : Outcome) : Except Fault String :=
  if outcome.ok then do
    match ← items outcome.data with
    | [] => .ok ("OK: " ++ outcome.operation)
    | members => (members.mapM itemText).map fun texts => "\n".intercalate texts
  else .ok ("ERROR: " ++ outcome.operation ++ " - " ++ problemText outcome)

/-! ### The full form -/

/-- The width of the terminal that reports are laid out for. -/
def terminalWidth : Nat := 120

/-- A control character that would ring, or move the cursor back or down. -/
def movesCursor (char : Char) : Bool :=
  inRanges #[(0x07, 0x08), (0x0B, 0x0D)] char.toNat

/-- A text as it can be laid out. -/
def layable (text : String) : List Char :=
  text.toList.filter fun char => !movesCursor char

/-- A paragraph, line by line. -/
def paragraph (text : String) : List (List Char) :=
  wrap .loose true terminalWidth (layable text)

/-- The name of the style for a kind of item; other kinds have none. -/
def kindStyle (kind : String) : String :=
  if kind = "poly" ∨ kind = "command" then "pc.kind." ++ kind else ""

/-- The counts of a run on one line. -/
def countsText : Option Value → Except Fault String
  | none => .ok ""
  | some (.record counts) =>
    .ok ("  ".intercalate (counts.map fun count => count.1 ++ "=" ++ count.2.display))
  | some other => .error (.noPairs other.kind)

/-- The columns of the table of accepted lines. -/
def columns : List Column :=
  [⟨"Line".toList, .right⟩, ⟨"Kind".toList, .left⟩, ⟨"Value".toList, .left⟩]

/-- A kind of items, which has to be a text. -/
def kindText : Value → Except Fault String
  | .string text => .ok text
  | other => .error (.noLetters other.kind)

/-- The texts of an item in the order of the columns. The kind is looked for first. -/
def itemTexts (item : Value) : Except Fault (String × String × String) := do
  let kind ← demand item "kind"
  let line ← demand item "line"
  let kind ← kindText kind
  let value ← itemText item
  .ok (line.display, kind, value)

/-- The cells of a row. The first is read as marked-up text. -/
def cellsOfRow (row : String × String × String) : Except Fault (List (List Char)) :=
  let (line, kind, value) := row
  match Markup.plainText line.toList with
  | .error fault => .error (.markup fault)
  | .ok line => .ok [layable (String.ofList line), layable kind, layable value]

/-- The table of the accepted lines, or no table where there are none. -/
def itemTable (data : Fields) : Except Fault (List (List Char)) := do
  match ← items data with
  | [] => .ok []
  | members =>
    let rows ← members.mapM itemTexts
    (rows.mapM cellsOfRow).map (table terminalWidth columns)

/-- The lines of the full form. -/
def fullLines (outcome : Outcome) : Except Fault (List (List Char)) := do
  let data := outcome.data
  let status := paragraph ("OK   " ++ outcome.operation)
  if outcome.ok then
    match outcome.operation with
    | "parse" =>
      let table ← itemTable data
      let counts ← countsText (Fields.get? data "counts")
      .ok (status ++ table ++ paragraph counts)
    | "check" =>
      let counts ← countsText (Fields.get? data "counts")
      .ok (status ++ paragraph counts)
    | _ => .ok (status ++ data.flatMap fun field =>
      paragraph ("  " ++ field.1 ++ ": " ++ field.2.display))
  else
    let status := paragraph ("ERROR   " ++ outcome.operation ++ " " ++ problemText outcome)
    match Fields.filled? data "counts" with
    | none => .ok status
    | counts => (countsText counts).map fun counts => status ++ paragraph counts

/-- Lines as a text without empty lines at its end. -/
def joinLines (lines : List (List Char)) : String :=
  let text := List.intercalate ['\n'] lines
  String.ofList (text.reverse.dropWhile (· = '\n')).reverse

/-! ### Reports -/

/-- The most levels of a value in the data of an outcome, or in what details a problem, that a
document has room for. -/
def deepest : Nat := 255

/-- No value of some fields has too many levels for a document. -/
def fits (fields : Fields) : Bool :=
  fields.all fun field => field.2.levels ≤ deepest

/-- The fields that detail the problem. -/
def problemDetail (outcome : Outcome) : Fields :=
  match outcome.problem with
  | some problem => problem.detail
  | none => []

/-- An outcome as a document. -/
def document (outcome : Outcome) : Except Fault String :=
  if fits outcome.data && fits (problemDetail outcome) then .ok (Json.document outcome.value)
  else .error .tooDeep

/-- An outcome in a form. -/
def text (form : Form) (outcome : Outcome) : Except Fault String :=
  match form with
  | .document => document outcome
  | .terse => terse outcome
  | .full => (fullLines outcome).map joinLines

/-! ### Emission -/

/-- What a program leaves behind: its output, what it writes on the error channel, and whether
it failed. -/
structure Emission where
  output : String := ""
  errors : String := ""
  failed : Bool := false

/-- A text on a line of its own, as it is sent to a channel that is no terminal: without
sequences that only a terminal understands. -/
def line (text : String) : String :=
  String.ofList (withoutSequences text.toList) ++ "\n"

/-- Emits the report of an outcome. What did its job goes to the output, with its warnings on
the error channel unless the report is a document; it may still be asked to fail. What did not
goes to the error channel and fails. -/
def emit (form : Form) (fail : Bool) (outcome : Outcome) : Except Fault Emission :=
  (text form outcome).map fun report =>
    if outcome.ok then
      { output := line report
        errors :=
          if form = .document then ""
          else String.join (outcome.warnings.map fun warning => line ("WARNING: " ++ warning))
        failed := fail }
    else { errors := line report, failed := true }

end Report

end PolyIntake
