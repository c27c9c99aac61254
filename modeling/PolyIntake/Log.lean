/-
This file defines the log. A record has a level, the part of the program that
speaks, an event in words and values of its own. While a source is read its
name is in scope, and while a line is read so is its number; a record carries
what was in scope when it was made. Whatever enters a scope leaves it again,
also when a source fails, so the scope behind a run is the scope before it.

Records are written in one of two forms: as a JSON object with its keys in
order, or as a line for people in which values are only quoted where a reader
could mistake them.
-/

import PolyIntake.Json.Printer
import PolyIntake.Line
import PolyIntake.Value.Display

namespace PolyIntake

namespace Log

/-! ### Records -/

/-- How much a record matters. -/
inductive Level where
  | debug
  | warning
  | error
  deriving DecidableEq

/-- The word for a level. -/
def Level.name : Level → String
  | .debug => "debug"
  | .warning => "warning"
  | .error => "error"

/-- The parts of the program that write records. -/
inductive Speaker where
  | grammar
  | lines
  | service
  deriving DecidableEq

/-- The name that a speaker goes by. -/
def Speaker.name : Speaker → String
  | .grammar => "polycalc.parsing.grammar"
  | .lines => "polycalc.parsing.lines"
  | .service => "polycalc.services.parse"

/-- What is in scope: values under their names. Whoever uses the program may have put some there
before. -/
structure Scope where
  fields : Fields := []

/-- A scope with a value put into it, in place of one that had the name. -/
def Scope.enter (name : String) (value : Value) (scope : Scope) : Scope :=
  ⟨Fields.set scope.fields name value⟩

/-- A scope in which a name has the value again that it had in another scope, or none. -/
def Scope.leave (scope : Scope) (name : String) (before : Scope) : Scope :=
  match Fields.get? before.fields name with
  | some value => scope.enter name value
  | none => ⟨Fields.erase scope.fields name⟩

/-- A record of the log. -/
structure Record where
  level : Level
  speaker : Speaker
  event : String
  values : Fields
  scope : Scope

/-- The values of a record with what was in scope; its own values come first in doubt. -/
def Record.fields (record : Record) : Fields :=
  record.values.foldl (fun fields field => Fields.set fields field.1 field.2) record.scope.fields

/-- A record is written unless it is too small a matter for a log that is not verbose. -/
def Record.isWritten (verbose : Bool) (record : Record) : Bool :=
  verbose || record.level != .debug

/-! ### Written records -/

/-- Fields in the order of their names. -/
def sorted (fields : Fields) : Fields :=
  fields.mergeSort fun left right => left.1 ≤ right.1

/-- A record as a JSON object, given the time at which it was made. -/
def Record.json (record : Record) (timestamp : String) : String :=
  Json.line (.record (sorted (record.fields ++ [
    ("event", .string record.event),
    ("level", .string record.level.name),
    ("logger", .string record.speaker.name),
    ("timestamp", .string timestamp)])))

/-- A text filled up with blanks to a width. -/
def padded (width : Nat) (text : String) : String :=
  text ++ String.ofList (List.replicate (width - text.length) ' ')

/-- A character that makes a value hard to tell from what surrounds it. -/
def needsQuotes (char : Char) : Bool :=
  char == ' ' || char == '\t' || char == '=' || char == '\r' || char == '\n' || char == '"' ||
    char == '\''

/-- A value of a record for people. -/
def valueText : Value → String
  | .string text => if text.toList.any needsQuotes then Text.quotedText text else text
  | value => value.inspect

/-- A text without the blanks at its end. -/
def trimmed (text : String) : String :=
  String.ofList (text.toList.reverse.dropWhile (· == ' ')).reverse

/-- A record as a line for people, given the time at which it was made. -/
def Record.console (record : Record) (timestamp : String) : String :=
  let head := [timestamp, "[" ++ padded 9 record.level.name ++ "]", padded 30 record.event,
    "[" ++ record.speaker.name ++ "]"]
  let values := (sorted record.fields).map fun field => field.1 ++ "=" ++ valueText field.2
  trimmed (" ".intercalate (head ++ values))

/-- A record in the chosen form. -/
def Record.text (record : Record) (asJson : Bool) (timestamp : String) : String :=
  if asJson then record.json timestamp else record.console timestamp

/-! ### What happens during a run -/

/-- Something that a run makes known while it goes on. -/
inductive Event where
  | logged (record : Record)
  | reported (diagnostic : Diagnostic)

/-- How what happens is made known on the error channel: small matters are written or not,
and records have one of their two forms. -/
structure Manner where
  verbose : Bool
  asJson : Bool

/-- What the error channel gets for an event, without its line break. The time is given from
outside. -/
def Event.line? (manner : Manner) (timestamp : String) : Event → Option String
  | .logged record =>
    if record.isWritten manner.verbose then some (record.text manner.asJson timestamp) else none
  | .reported diagnostic => some diagnostic.text

/-- What the error channel gets for a run of events. -/
def transcript (manner : Manner) (timestamp : String) (events : List Event) : String :=
  String.join ((events.filterMap (Event.line? manner timestamp)).map (· ++ "\n"))

/-- The outcome of some work: its value, what it made known, in order, and the scope that it
leaves behind. -/
structure Traced (Result : Type) where
  value : Result
  events : List Event
  scope : Scope

/-- Work that is done within a scope. -/
abbrev Work (Result : Type) := Scope → Traced Result

namespace Work

/-- A value without any work. -/
def done {Result : Type} (value : Result) : Work Result :=
  fun scope => ⟨value, [], scope⟩

/-- Work with its value changed. -/
def map {First Second : Type} (change : First → Second) (work : Work First) : Work Second :=
  fun scope =>
    let before := work scope
    ⟨change before.value, before.events, before.scope⟩

/-- One piece of work after another. -/
def andThen {First Second : Type} (first : Work First) (next : First → Work Second) :
    Work Second :=
  fun scope =>
    let before := first scope
    let after := next before.value before.scope
    ⟨after.value, before.events ++ after.events, after.scope⟩

/-- Writes a record. -/
def log (level : Level) (speaker : Speaker) (event : String) (values : Fields) : Work Unit :=
  fun scope => ⟨(), [.logged ⟨level, speaker, event, values, scope⟩], scope⟩

/-- Reports a diagnostic. -/
def report (diagnostic : Diagnostic) : Work Unit :=
  fun scope => ⟨(), [.reported diagnostic], scope⟩

/-- Does work with a value in scope. Behind it the name of the value has what it had before, and
all other names have what the work left them. -/
def within {Result : Type} (name : String) (value : Value) (work : Work Result) : Work Result :=
  fun scope =>
    let inner := work (scope.enter name value)
    { inner with scope := inner.scope.leave name scope }

/-- Does work while a source is read. -/
def inSource {Result : Type} (name : String) : Work Result → Work Result :=
  within "source" (.string name)

/-- Does work while a line is read. -/
def atLine {Result : Type} (number : Nat) : Work Result → Work Result :=
  within "line_no" (.int number)

end Work

end Log

end PolyIntake
