/-
This file defines what the program does with a command line. The switches in
front of the command are read first and the command is looked up; then the
settings are loaded, the switches and the source of the command are read, and
the source is worked on. The first thing that is wrong ends the program, and a
switch that asks for a text to be shown ends it as well.

Nothing here touches the outside: what the program finds there is given to it,
and what it leaves behind is its response.
-/

import PolyIntake.CommandLine.Usage
import PolyIntake.Report
import PolyIntake.Settings.Loading

namespace PolyIntake

namespace CommandLine

open Session (Task)

/-! ### Calls and responses -/

/-- A call of the program: the name by which it is called, its arguments, its standard input,
its surroundings, and the time for its log. -/
structure Call where
  program : String
  arguments : List String
  input : List UInt8
  surroundings : Surroundings
  timestamp : String

/-- Trouble that nobody handles and that ends the program as it is. -/
inductive Crash where
  | settings (error : Settings.LoadError)
  | zeroInPath
  | source (failure : Source.Failure)
  | report (fault : Report.Fault)

/-- The wording of trouble, line by line. -/
def Crash.lines : Crash → List String
  | .settings (.flawed findings) => findings.map Finding.text
  | .settings error => [error.message]
  | .zeroInPath => ["embedded null byte"]
  | .source failure => [failure.message]
  | .report fault => [fault.message]

/-- What the program leaves behind: its output, what it writes on the error channel, its exit
code, and trouble that nobody handled. -/
structure Response where
  output : String := ""
  errors : String := ""
  exit : Nat := 0
  crash : Option Crash := none

/-- What the error channel gets in the end: unhandled trouble is told behind all else. -/
def Response.allErrors (response : Response) : String :=
  response.errors ++
    String.join ((response.crash.elim [] Crash.lines).map fun text => "Error: " ++ text ++ "\n")

/-- The response that shows a text. -/
def Response.show (text : String) : Response := { output := text }

/-- The response to a misuse. -/
def Response.misused (call : Call) (task : Option Task) (misuse : Misuse) : Response :=
  { errors := complaint call.program task misuse, exit := 2 }

/-- The response that ends in unhandled trouble. -/
def Response.crashed (errors : String) (crash : Crash) : Response :=
  { errors := errors, exit := 1, crash := some crash }

/-! ### Settings -/

/-- The settings that the switches ask for. A switch that is not given counts as well: it asks
for the opposite. -/
def flags (reading : Reading) : Fields := [
  ("json_output", .bool (reading.has .json)),
  ("quiet", .bool (reading.has .quiet)),
  ("verbose", .bool (reading.has .verbose)),
  ("log_json", .bool (reading.has .logJson))]

/-- Goes on with the settings. A configuration file that breaks the rules of its format is
reported; other errors are not handled. -/
def withSettings (call : Call) (reading : Reading) (next : Settings → Response) : Response :=
  match Settings.load call.surroundings (reading.text? .config) none (flags reading) with
  | .ok settings => next settings
  | .error (.invalidFile path) =>
    { errors := Report.line ("Error: " ++ (Settings.LoadError.invalidFile path).message)
      exit := 1 }
  | .error error => .crashed "" (.settings error)

/-! ### Sources -/

/-- The argument that stands for the standard input. -/
def standardInput : String := "-"

/-- Opens a source. A source keeps the name that it was given by. -/
def openSource (call : Call) (path : String) : Except Misuse Source :=
  if path = standardInput then .ok (Source.ofBytes "<stdin>" call.input)
  else
    match (call.surroundings.look path).content with
    | .ok content => .ok (Source.ofBytes path content)
    | .error error => .error (.unopenable path error.reason)

/-- The source that the arguments of a command name. There may only be one. -/
def sourceOf (call : Call) : List String → Except Misuse Source
  | [] => openSource call standardInput
  | [path] => openSource call path
  | path :: extra =>
    match openSource call path with
    | .ok _ => .error (.extraArguments extra)
    | .error misuse => .error misuse

/-! ### Commands -/

/-- The outcome tells of refused lines. -/
def hasRejected (outcome : Outcome) : Bool :=
  (Fields.filled? outcome.data "rejected").isSome

/-- Works on a source and reports the outcome behind what happened on the way. -/
def work (call : Call) (settings : Settings) (task : Task) (strict : Bool) (source : Source) :
    Response :=
  let traced := Session.run settings task source {}
  let manner : Log.Manner := ⟨settings.verbose, settings.logJson⟩
  let errors := Log.transcript manner call.timestamp traced.events
  match traced.value with
  | .error failure => .crashed errors (.source failure)
  | .ok outcome =>
    let form := Report.formOf settings.jsonOutput settings.quiet
    match Report.emit form (strict && hasRejected outcome) outcome with
    | .error fault => .crashed errors (.report fault)
    | .ok emission =>
      { output := emission.output
        errors := errors ++ emission.errors
        exit := if emission.failed then 1 else 0 }

/-- Carries out a command with its arguments. -/
def carryOut (call : Call) (settings : Settings) (task : Task) (arguments : List String) :
    Response :=
  match read (taskSwitches task) true arguments with
  | .error misuse => .misused call (some task) misuse
  | .ok reading =>
    match reading.shows? with
    | some .examples => .show (examples call.program task)
    | some _ => .show (help call.program (some task))
    | none =>
      if reading.arguments.head?.any Path.holdsZero then .crashed "" .zeroInPath
      else
        match sourceOf call reading.arguments with
        | .error misuse => .misused call (some task) misuse
        | .ok source => work call settings task (reading.has .strict) source

/-! ### The program -/

/-- Goes on with the switches in front of a command, unless one of them asks for a text to be
shown. -/
def withGeneral (call : Call) (arguments : List String) (next : Reading → Response) : Response :=
  match read generalSwitches false arguments with
  | .error misuse => .misused call none misuse
  | .ok reading =>
    match reading.shows? with
    | some .version => .show version
    | some _ => .show (help call.program none)
    | none => next reading

/-- The response to a call. Without a command the help is shown, once the settings are known
to be good. Where no command has the name that was given, it may be a switch after all. -/
def respond (call : Call) : Response :=
  withGeneral call call.arguments fun reading =>
    match reading.arguments with
    | [] => withSettings call reading fun _ => .show (help call.program none)
    | name :: arguments =>
      match taskOf? name with
      | some task => withSettings call reading fun settings =>
        carryOut call settings task arguments
      | none => withGeneral call (name :: arguments) fun _ =>
        .misused call none (.unknownCommand name (Text.similar name (tasks.map Task.name)))

/-! ### What a call needs -/

/-- The paths at which a call may look for a configuration file. No links lead to the current
folder. -/
def configPaths (environment : Settings.Environment) (folder : String)
    (arguments : List String) : List String :=
  match read generalSwitches false arguments with
  | .error _ => []
  | .ok reading =>
    let named := (reading.text? .config).toList
    let pinned := (Settings.valueOf? environment Settings.fileVariable).toList
    let start := Path.resolve [] folder "."
    (named ++ pinned).map Path.normal ++ Path.ofSteps "/" start :: Settings.candidates start

/-- The source that a call works on, if it comes to that. -/
def sourcePath? (arguments : List String) : Option String :=
  match read generalSwitches false arguments with
  | .error _ => none
  | .ok reading =>
    match reading.shows?, reading.arguments with
    | none, name :: rest =>
      match taskOf? name with
      | some task =>
        match read (taskSwitches task) true rest with
        | .ok reading =>
          if reading.shows?.isSome then none
          else some (reading.arguments.head?.getD standardInput)
        | .error _ => none
      | none => none
    | _, _ => none

end CommandLine

end PolyIntake
