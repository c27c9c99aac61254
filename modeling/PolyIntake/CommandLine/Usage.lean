/-
This file holds what the command line tells about itself: its switches and
commands, the help for each of them, and examples of their use.
-/

import PolyIntake.CommandLine.Switches
import PolyIntake.Report
import PolyIntake.Session

namespace PolyIntake

namespace CommandLine

open Session (Task)

/-! ### Switches and commands -/

/-- The switch that shows help. -/
def helpSwitch : Switch :=
  ⟨.help, "--help", none, false, "Show this message and exit."⟩

/-- The switches in front of a command. -/
def generalSwitches : List Switch := [
  ⟨.version, "--version", none, false, "Show the version and exit."⟩,
  ⟨.json, "--json", none, false, "Structured JSON output."⟩,
  ⟨.quiet, "--quiet", some 'q', false, "Minimal output."⟩,
  ⟨.verbose, "--verbose", some 'v', false, "Debug logging of rejection reasons."⟩,
  ⟨.logJson, "--log-json", none, false, "Structured JSON log output to stderr."⟩,
  ⟨.config, "--config", some 'c', true, "Override config file path."⟩,
  helpSwitch]

/-- The switch that shows examples. -/
def examplesSwitch : Switch :=
  ⟨.examples, "--examples", none, false, "Show usage examples."⟩

/-- The switches of a command. -/
def taskSwitches : Task → List Switch
  | .parse => [⟨.strict, "--strict", none, false, "Exit 1 if any line is rejected."⟩,
    examplesSwitch, helpSwitch]
  | .check => [examplesSwitch, helpSwitch]

/-- The commands, in the order of their names. -/
def tasks : List Task := [.check, .parse]

/-- The command of a name. -/
def taskOf? (name : String) : Option Task :=
  tasks.find? fun task => task.name == name

/-- What a command does, in one sentence. -/
def taskSummary : Task → String
  | .parse => "Parse every line of SOURCE (default: stdin)."
  | .check => "Validate every line of SOURCE; exit 1 if any line is rejected."

/-- What else there is to know about a command. -/
def taskRemarks : Task → List String
  | .parse => ["Rejected lines are reported on stderr as ``ERROR <line> <message>``."]
  | .check => []

/-- Examples for a command. -/
def taskExamples : Task → List String
  | .parse => [
    "polycalc parse input.txt",
    "echo '(1,2)+(3,0)' | polycalc parse",
    "polycalc --json parse input.txt",
    "polycalc parse --strict input.txt"]
  | .check => [
    "polycalc check input.txt",
    "polycalc -q check input.txt && echo clean"]

/-! ### Help -/

/-- A line under a heading. -/
def indentedLine (text : String) : String := "  " ++ text ++ "\n"

/-- Names with what is said about them, in two columns. -/
def definitions (rows : List (String × String)) : String :=
  let width := (rows.map fun row => row.1.length).foldl max 0
  String.join (rows.map fun row => indentedLine (Log.padded (width + 2) row.1 ++ row.2))

/-- The forms of a switch. -/
def Switch.forms (switch : Switch) : String :=
  (match switch.short with
    | some letter => String.ofList ['-', letter, ',', ' ']
    | none => "") ++ switch.long ++ (if switch.takesText then " TEXT" else "")

/-- The part of a help text about switches. -/
def switchHelp (switches : List Switch) : String :=
  "\nOptions:\n" ++ definitions (switches.map fun switch => (switch.forms, switch.about))

/-- The name by which a command is called. -/
def callName (program : String) : Option Task → String
  | none => program
  | some task => program ++ " " ++ task.name

/-- The line that tells how a command is used. -/
def usageLine (program : String) (task : Option Task) : String :=
  "Usage: " ++ callName program task ++ " [OPTIONS] " ++
    (if task.isSome then "[SOURCE]" else "[COMMAND] [ARGS]...") ++ "\n"

/-- The help for the program or for one of its commands. -/
def help (program : String) (task : Option Task) : String :=
  usageLine program task ++
    match task with
    | some task =>
      String.join ((taskSummary task :: taskRemarks task).map fun text =>
        "\n" ++ indentedLine text) ++ switchHelp (taskSwitches task)
    | none =>
      "\n" ++ indentedLine "polycalc -- polynomial calculator input parser." ++
        switchHelp generalSwitches ++ "\nCommands:\n" ++
        definitions (tasks.map fun task => (task.name, taskSummary task))

/-- The examples for a command. -/
def examples (program : String) (task : Task) : String :=
  "Examples for '" ++ callName program (some task) ++ "':\n\n" ++
    String.join ((taskExamples task).map indentedLine)

/-- The version of the program. -/
def version : String := "polycalc, version 0.1.0\n"

/-- What is said about a misuse. -/
def complaint (program : String) (task : Option Task) (misuse : Misuse) : String :=
  (if misuse.recallsUsage then
    usageLine program task ++ "Try '" ++ callName program task ++ " --help' for help.\n\n"
  else "") ++ Report.line ("Error: " ++ misuse.message)

end CommandLine

end PolyIntake
