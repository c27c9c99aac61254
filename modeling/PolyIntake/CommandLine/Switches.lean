/-
This file reads the switches of a command line. A long switch begins with two
dashes, and its text may be joined to it by an equals sign. A short one is a
dash and a letter; several may share a dash, and the text of the last one may
be joined to it. Two dashes alone end the switches. A single dash is no switch.

Switches may stand between the arguments of a command, but those in front of a
command end with its name.
-/

import PolyIntake.Text.Quoted
import PolyIntake.Text.Similar

namespace PolyIntake

namespace CommandLine

/-! ### Switches -/

/-- What a switch asks for. -/
inductive Meaning where
  | version
  | json
  | quiet
  | verbose
  | logJson
  | config
  | strict
  | examples
  | help
  deriving DecidableEq

/-- A switch: its long and short form, whether it takes a text, and what it does. -/
structure Switch where
  meaning : Meaning
  long : String
  short : Option Char
  takesText : Bool
  about : String

/-- A switch that was given, with its text if it takes one. -/
structure Given where
  meaning : Meaning
  text : String

/-! ### Misuse -/

/-- How a command line is misused. -/
inductive Misuse where
  | unknownCommand (name : String) (similar : List String)
  | unknownSwitch (name : String) (similar : List String)
  | missingText (name : String)
  | unwantedText (name : String)
  | extraArguments (arguments : List String)
  | unopenable (path reason : String)

namespace Misuse

/-- A question about similar names, if there are any. -/
def question (similar : List String) : String :=
  match similar.mergeSort (fun left right => left ≤ right) with
  | [] => ""
  | [name] => " Did you mean " ++ Text.quotedText name ++ "?"
  | names =>
    " (Did you mean one of: " ++ ", ".intercalate (names.map Text.quotedText) ++ "?)"

/-- The wording of a misuse. -/
def message : Misuse → String
  | unknownCommand name similar =>
    "No such command " ++ Text.quotedText name ++ "." ++ question similar
  | unknownSwitch name similar =>
    "No such option " ++ Text.quotedText name ++ "." ++ question similar
  | missingText name => "Option " ++ Text.quotedText name ++ " requires an argument."
  | unwantedText name => "Option " ++ Text.quotedText name ++ " does not take a value."
  | extraArguments [argument] => "Got unexpected extra argument (" ++ argument ++ ")"
  | extraArguments arguments =>
    "Got unexpected extra arguments (" ++ " ".intercalate arguments ++ ")"
  | unopenable path reason =>
    "Invalid value for '[SOURCE]': '" ++ path ++ "': " ++ reason

/-- The usage is recalled, except where a switch is only given the wrong way. -/
def recallsUsage : Misuse → Bool
  | missingText _ => false
  | unwantedText _ => false
  | _ => true

end Misuse

/-! ### Reading switches -/

/-- The switches in one argument: those that are complete, and one that takes its text from
the next argument, under the name by which it was given. -/
structure Cluster where
  complete : List Given
  waiting : Option (Meaning × String)

/-- Reads short switches behind their dash. -/
def readShort (switches : List Switch) : List Char → Except Misuse Cluster
  | [] => .ok ⟨[], none⟩
  | letter :: rest =>
    let name := String.ofList ['-', letter]
    match switches.find? fun switch => switch.short == some letter with
    | none => .error (.unknownSwitch name [])
    | some switch =>
      if switch.takesText then
        if rest.isEmpty then .ok ⟨[], some (switch.meaning, name)⟩
        else .ok ⟨[⟨switch.meaning, String.ofList rest⟩], none⟩
      else (readShort switches rest).map fun cluster =>
        { cluster with complete := ⟨switch.meaning, ""⟩ :: cluster.complete }

/-- Reads an argument that begins with a dash. It is taken for a long switch first, and for
short ones if it begins with one dash only. -/
def readArgument (switches : List Switch) (argument : List Char) : Except Misuse Cluster :=
  let front := argument.takeWhile (· ≠ '=')
  let joined := argument.drop front.length
  let name := String.ofList front
  match switches.find? fun switch => switch.long == name with
  | some switch =>
    match switch.takesText, joined with
    | true, [] => .ok ⟨[], some (switch.meaning, name)⟩
    | true, _ :: text => .ok ⟨[⟨switch.meaning, String.ofList text⟩], none⟩
    | false, [] => .ok ⟨[⟨switch.meaning, ""⟩], none⟩
    | false, _ :: _ => .error (.unwantedText name)
  | none =>
    match argument with
    | '-' :: '-' :: _ =>
      .error (.unknownSwitch name (Text.similar name (switches.map Switch.long)))
    | _ => readShort switches argument.tail

/-- The switches and the arguments of a command line. -/
structure Reading where
  given : List Given
  arguments : List String

/-- An argument that is read as a switch. -/
def isSwitch (argument : String) : Bool :=
  argument.toList.head? = some '-' && argument.length ≠ 1

/-- Reads switches up to the first argument, or between all arguments where they may stand
there. -/
def read (switches : List Switch) (between : Bool) : List String → Except Misuse Reading
  | [] => .ok ⟨[], []⟩
  | argument :: rest =>
    if argument == "--" then .ok ⟨[], rest⟩
    else if isSwitch argument then
      match readArgument switches argument.toList with
      | .error misuse => .error misuse
      | .ok ⟨complete, none⟩ => (read switches between rest).map fun reading =>
        { reading with given := complete ++ reading.given }
      | .ok ⟨complete, some (meaning, name)⟩ =>
        match rest with
        | [] => .error (.missingText name)
        | text :: rest => (read switches between rest).map fun reading =>
          { reading with given := complete ++ ⟨meaning, text⟩ :: reading.given }
    else if between then (read switches between rest).map fun reading =>
      { reading with arguments := argument :: reading.arguments }
    else .ok ⟨[], argument :: rest⟩

namespace Reading

/-- A switch was given. -/
def has (reading : Reading) (meaning : Meaning) : Bool :=
  reading.given.any fun given => given.meaning == meaning

/-- The text of a switch. Of several the last counts. -/
def text? (reading : Reading) (meaning : Meaning) : Option String :=
  (reading.given.reverse.find? fun given => given.meaning == meaning).map Given.text

/-- The first switch that only asks for a text to be shown. -/
def shows? (reading : Reading) : Option Meaning :=
  (reading.given.find? fun given =>
    given.meaning == .version || given.meaning == .examples || given.meaning == .help).map
      Given.meaning

end Reading

end CommandLine

end PolyIntake
