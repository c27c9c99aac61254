/-
This file loads the settings of a run. They come from three sources: what the
caller asks for, the environment, and a configuration file. Each source goes
before the ones behind it, field by field, and what no source tells has its
standard value.

The configuration file is the one that the caller names, or else the one that
the environment names, or else the nearest one at or above a folder. A name
that leads to no file leaves the run without a configuration file; it is not
looked for elsewhere. Where the system fails to tell whether a file stands at a
path, no settings are loaded.
-/

import PolyIntake.Path
import PolyIntake.Settings.Environment
import PolyIntake.Toml.Parser

namespace PolyIntake

/-- The surroundings of a run: the variables of the environment, the current folder, what stands at
a path, and the links of the file system. -/
structure Surroundings where
  environment : Settings.Environment
  folder : String
  look : String → Place
  links : Path.Links := []

namespace Settings

/-! ### Errors -/

/-- Why settings cannot be loaded: the system fails at a path, the folder to start from leads in a
circle or has a path that no system takes, the configuration file breaks the rules of its format,
has an overlong number or is no text, a variable for a section is no document, or the settings have
flaws. -/
inductive LoadError where
  | inaccessible (path : String) (error : SystemError)
  | circular (path : String)
  | zeroInPath
  | invalidFile (path : String)
  | overlong (digits : Nat)
  | undecodable (fault : Utf8.Fault)
  | invalidVariable (name : String)
  | flawed (findings : List Finding)

/-- The wording of an error. What the rules of the format say about an invalid file is left out, and
flaws are worded one by one. -/
def LoadError.message : LoadError → String
  | .inaccessible path error => error.message path
  | .circular path => "Symlink loop from " ++ Text.quotedText path
  | .zeroInPath => "embedded null byte"
  | .invalidFile path => "Invalid TOML in " ++ path
  | .overlong digits => (Decimal.Overlong.read digits).message
  | .undecodable fault => fault.message
  | .invalidVariable name =>
    "error parsing value for field \"" ++ name ++ "\" from source \"EnvSettingsSource\""
  | .flawed _ => ""

/-! ### The configuration file -/

/-- The name of configuration files. -/
def fileName : String := "polycalc.toml"

/-- The variable that names the configuration file. -/
def fileVariable : String := "POLYCALC_CONFIG"

/-- The paths at which a configuration file is looked for, seen from the folder with the given
steps. -/
def candidates (folder : List String) : List String :=
  (Path.atOrAbove folder).map fun folder => Path.ofSteps "/" (folder ++ [fileName])

/-- A path if a file stands there. -/
def ifFile (surroundings : Surroundings) (path : String) : Except LoadError (Option String) :=
  match (surroundings.look path).isFile with
  | .ok true => .ok (some path)
  | .ok false => .ok none
  | .error error => .error (.inaccessible path error)

/-- The steps to the folder from which a configuration file is looked for. Where nobody names one it
is the current folder. -/
def startFolder (surroundings : Surroundings) (start : Option String) :
    Except LoadError (List String) :=
  let path := start.getD "."
  if Path.holdsZero path then .error .zeroInPath
  else
    let folder := Path.resolve surroundings.links surroundings.folder path
    if (surroundings.look (Path.ofSteps "/" folder)).isCircular then
      .error (.circular (Path.ofSteps "/" folder))
    else .ok folder

/-- The nearest configuration file. -/
def nearestFile (surroundings : Surroundings) (start : Option String) :
    Except LoadError (Option String) := do
  let folder ← startFolder surroundings start
  (candidates folder).findSomeM? (ifFile surroundings)

/-- The configuration file that the environment names, or the nearest one. A variable without
a value names none. -/
def findFile (surroundings : Surroundings) (start : Option String) :
    Except LoadError (Option String) :=
  match valueOf? surroundings.environment fileVariable with
  | some "" => nearestFile surroundings start
  | some path => ifFile surroundings (Path.normal path)
  | none => nearestFile surroundings start

/-- The configuration file of a run. An empty name is no name. -/
def chooseFile (surroundings : Surroundings) (named start : Option String) :
    Except LoadError (Option String) :=
  match named with
  | some "" => findFile surroundings start
  | some path => ifFile surroundings (Path.normal path)
  | none => findFile surroundings start

/-! ### Loading -/

/-- The fields of a configuration file. -/
def readFile (surroundings : Surroundings) (path : String) : Except LoadError Fields :=
  match surroundings.look path with
  | .file (.error error) => .error (.inaccessible path error)
  | .file (.ok content) =>
    match Utf8.decodeAll content with
    | .error fault => .error (.undecodable fault)
    | .ok text =>
      match Toml.parse (Source.normalizeLineEnds text) with
      | .ok fields => .ok fields
      | .error .malformed => .error (.invalidFile path)
      | .error (.overlong digits) => .error (.overlong digits)
  | _ => .ok []

/-- The fields of the configuration file, if there is one. -/
def storedFields (surroundings : Surroundings) : Option String → Except LoadError Fields
  | some path => readFile surroundings path
  | none => .ok []

/-- The fields of all sources together, from the flags of the caller. What a source tells is merged
into what the sources behind it tell, and the flags go first. -/
def gather (surroundings : Surroundings) (file : Option String) (flags : Fields) :
    Except LoadError Fields := do
  let stored ← storedFields surroundings file
  let told ← (ofEnvironment surroundings.environment).mapError .invalidVariable
  .ok (merge stored (merge told (properFlags flags)))

/-- Work on settings. The configuration file is handed over from the one who chooses it to the one
who makes the settings. -/
abbrev Handing (Result : Type) := StateM (Option String) Result

/-- Makes settings from the flags of a caller, with the configuration file that was handed over. -/
def make (surroundings : Surroundings) (flags : Fields) : Handing (Except LoadError Settings) := do
  let file ← get
  return do
    let fields ← gather surroundings file flags
    (ofFields fields).mapError .flawed

/-- The configuration file as a flag. It goes before any other path that is told. -/
def fileFlag : Option String → String × Value
  | some path => ("config_path", .string path)
  | none => ("config_path", .null)

/-- Chooses the configuration file and hands it over for making the settings. Whatever comes of
that, nothing remains handed over. Where the choice fails, nothing is. -/
def loadHanding (surroundings : Surroundings) (named start : Option String) (flags : Fields) :
    Handing (Except LoadError Settings) :=
  match chooseFile surroundings named start with
  | .error error => return .error error
  | .ok file => do
    set file
    let outcome ← make surroundings (fileFlag file :: flags)
    set (none : Option String)
    return outcome

/-- The settings of a run. -/
def load (surroundings : Surroundings) (named start : Option String) (flags : Fields) :
    Except LoadError Settings :=
  ((loadHanding surroundings named start flags).run none).1

end Settings

end PolyIntake
