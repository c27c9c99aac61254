/-
This file runs the program. It gathers what a call needs from the outside, lets
the call be answered, and passes the response on.
-/

import PolyIntake.CommandLine
import Std.Time.Format

namespace PolyIntake

namespace Main

/-! ### The outside -/

/-- Bytes cut at zero bytes. -/
def cutAtZeros (bytes : List UInt8) : List (List UInt8) :=
  bytes.foldr
    (fun byte pieces =>
      match byte, pieces with
      | 0, pieces => [] :: pieces
      | byte, [] => [[byte]]
      | byte, piece :: rest => (byte :: piece) :: rest)
    []

/-- A variable of the environment from its name, an equals sign and its value. -/
def variableOf? (bytes : List UInt8) : Option (String × String) :=
  match Utf8.decodeAll bytes with
  | .error _ => none
  | .ok text =>
    let name := text.takeWhile (· ≠ '=')
    some (String.ofList name, String.ofList (text.drop (name.length + 1)))

/-- The variables of the environment. -/
def environment : IO Settings.Environment := do
  let bytes ← IO.FS.readBinFile "/proc/self/environ"
  return (cutAtZeros bytes.toList).filterMap variableOf?

/-- How the system words its failures at a path. -/
def reasons : List (Nat × String) := [
  (1, "Operation not permitted"),
  (2, "No such file or directory"),
  (5, "Input/output error"),
  (13, "Permission denied"),
  (20, "Not a directory"),
  (21, "Is a directory"),
  (36, "File name too long"),
  (40, "Too many levels of symbolic links")]

/-- A failure from its number, which is given with either sign. -/
def failureOf (code : UInt32) (details : String) : SystemError :=
  let number := min code.toNat (0 - code).toNat
  ⟨number, (reasons.lookup number).getD details⟩

/-- What went wrong at a path. -/
def systemErrorOf : IO.Error → SystemError
  | .noFileOrDirectory _ code details => failureOf code details
  | .inappropriateType _ code details => failureOf code details
  | .invalidArgument _ code details => failureOf code details
  | .permissionDenied _ code details => failureOf code details
  | .resourceExhausted _ code details => failureOf code details
  | .noSuchThing _ code details => failureOf code details
  | .hardwareFault code details => failureOf code details
  | .otherError code details => failureOf code details
  | error => ⟨0, error.toString⟩

/-- The bytes that stand at a path. -/
def bytesAt (path : String) : IO (Except SystemError (List UInt8)) := do
  try
    return .ok (← IO.FS.readBinFile path).toList
  catch error => return .error (systemErrorOf error)

/-- What stands at a path. Nothing but a file or the source is read. -/
def lookAt (source : Option String) (path : String) : IO Place := do
  -- An entry takes the text of the path as a path, which tells its kind.
  let entry : IO.FS.DirEntry := { root := path, fileName := "" }
  try
    match (← entry.root.metadata).type with
    | .dir => return .folder
    | .file => return .file (← bytesAt path)
    | _ => return .device (← if source = some path then bytesAt path else pure (.ok []))
  catch error => return .failing (systemErrorOf error)

/-- The time, to the microsecond. -/
def timestamp : IO String := do
  let now := Std.Time.DateTime.ofTimestamp (← Std.Time.Timestamp.now) .UTC
  return now.format "uuuu-MM-dd'T'HH:mm:ss.SSSSSS'Z'"

/-- Gathers what a call with some arguments needs. -/
def gather (arguments : List String) : IO CommandLine.Call := do
  let environment ← environment
  let folder := (← IO.currentDir).toString
  let source := CommandLine.sourcePath? arguments
  let input ←
    if source = some CommandLine.standardInput then (← IO.getStdin).readBinToEnd
    else pure ByteArray.empty
  let wanted := CommandLine.configPaths environment folder arguments ++ source.toList
  let places ← wanted.mapM fun path => return (path, ← lookAt source path)
  let look (path : String) : Place := (places.lookup path).getD .missing
  let surroundings : Surroundings := { environment, folder, look }
  return ⟨"polycalc", arguments, input.toList, surroundings, ← timestamp⟩

end Main

end PolyIntake

open PolyIntake in
/-- Answers the call with the given arguments. -/
def main (arguments : List String) : IO UInt32 := do
  let response := CommandLine.respond (← Main.gather arguments)
  (← IO.getStderr).putStr response.allErrors
  (← IO.getStdout).putStr response.output
  return UInt32.ofNat response.exit
