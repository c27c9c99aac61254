/-
This file reads one line of input. The first character decides: a line that
begins with an ASCII letter is a command, and every other line is a polynomial
literal. A line that is refused leads to exactly one diagnostic, which names
its number and one of the fixed complaints.
-/

import PolyIntake.Command
import PolyIntake.Poly.Parser
import PolyIntake.Poly.Printer

namespace PolyIntake

/-! ### Read and refused lines -/

/-- What a line holds. -/
inductive Line where
  | command (command : Command)
  | poly (poly : Poly)
  deriving DecidableEq

/-- Why a line was refused, by what it was taken for. -/
inductive LineError where
  | command (error : Command.Error)
  | poly (error : Parser.SyntaxError)

namespace LineError

/-- The complaint about a refused line. -/
def complaint : LineError → Complaint
  | command error => error.cause.complaint
  | poly _ => .wrongPoly

/-- The reason and the position of a refusal. -/
def message : LineError → String
  | command error => error.message Command.Fault.reason
  | poly error => error.message Parser.Fault.reason

/-- What the line was taken for. -/
def subject : LineError → String
  | command _ => "command"
  | poly _ => "polynomial"

end LineError

/-- The report of a refused line. -/
structure Diagnostic where
  line : Int
  complaint : Complaint
  deriving DecidableEq

/-- The written form of a diagnostic. -/
def Diagnostic.text (diagnostic : Diagnostic) : String :=
  "ERROR " ++ Decimal.text diagnostic.line ++ " " ++ diagnostic.complaint.text

/-! ### Reading a line -/

namespace Line

/-- A line that begins with an ASCII letter is meant as a command. -/
def isCommand (text : List Char) : Bool :=
  text.head?.any Char.isAlpha

/-- Reads one line, without its line break. -/
def parse (text : List Char) : Except LineError Line :=
  if isCommand text then
    match Command.parse text with
    | .ok accepted => .ok (.command accepted)
    | .error error => .error (.command error)
  else
    match Poly.parse text with
    | .ok accepted => .ok (.poly accepted)
    | .error error => .error (.poly error)

end Line

end PolyIntake
