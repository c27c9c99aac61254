/-
This file recognises the commands of the calculator. Twelve commands stand
alone and have to be the whole line. Three more take an integer: their keyword
is followed by exactly one space and a literal that runs to the end of the
line. A keyword only counts when no longer word starts with it, so that a
misspelt keyword is an unknown command and not one with a bad argument.
-/

import PolyIntake.Integer

namespace PolyIntake

/-! ### The vocabulary -/

/-- The commands without an argument. -/
inductive Operation where
  | zero
  | isCoeff
  | isZero
  | clone
  | add
  | mul
  | neg
  | sub
  | isEq
  | deg
  | print
  | pop
  deriving DecidableEq

namespace Operation

/-- All commands without an argument. -/
def all : List Operation :=
  [zero, isCoeff, isZero, clone, add, mul, neg, sub, isEq, deg, print, pop]

/-- The keyword of a command. -/
def keyword : Operation → String
  | zero => "ZERO"
  | isCoeff => "IS_COEFF"
  | isZero => "IS_ZERO"
  | clone => "CLONE"
  | add => "ADD"
  | mul => "MUL"
  | neg => "NEG"
  | sub => "SUB"
  | isEq => "IS_EQ"
  | deg => "DEG"
  | print => "PRINT"
  | pop => "POP"

end Operation

/-- The commands that take an integer: the degree in one variable, the value at a number, and
the composition with a number of polynomials. -/
inductive Query where
  | degreeBy
  | valueAt
  | compose
  deriving DecidableEq

namespace Query

/-- All commands with an argument. -/
def all : List Query := [degreeBy, valueAt, compose]

/-- The keyword of a command. -/
def keyword : Query → String
  | degreeBy => "DEG_BY"
  | valueAt => "AT"
  | compose => "COMPOSE"

/-- What the argument of a command may be. Only a value may be negative. -/
def argumentKind : Query → Integer.Kind
  | degreeBy => .unsigned31
  | valueAt => .signed64
  | compose => .unsigned31

end Query

/-- A recognised command. -/
inductive Command where
  | plain (operation : Operation)
  | withArgument (query : Query) (argument : Int)
  deriving DecidableEq

/-- The keyword of a command. -/
def Command.keyword : Command → String
  | .plain operation => operation.keyword
  | .withArgument query _ => query.keyword

/-- The argument of a command that takes one. -/
def Command.argument? : Command → Option Int
  | .plain _ => none
  | .withArgument _ argument => some argument

/-! ### Diagnostics -/

/-- The fixed messages about refused lines. -/
inductive Complaint where
  | wrongCommand
  | wrongPoly
  | wrongVariable
  | wrongValue
  | wrongParameter
  deriving DecidableEq

/-- The wording of a complaint. -/
def Complaint.text : Complaint → String
  | .wrongCommand => "WRONG COMMAND"
  | .wrongPoly => "WRONG POLY"
  | .wrongVariable => "DEG BY WRONG VARIABLE"
  | .wrongValue => "AT WRONG VALUE"
  | .wrongParameter => "COMPOSE WRONG PARAMETER"

/-- The complaint about a bad argument. -/
def Query.complaint : Query → Complaint
  | .degreeBy => .wrongVariable
  | .valueAt => .wrongValue
  | .compose => .wrongParameter

namespace Command

/-- Why a line is not a command. -/
inductive Fault where
  | unknown
  | noSpace (query : Query)
  | noDigit (query : Query)
  | argument (query : Query) (fault : Integer.Fault)

/-- The wording of a fault. -/
def Fault.reason : Fault → String
  | .unknown => "unknown command"
  | .noSpace _ => "expected a single space before the argument"
  | .noDigit _ => "argument must start with a digit"
  | .argument _ fault => fault.reason

/-- The complaint that a fault leads to. -/
def Fault.complaint : Fault → Complaint
  | .unknown => .wrongCommand
  | .noSpace query => query.complaint
  | .noDigit query => query.complaint
  | .argument query _ => query.complaint

/-- Where and why a line is not a command. -/
abbrev Error := Refusal Fault

/-! ### Recognition -/

/-- A character that makes a longer word of a keyword. -/
def continuesWord (char : Char) : Bool :=
  char.isAlpha || char == '_'

/-- The text begins with the keyword, and no longer word does. -/
def startsWith (keyword text : List Char) : Bool :=
  keyword.isPrefixOf text && !(text.drop keyword.length).head?.any continuesWord

/-- Reads the argument of a command whose keyword begins the line. -/
def readArgument (query : Query) (text : List Char) : Except Error Command :=
  let separator := Cursor.ofText text query.keyword.length
  if separator.peek == some ' ' then
    let start := separator.advance 1
    let begins := start.peek.any fun char =>
      char.isDigit || (query.argumentKind.signed && char == '-')
    if begins then
      match Integer.read query.argumentKind (· == none) start with
      | .error refusal => .error (refusal.map (.argument query))
      | .ok (value, _) => .ok (.withArgument query value)
    else .error ⟨start.position, .noDigit query⟩
  else .error ⟨separator.position, .noSpace query⟩

/-- Reads a whole line as a command. -/
def parse (text : List Char) : Except Error Command :=
  match Operation.all.find? (fun operation => operation.keyword.toList == text) with
  | some operation => .ok (.plain operation)
  | none =>
    match Query.all.find? (fun query => startsWith query.keyword.toList text) with
    | some query => readArgument query text
    | none => .error ⟨0, .unknown⟩

end Command

end PolyIntake
