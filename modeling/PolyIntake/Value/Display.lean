/-
This file shows plain data to people. A text stands for itself, but inside of
a list or a record it is quoted, so that the parts can be told apart. The words
for truth values and for nothing begin with a capital letter.
-/

import PolyIntake.Decimal.Shortest
import PolyIntake.Text.Quoted
import PolyIntake.Value

namespace PolyIntake

namespace Value

/-- Numbers for people: positional from `1e-4` up to below `1e16`, and elsewhere with an
exponent that has a sign and two digits. -/
def displayNumber : Shortest.Layout := ⟨-4, 16, true, 2, "nan", "inf", "-inf"⟩

mutual

/-- A value as a part of another one. -/
def inspect : Value → String
  | .null => "None"
  | .bool true => "True"
  | .bool false => "False"
  | .int value => Decimal.text value
  | .float value => displayNumber.text value
  | .string text => Text.quotedText text
  | .list [] => "[]"
  | .list (head :: tail) => "[" ++ inspect head ++ inspectMembers tail ++ "]"
  | .record [] => "\x7b\x7d"
  | .record ((name, value) :: rest) =>
    "\x7b" ++ Text.quotedText name ++ ": " ++ inspect value ++ inspectFields rest ++ "\x7d"
  | .moment => "None"

/-- The members of a list behind the first. -/
def inspectMembers : List Value → String
  | [] => ""
  | head :: tail => ", " ++ inspect head ++ inspectMembers tail

/-- The fields of a record behind the first. -/
def inspectFields : List (String × Value) → String
  | [] => ""
  | (name, value) :: rest =>
    ", " ++ Text.quotedText name ++ ": " ++ inspect value ++ inspectFields rest

end

/-- A value on its own. -/
def display : Value → String
  | .string text => text
  | value => inspect value

end Value

end PolyIntake
