/-
This file writes plain data as JSON documents. There are two forms. A report
is indented by two blanks for each level and keeps every character that needs
no escape. A log record stands on one line, with a blank behind every comma
and colon, and shows ASCII only: other characters are escaped by their 16-bit
units.
-/

import PolyIntake.Decimal.Shortest
import PolyIntake.Text.Quoted
import PolyIntake.Value

namespace PolyIntake

namespace Json

/-! ### Strings -/

/-- The escape of a character by its code unit. -/
def unitEscape (unit : Nat) : List Char :=
  '\\' :: 'u' :: Text.hexadecimal 4 unit

/-- The short escapes. -/
def shortEscape? (char : Char) : Option (List Char) :=
  if char = '"' then some ['\\', '"']
  else if char = '\\' then some ['\\', '\\']
  else if char = '\n' then some ['\\', 'n']
  else if char = '\r' then some ['\\', 'r']
  else if char = '\t' then some ['\\', 't']
  else if char.toNat = 8 then some ['\\', 'b']
  else if char.toNat = 12 then some ['\\', 'f']
  else none

/-- A character of a string where only control characters are escaped. -/
def escape (char : Char) : List Char :=
  match shortEscape? char with
  | some escaped => escaped
  | none => if char.toNat < 0x20 then unitEscape char.toNat else [char]

/-- A character of a string where everything but printable ASCII is escaped. A character
outside the basic plane takes two units. -/
def escapeAscii (char : Char) : List Char :=
  match shortEscape? char with
  | some escaped => escaped
  | none =>
    let point := char.toNat
    if 0x20 ≤ point && point < 0x7F then [char]
    else if point < 0x10000 then unitEscape point
    else
      let offset := point - 0x10000
      unitEscape (0xD800 + offset / 0x400) ++ unitEscape (0xDC00 + offset % 0x400)

/-- A string between its quotes. -/
def string (escaping : Char → List Char) (text : String) : List Char :=
  '"' :: text.toList.flatMap escaping ++ ['"']

/-! ### Numbers -/

/-- Numbers of reports: positional from `1e-5` up to below `1e16`, and elsewhere with an
exponent that has a sign. There are no words for infinite numbers. -/
def number : Shortest.Layout := ⟨-5, 16, true, 1, "null", "null", "null"⟩

/-! ### Documents -/

/-- A line break with the indentation of a level. -/
def newline (level : Nat) : List Char :=
  '\n' :: List.replicate (2 * level) ' '

mutual

/-- A document, indented from a level on. -/
def indented (level : Nat) : Value → List Char
  | .null => "null".toList
  | .bool true => "true".toList
  | .bool false => "false".toList
  | .int value => Decimal.ofInt value
  | .float value => (number.text value).toList
  | .string text => string escape text
  | .list [] => ['[', ']']
  | .list (head :: tail) =>
    '[' :: newline (level + 1) ++ indented (level + 1) head ++
      indentedMembers (level + 1) tail ++ newline level ++ [']']
  | .record [] => ['{', '}']
  | .record ((name, value) :: rest) =>
    '{' :: newline (level + 1) ++ string escape name ++ [':', ' '] ++
      indented (level + 1) value ++ indentedFields (level + 1) rest ++ newline level ++ ['}']
  | .moment => "null".toList

/-- The members of a list behind the first. -/
def indentedMembers (level : Nat) : List Value → List Char
  | [] => []
  | head :: tail => ',' :: newline level ++ indented level head ++ indentedMembers level tail

/-- The fields of a record behind the first. -/
def indentedFields (level : Nat) : List (String × Value) → List Char
  | [] => []
  | (name, value) :: rest =>
    ',' :: newline level ++ string escape name ++ [':', ' '] ++ indented level value ++
      indentedFields level rest

end

/-- A document in the form of reports. -/
def document (value : Value) : String :=
  String.ofList (indented 0 value)

mutual

/-- A document on one line. -/
def inline : Value → List Char
  | .null => "null".toList
  | .bool true => "true".toList
  | .bool false => "false".toList
  | .int value => Decimal.ofInt value
  | .float value => (number.text value).toList
  | .string text => string escapeAscii text
  | .list [] => ['[', ']']
  | .list (head :: tail) => '[' :: inline head ++ inlineMembers tail ++ [']']
  | .record [] => ['{', '}']
  | .record ((name, value) :: rest) =>
    '{' :: string escapeAscii name ++ [':', ' '] ++ inline value ++ inlineFields rest ++ ['}']
  | .moment => "null".toList

/-- The members of a list behind the first. -/
def inlineMembers : List Value → List Char
  | [] => []
  | head :: tail => ',' :: ' ' :: inline head ++ inlineMembers tail

/-- The fields of a record behind the first. -/
def inlineFields : List (String × Value) → List Char
  | [] => []
  | (name, value) :: rest =>
    ',' :: ' ' :: string escapeAscii name ++ [':', ' '] ++ inline value ++ inlineFields rest

end

/-- A document in the form of log records. -/
def line (value : Value) : String :=
  String.ofList (inline value)

end Json

end PolyIntake
