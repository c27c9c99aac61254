/-
This file reads JSON documents into plain data. The grammar is the usual one
with two additions: the three words for numbers that are not finite are
allowed, and a field that occurs again replaces the value of the earlier one.
Whole numbers stay exact. They may have any length, unless a reader sets a limit
to their digits. A text holds no halves of surrogate pairs, and so an escape for
such a half on its own is refused.

Reading takes at least one character for each level and each member, so a
count of steps equal to the length of the text never runs out on a document.
-/

import PolyIntake.Value

namespace PolyIntake

namespace Json

/-! ### Blanks and words -/

/-- The four characters that may stand between the parts of a document. -/
def isBlank (char : Char) : Bool :=
  char == ' ' || char == '\t' || char == '\n' || char == '\r'

/-- What follows the blanks at the beginning of a text. -/
def skipBlanks (text : List Char) : List Char :=
  text.dropWhile isBlank

/-- What follows a word at the beginning of a text. -/
def skipWord? (word : String) (text : List Char) : Option (List Char) :=
  if word.toList.isPrefixOf text then some (text.drop word.length) else none

/-! ### Strings -/

/-- The value of a hexadecimal digit. -/
def hexDigit? (char : Char) : Option Nat :=
  if char.isDigit then some (char.toNat - '0'.toNat)
  else if 'a' ≤ char && char ≤ 'f' then some (char.toNat - 'a'.toNat + 10)
  else if 'A' ≤ char && char ≤ 'F' then some (char.toNat - 'A'.toNat + 10)
  else none

/-- The code unit that four hexadecimal digits stand for. -/
def unit? : List Char → Option (Nat × List Char)
  | first :: second :: third :: fourth :: rest => do
    let first ← hexDigit? first
    let second ← hexDigit? second
    let third ← hexDigit? third
    let fourth ← hexDigit? fourth
    some (((first * 16 + second) * 16 + third) * 16 + fourth, rest)
  | _ => none

/-- The character of an escaped code unit. A unit of the upper half of a pair needs the other
half behind it. -/
def unitChar? (text : List Char) : Option (Char × List Char) := do
  let (unit, rest) ← unit? text
  if 0xD800 ≤ unit && unit < 0xDC00 then
    match rest with
    | '\\' :: 'u' :: rest =>
      let (low, rest) ← unit? rest
      if 0xDC00 ≤ low && low < 0xE000 then
        some (Char.ofNat (0x10000 + (unit - 0xD800) * 0x400 + (low - 0xDC00)), rest)
      else none
    | _ => none
  else if 0xDC00 ≤ unit && unit < 0xE000 then none
  else some (Char.ofNat unit, rest)

/-- The character of an escape, behind its backslash. -/
def escaped? : List Char → Option (Char × List Char)
  | '"' :: rest => some ('"', rest)
  | '\\' :: rest => some ('\\', rest)
  | '/' :: rest => some ('/', rest)
  | 'b' :: rest => some (Char.ofNat 8, rest)
  | 'f' :: rest => some (Char.ofNat 12, rest)
  | 'n' :: rest => some ('\n', rest)
  | 'r' :: rest => some ('\r', rest)
  | 't' :: rest => some ('\t', rest)
  | 'u' :: rest => unitChar? rest
  | _ => none

/-- Reads a string behind its opening quote, with the characters read so far latest first. -/
def stringTail? : (steps : Nat) → (read text : List Char) → Option (String × List Char)
  | 0, _, _ => none
  | _ + 1, _, [] => none
  | _ + 1, read, '"' :: rest => some (String.ofList read.reverse, rest)
  | steps + 1, read, '\\' :: rest => do
    let (char, rest) ← escaped? rest
    stringTail? steps (char :: read) rest
  | steps + 1, read, char :: rest =>
    if char.toNat < 0x20 then none else stringTail? steps (char :: read) rest

/-- Reads a string, if the text begins with one. -/
def string? : List Char → Option (String × List Char)
  | '"' :: rest => stringTail? (rest.length + 1) [] rest
  | _ => none

/-! ### Numbers -/

/-- A run of digits that may not be empty. -/
def digits? (text : List Char) : Option (List Char × List Char) :=
  let digits := text.takeWhile Char.isDigit
  if digits.isEmpty then none else some (digits, text.drop digits.length)

/-- The fraction of a number. -/
def fraction? : List Char → Option (List Char × List Char)
  | '.' :: rest => digits? rest
  | _ => none

/-- The exponent of a number. -/
def exponent? : List Char → Option (Int × List Char)
  | mark :: rest =>
    if mark == 'e' || mark == 'E' then
      match rest with
      | '-' :: rest => (digits? rest).map fun (digits, rest) =>
        (-(Nat.ofDigitChars 10 digits 0 : Int), rest)
      | '+' :: rest => (digits? rest).map fun (digits, rest) =>
        ((Nat.ofDigitChars 10 digits 0 : Int), rest)
      | rest => (digits? rest).map fun (digits, rest) =>
        ((Nat.ofDigitChars 10 digits 0 : Int), rest)
    else none
  | [] => none

/-- Digits are no more than a limit allows, if there is one. -/
def isWithin (limit : Option Nat) (digits : List Char) : Bool :=
  limit.all fun most => digits.length ≤ most

/-- A number without its sign. It is whole when it has neither a fraction nor an exponent, and
the limit is one to the digits of whole numbers. -/
def magnitude? (limit : Option Nat) (negative : Bool) (text : List Char) :
    Option (Value × List Char) := do
  let (digits, rest) ←
    match text with
    | '0' :: rest => some (['0'], rest)
    | text => digits? text
  let (fraction, rest) := (fraction? rest).getD ([], rest)
  match exponent? rest with
  | some (exponent, rest) =>
    some (.float (Decimal.float negative (digits ++ fraction) (exponent - fraction.length)), rest)
  | none =>
    if fraction.isEmpty then
      let value : Int := Nat.ofDigitChars 10 digits 0
      if isWithin limit digits then some (.int (if negative then -value else value), rest)
      else none
    else some (.float (Decimal.float negative (digits ++ fraction) (-fraction.length)), rest)

/-- A number or one of the words for what is not finite. -/
def number? (limit : Option Nat) : List Char → Option (Value × List Char)
  | '-' :: rest =>
    match skipWord? "Infinity" rest with
    | some rest => some (.float (-1 / 0), rest)
    | none => magnitude? limit true rest
  | text => magnitude? limit false text

/-! ### Documents -/

mutual

/-- Reads a value behind blanks. -/
def value? (limit : Option Nat) : (steps : Nat) → List Char → Option (Value × List Char)
  | 0, _ => none
  | steps + 1, text =>
    match skipBlanks text with
    | '[' :: rest =>
      match skipBlanks rest with
      | ']' :: rest => some (.list [], rest)
      | rest => (members? limit steps [] rest).map fun (members, rest) => (.list members, rest)
    | '\x7b' :: rest =>
      match skipBlanks rest with
      | '\x7d' :: rest => some (.record [], rest)
      | rest => (fields? limit steps [] rest).map fun (fields, rest) => (.record fields, rest)
    | '"' :: rest => (string? ('"' :: rest)).map fun (text, rest) => (.string text, rest)
    | text =>
      match skipWord? "null" text with
      | some rest => some (.null, rest)
      | none =>
        match skipWord? "true" text with
        | some rest => some (.bool true, rest)
        | none =>
          match skipWord? "false" text with
          | some rest => some (.bool false, rest)
          | none =>
            match skipWord? "NaN" text with
            | some rest => some (.float (0 / 0), rest)
            | none =>
              match skipWord? "Infinity" text with
              | some rest => some (.float (1 / 0), rest)
              | none => number? limit text

/-- Reads the members of a list up to its closing bracket, after those read so far. -/
def members? (limit : Option Nat) :
    (steps : Nat) → List Value → List Char → Option (List Value × List Char)
  | 0, _, _ => none
  | steps + 1, read, text =>
    match value? limit steps text with
    | none => none
    | some (value, rest) =>
      match skipBlanks rest with
      | ',' :: rest => members? limit steps (value :: read) rest
      | ']' :: rest => some ((value :: read).reverse, rest)
      | _ => none

/-- Reads the fields of a record up to its closing brace, after those read so far. -/
def fields? (limit : Option Nat) :
    (steps : Nat) → Fields → List Char → Option (Fields × List Char)
  | 0, _, _ => none
  | steps + 1, read, text =>
    match string? (skipBlanks text) with
    | none => none
    | some (name, rest) =>
      match skipBlanks rest with
      | ':' :: rest =>
        match value? limit steps rest with
        | none => none
        | some (value, rest) =>
          match skipBlanks rest with
          | ',' :: rest => fields? limit steps (Fields.set read name value) rest
          | '\x7d' :: rest => some (Fields.set read name value, rest)
          | _ => none
      | _ => none

end

/-- Reads a whole text as one document, with a limit to the digits of whole numbers. -/
def parseWithin? (limit : Option Nat) (text : String) : Option Value :=
  let chars := text.toList
  match value? limit (2 * chars.length + 2) chars with
  | some (value, rest) => if (skipBlanks rest).isEmpty then some value else none
  | none => none

/-- Reads a whole text as one document. -/
def parse? (text : String) : Option Value :=
  parseWithin? none text

end Json

end PolyIntake
