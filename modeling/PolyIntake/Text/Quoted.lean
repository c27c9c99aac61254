/-
This file quotes text for messages. A quoted text shows every character
unmistakably: the quote and the backslash are escaped, the common blanks have
short escapes, and every other character that would not show is written by its
code point. Single quotes are used unless the text holds a single quote and no
double quote.
-/

import PolyIntake.Text.Printable

namespace PolyIntake

namespace Text

/-! ### Escapes -/

/-- A number in lower case hexadecimal, filled up with zeros to a width. -/
def hexadecimal (width number : Nat) : List Char :=
  let digits := Nat.toDigits 16 number
  List.replicate (width - digits.length) '0' ++ digits

/-- How one character stands inside the given quotes. -/
def escape (quote char : Char) : List Char :=
  if char = quote || char = '\\' then ['\\', char]
  else if char = '\n' then ['\\', 'n']
  else if char = '\r' then ['\\', 'r']
  else if char = '\t' then ['\\', 't']
  else if isPrintable char then [char]
  else if char.toNat < 0x100 then '\\' :: 'x' :: hexadecimal 2 char.toNat
  else if char.toNat < 0x10000 then '\\' :: 'u' :: hexadecimal 4 char.toNat
  else '\\' :: 'U' :: hexadecimal 8 char.toNat

/-! ### Quoted text -/

/-- The quotes for a text: double ones exactly when it holds a single but no double quote. -/
def quoteFor (text : List Char) : Char :=
  if text.contains '\'' && !text.contains '"' then '"' else '\''

/-- A text in quotes. -/
def quoted (text : List Char) : List Char :=
  let quote := quoteFor text
  quote :: text.flatMap (escape quote) ++ [quote]

/-- A text in quotes, as a string. -/
def quotedText (text : String) : String :=
  String.ofList (quoted text.toList)

/-- The character at a place in quotes; past the end of the text there is nothing to show. -/
def quotedPlace (char : Option Char) : String :=
  String.ofList (quoted char.toList)

end Text

end PolyIntake
