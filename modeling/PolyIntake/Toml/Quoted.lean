/-
This file reads the quoted strings of a configuration file. Apostrophes quote
text as it stands, and quotation marks quote text with escapes. Three of them
in a row quote several lines; up to two more may stand in front of the closing
three and belong to the text. Lines end with a line feed, and a control
character other than a tabulator stands in no string.
-/

import PolyIntake.Json.Parser

namespace PolyIntake

namespace Toml

/-! ### Characters -/

/-- A character that may stand in a string or a comment: every one but the control
characters, of which only the tabulator may. -/
def isPlain (char : Char) : Bool :=
  char = '\t' || (0x20 ≤ char.toNat && char.toNat ≠ 0x7F)

/-- A blank within a line. -/
def isBlank (char : Char) : Bool :=
  char = ' ' || char = '\t'

/-- A blank or a line feed. -/
def isSpace (char : Char) : Bool :=
  isBlank char || char = '\n'

/-- Reads up to two more quotes behind a closing triple; they belong to the text. -/
def extraQuotes (quote : Char) : List Char → List Char × List Char
  | first :: second :: rest =>
    if first = quote then
      if second = quote then ([quote, quote], rest) else ([quote], second :: rest)
    else ([], first :: second :: rest)
  | [last] => if last = quote then ([quote], []) else ([], [last])
  | [] => ([], [])

/-- What follows a line feed that stands right behind an opening triple. -/
def skipFirstBreak : List Char → List Char
  | '\n' :: rest => rest
  | text => text

/-! ### Text as it stands -/

/-- Reads a line of text behind its opening apostrophe. -/
def literal? (text : List Char) : Option (List Char × List Char) :=
  let content := text.takeWhile (· ≠ '\'')
  match text.drop content.length with
  | _ :: rest => if content.all isPlain then some (content, rest) else none
  | [] => none

/-- Reads lines of text up to the first three apostrophes. -/
def literalLines? : List Char → Option (List Char × List Char)
  | [] => none
  | '\'' :: '\'' :: '\'' :: rest =>
    let (extra, rest) := extraQuotes '\'' rest
    some (extra, rest)
  | char :: rest =>
    if isPlain char || char = '\n' then
      (literalLines? rest).map fun (content, rest) => (char :: content, rest)
    else none

/-! ### Text with escapes -/

/-- The character that some hexadecimal digits stand for. There has to be one. -/
def codePoint? (digits : List Char) : Option Char := do
  let values ← digits.mapM Json.hexDigit?
  let point := values.foldl (fun number digit => 16 * number + digit) 0
  if point.isValidChar then some (Char.ofNat point) else none

/-- The character of an escape by as many digits. -/
def numbered? (count : Nat) (text : List Char) : Option (List Char × List Char) :=
  let digits := text.take count
  if digits.length = count then (codePoint? digits).map fun char => ([char], text.drop count)
  else none

/-- What follows a backslash at the end of a line, with the blanks of the lines behind it. -/
def continued? (text : List Char) : Option (List Char) :=
  match text.dropWhile isBlank with
  | [] => some []
  | '\n' :: rest => some (rest.dropWhile isSpace)
  | _ => none

/-- Reads an escape behind its backslash. Where lines may be continued, a backslash at the end
of a line stands for nothing. -/
def escaped? (multiline : Bool) : List Char → Option (List Char × List Char)
  | [] => none
  | char :: rest =>
    match char with
    | 'b' => some ([Char.ofNat 8], rest)
    | 't' => some (['\t'], rest)
    | 'n' => some (['\n'], rest)
    | 'f' => some ([Char.ofNat 12], rest)
    | 'r' => some (['\r'], rest)
    | '"' => some (['"'], rest)
    | '\\' => some (['\\'], rest)
    | 'u' => numbered? 4 rest
    | 'U' => numbered? 8 rest
    | _ =>
      if multiline && isSpace char then (continued? (char :: rest)).map ([], ·) else none

/-- Reads text with escapes up to the closing quote, or up to three of them where lines may be
continued. The characters read so far are latest first, and every step takes one character. -/
def basicTail? (multiline : Bool) : (steps : Nat) → (read text : List Char) →
    Option (List Char × List Char)
  | 0, _, _ => none
  | _ + 1, _, [] => none
  | steps + 1, read, '\\' :: rest => do
    let (chars, rest) ← escaped? multiline rest
    basicTail? multiline steps (chars ++ read) rest
  | steps + 1, read, '"' :: rest =>
    if multiline then
      match rest with
      | '"' :: '"' :: rest =>
        let (extra, rest) := extraQuotes '"' rest
        some (read.reverse ++ extra, rest)
      | rest => basicTail? multiline steps ('"' :: read) rest
    else some (read.reverse, rest)
  | steps + 1, read, char :: rest =>
    if isPlain char || (multiline && char = '\n') then
      basicTail? multiline steps (char :: read) rest
    else none

/-! ### Strings -/

/-- Reads a string of a single line, if the text begins with one. -/
def line? : List Char → Option (List Char × List Char)
  | '\'' :: rest => literal? rest
  | '"' :: rest => basicTail? false (rest.length + 1) [] rest
  | _ => none

/-- Reads a string, if the text begins with one. -/
def string? : List Char → Option (List Char × List Char)
  | '\'' :: '\'' :: '\'' :: rest => literalLines? (skipFirstBreak rest)
  | '"' :: '"' :: '"' :: rest => basicTail? true (rest.length + 1) [] (skipFirstBreak rest)
  | text => line? text

end Toml

end PolyIntake
