/-
This file reads configuration files. A file is a sequence of lines, each with a
field, the head of a section, or nothing, and a comment at its end. Values are
strings, truth values, numbers, moments, lists and tables; only lists may go on
over several lines. A file is refused as a whole at the first thing that is wrong
with it, and of the rules it does not matter which one is broken.

Every step of the reading takes at least one character, so that twice the
length of the text is steps enough.
-/

import PolyIntake.Toml.Number
import PolyIntake.Toml.Quoted
import PolyIntake.Toml.Table

namespace PolyIntake

namespace Toml

/-! ### Blanks and comments -/

/-- What follows the blanks at the beginning of a text. -/
def skipBlanks (text : List Char) : List Char :=
  text.dropWhile isBlank

/-- What follows a comment, if the text begins with one: the end of its line. -/
def skipComment? : List Char → Option (List Char)
  | '#' :: rest =>
    let comment := rest.takeWhile (· ≠ '\n')
    if comment.all isPlain then some (rest.drop comment.length) else none
  | text => some text

/-- What follows blanks, line feeds and comments. -/
def skipLines? : (steps : Nat) → List Char → Option (List Char)
  | 0, _ => none
  | steps + 1, text =>
    match text.dropWhile isSpace with
    | '#' :: rest => (skipComment? ('#' :: rest)).bind (skipLines? steps)
    | rest => some rest

/-! ### Keys -/

/-- A character of a name that needs no quotes. -/
def isBare (char : Char) : Bool :=
  char.isAlphanum || char = '-' || char = '_'

/-- Reads one name of a key. -/
def name? (text : List Char) : Option (String × List Char) :=
  let bare := text.takeWhile isBare
  if bare.isEmpty then (line? text).map fun (name, rest) => (String.ofList name, rest)
  else some (String.ofList bare, text.drop bare.length)

/-- Reads a key and the blanks behind it: names with dots between them. -/
def key? : (steps : Nat) → List Char → Option (Key × List Char)
  | 0, _ => none
  | steps + 1, text =>
    match name? text with
    | none => none
    | some (name, rest) =>
      match skipBlanks rest with
      | '.' :: rest => (key? steps (skipBlanks rest)).map fun (key, rest) => (name :: key, rest)
      | rest => some ([name], rest)

/-! ### Values -/

/-- Reads a value that contains no others. -/
def scalar (text : List Char) : Reading Value :=
  match text with
  | 't' :: 'r' :: 'u' :: 'e' :: rest => .ok (.bool true, rest)
  | 'f' :: 'a' :: 'l' :: 's' :: 'e' :: rest => .ok (.bool false, rest)
  | _ =>
    match readMoment text with
    | .moment rest => .ok (.moment, rest)
    | .impossible => .error .malformed
    | .other => number text

/-- Reads a string as a value. -/
def stringValue (text : List Char) : Reading Value :=
  demanded ((string? text).map fun (content, rest) => (.string (String.ofList content), rest))

/-- Adds a field to an inline table. Lists and tables in it are closed once another field
follows. -/
def addInline (table : Fields) (closed : List Key) (key : Key) (value : Value) :
    Option Fields :=
  match key.getLast? with
  | none => none
  | some name =>
    if closed.any fun other => other.isPrefixOf key then none
    else changeAt false (addField name value) key.dropLast table

mutual

/-- Reads a value. -/
def value : (steps : Nat) → List Char → Reading Value
  | 0, _ => .error .malformed
  | steps + 1, text =>
    match text with
    | '[' :: rest =>
      match skipLines? steps rest with
      | none => .error .malformed
      | some (']' :: rest) => .ok (.list [], rest)
      | some rest => (members steps [] rest).map fun (members, rest) => (.list members, rest)
    | '\x7b' :: rest =>
      match skipBlanks rest with
      | '\x7d' :: rest => .ok (.record [], rest)
      | rest => (entries steps [] [] rest).map fun (fields, rest) => (.record fields, rest)
    | '"' :: _ => stringValue text
    | '\'' :: _ => stringValue text
    | _ => scalar text

/-- Reads the members of a list up to its closing bracket, after those read so far. A comma may
stand behind the last one. -/
def members : (steps : Nat) → List Value → List Char → Reading (List Value)
  | 0, _, _ => .error .malformed
  | steps + 1, read, text =>
    match value steps text with
    | .error refusal => .error refusal
    | .ok (value, rest) =>
      match skipLines? steps rest with
      | some (']' :: rest) => .ok ((value :: read).reverse, rest)
      | some (',' :: rest) =>
        match skipLines? steps rest with
        | none => .error .malformed
        | some (']' :: rest) => .ok ((value :: read).reverse, rest)
        | some rest => members steps (value :: read) rest
      | _ => .error .malformed

/-- Reads the fields of an inline table up to its closing brace, after those read so far. -/
def entries : (steps : Nat) → Fields → List Key → List Char → Reading Fields
  | 0, _, _, _ => .error .malformed
  | steps + 1, table, closed, text =>
    match key? steps text with
    | some (key, '=' :: rest) =>
      match value steps (skipBlanks rest) with
      | .error refusal => .error refusal
      | .ok (value, rest) =>
        match addInline table closed key value with
        | none => .error .malformed
        | some table =>
          match skipBlanks rest with
          | '\x7d' :: rest => .ok (table, rest)
          | ',' :: rest =>
            entries steps table (if isContainer value then key :: closed else closed)
              (skipBlanks rest)
          | _ => .error .malformed
    | _ => .error .malformed

end

/-! ### Lines -/

/-- Reads the head of a section up to its closing brackets. -/
def head? (steps : Nat) (document : Document) (text : List Char) :
    Option (Document × List Char) :=
  match text with
  | '[' :: rest => do
    let (key, rest) ← key? steps (skipBlanks rest)
    let document ← document.declareMember key
    match rest with
    | ']' :: ']' :: rest => some (document, rest)
    | _ => none
  | _ => do
    let (key, rest) ← key? steps (skipBlanks text)
    let document ← document.declareTable key
    match rest with
    | ']' :: rest => some (document, rest)
    | _ => none

/-- Reads a field of the section. -/
def field (steps : Nat) (document : Document) (text : List Char) :
    Except Refusal (Document × List Char) := do
  let (key, rest) ← demanded (key? steps text)
  let rest ← demanded (skip? '=' rest)
  let (value, rest) ← value steps (skipBlanks rest)
  let document ← demanded (document.addValue key value)
  .ok (document, rest)

/-- Reads what a line says. Its comment is left. -/
def statement (steps : Nat) (document : Document) : List Char → Reading Document
  | '[' :: rest => demanded (head? steps document.settle rest)
  | '#' :: rest => .ok (document, '#' :: rest)
  | text => field steps document text

/-- Reads lines up to the end of the text. -/
def lines : (steps : Nat) → Document → List Char → Except Refusal Document
  | 0, _, _ => .error .malformed
  | steps + 1, document, text =>
    match skipBlanks text with
    | [] => .ok document
    | '\n' :: rest => lines steps document rest
    | text =>
      match statement steps document text with
      | .error refusal => .error refusal
      | .ok (document, rest) =>
        match skipComment? (skipBlanks rest) with
        | some [] => .ok document
        | some ('\n' :: rest) => lines steps document rest
        | _ => .error .malformed

/-- Reads a configuration file whose lines end with line feeds. -/
def parse (text : List Char) : Except Refusal Fields :=
  (lines (2 * text.length + 2) {} text).map Document.tables

end Toml

end PolyIntake
