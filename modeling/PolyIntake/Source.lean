/-
This file defines the sources of input and how they are read. A source has a
name and delivers lines; it may fail instead of coming to an end, and then the
lines in front of the failure have been delivered.

Text is split at line feeds only. Bytes are decoded first, and then a carriage
return, alone or in front of a line feed, ends a line as well. The reader
numbers every line from one on and marks those that are skipped: comments and
blank lines, as the rules of the reader tell.
-/

import PolyIntake.Text.Utf8

namespace PolyIntake

/-! ### Lines of a text -/

namespace Source

/-- The lines of a text without their line feeds. The last line need not have one. -/
def splitLines : List Char → List (List Char)
  | [] => []
  | char :: rest =>
    if char = '\n' then [] :: splitLines rest
    else
      match splitLines rest with
      | [] => [[char]]
      | line :: lines => (char :: line) :: lines

/-- The lines of a text that have their line feed. -/
def completeLines (text : List Char) : List (List Char) :=
  if text.getLast? = some '\n' then splitLines text else (splitLines text).dropLast

/-- A text in which every line ends with a line feed alone. -/
def normalizeLineEnds : List Char → List Char
  | [] => []
  | '\r' :: '\n' :: rest => '\n' :: normalizeLineEnds rest
  | '\r' :: rest => '\n' :: normalizeLineEnds rest
  | char :: rest => char :: normalizeLineEnds rest

/-! ### Sources -/

/-- Why a source fails. -/
inductive Failure where
  | device (message : String)
  | undecodable (fault : Utf8.Fault)
  | callDepth (message : String)
  | other (message : String)

/-- The wording of a failure. -/
def Failure.message : Failure → String
  | .device message => message
  | .undecodable fault => fault.message
  | .callDepth message => message
  | .other message => message

end Source

/-- A source of input: its name, the lines that it delivers, and its failure, if it fails. -/
structure Source where
  name : String
  lines : List (List Char)
  failure : Option Source.Failure

namespace Source

/-- The name of a source that has none of its own. -/
def unnamed : String := "<stream>"

/-- A source that delivers the lines of a text. -/
def ofText (name : String) (text : List Char) : Source :=
  ⟨name, splitLines text, none⟩

/-- A source that delivers the lines of a text and then fails. -/
def failing (name : String) (text : List Char) (failure : Failure) : Source :=
  ⟨name, splitLines text, some failure⟩

/-- A source of bytes. When they cannot be decoded, the lines that were complete in front of
the faulty chunk are delivered; a carriage return right in front of it may be half of a line
end and completes no line. -/
def ofBytes (name : String) (bytes : List UInt8) : Source :=
  match Utf8.decodeStream bytes with
  | (text, none) => ofText name (normalizeLineEnds text)
  | (text, some fault) =>
    let settled := if text.getLast? = some '\r' then text.dropLast else text
    ⟨name, completeLines (normalizeLineEnds settled), some (.undecodable fault)⟩

end Source

/-! ### Reading lines -/

/-- The rules of the reader: lines that begin with the comment mark are skipped unless the
mark is empty, and blank lines are skipped when so wished. -/
structure InputRules where
  commentMark : String := "#"
  skipBlank : Bool := true

/-- A line with its number. -/
structure NumberedLine where
  number : Nat
  text : List Char
  skipped : Bool

namespace InputRules

/-- The rules skip a line. -/
def skips (rules : InputRules) (text : List Char) : Bool :=
  let mark := rules.commentMark.toList
  (!mark.isEmpty && mark.isPrefixOf text) || (rules.skipBlank && text.isEmpty)

/-- Numbers lines from a number on. -/
def numberFrom (rules : InputRules) (number : Nat) : List (List Char) → List NumberedLine
  | [] => []
  | text :: rest => ⟨number, text, rules.skips text⟩ :: numberFrom rules (number + 1) rest

/-- Numbers the lines of a source from one on. -/
def read (rules : InputRules) (lines : List (List Char)) : List NumberedLine :=
  rules.numberFrom 1 lines

end InputRules

end PolyIntake
