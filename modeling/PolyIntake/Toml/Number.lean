/-
This file reads the numbers and the moments of a configuration file. A whole
number may be written to the base of two, eight, ten or sixteen, and single
underscores may stand between its digits. A decimal one with too many digits is
refused for that alone. A moment is a date, a time of day, or both; it has to
exist, but nothing else about it matters.
-/

import PolyIntake.Json.Parser

namespace PolyIntake

namespace Toml

/-! ### Refusals -/

/-- Why a configuration file is refused: it breaks the rules of its format, or it has a whole
number with too many digits. -/
inductive Refusal where
  | malformed
  | overlong (digits : Nat)
  deriving DecidableEq

/-- A part of a configuration file that was read, with what follows it. -/
abbrev Reading (Part : Type) := Except Refusal (Part × List Char)

/-- Something that has to be there by the rules of the format. -/
def demanded {Part : Type} : Option Part → Except Refusal Part
  | some part => .ok part
  | none => .error .malformed

/-! ### Digits -/

/-- The longest run of digits behind a digit, where an underscore may stand in front of each
one. Underscores are dropped. -/
def moreDigits (isDigit : Char → Bool) : List Char → List Char × List Char
  | [] => ([], [])
  | '_' :: char :: rest =>
    if isDigit char then
      let (digits, rest) := moreDigits isDigit rest
      (char :: digits, rest)
    else ([], '_' :: char :: rest)
  | char :: rest =>
    if isDigit char then
      let (digits, rest) := moreDigits isDigit rest
      (char :: digits, rest)
    else ([], char :: rest)

/-- A run of at least one digit. -/
def digits? (isDigit : Char → Bool) : List Char → Option (List Char × List Char)
  | [] => none
  | char :: rest =>
    if isDigit char then
      let (digits, rest) := moreDigits isDigit rest
      some (char :: digits, rest)
    else none

/-- Exactly as many decimal digits, as a number. -/
def fixed? (count : Nat) (text : List Char) : Option (Nat × List Char) :=
  let digits := text.take count
  if digits.length = count && digits.all Char.isDigit then
    some (Nat.ofDigitChars 10 digits 0, text.drop count)
  else none

/-- What follows a character, if the text begins with it. -/
def skip? (char : Char) : List Char → Option (List Char)
  | head :: rest => if head = char then some rest else none
  | [] => none

/-! ### Numbers -/

/-- The number that digits to a base stand for. -/
def ofDigits (base : Nat) (digits : List Char) : Int :=
  digits.foldl (fun number digit => base * number + (Json.hexDigit? digit).getD 0) 0

/-- A number whose base is named: a zero, the letter of the base, and digits. -/
def based? : List Char → Option (Value × List Char)
  | '0' :: letter :: rest =>
    let read (base : Nat) : Option (Value × List Char) :=
      let isDigit (char : Char) : Bool := (Json.hexDigit? char).any (· < base)
      (digits? isDigit rest).map fun (digits, rest) => (.int (ofDigits base digits), rest)
    match letter with
    | 'x' => read 16
    | 'o' => read 8
    | 'b' => read 2
    | _ => none
  | _ => none

/-- The sign of a number: whether it is negative. -/
def sign : List Char → Bool × List Char
  | '-' :: rest => (true, rest)
  | '+' :: rest => (false, rest)
  | text => (false, text)

/-- The exponent of a number. -/
def exponent? : List Char → Option (Int × List Char)
  | mark :: rest =>
    if mark = 'e' || mark = 'E' then
      let (negative, rest) := sign rest
      (digits? Char.isDigit rest).map fun (digits, rest) =>
        let value : Int := Nat.ofDigitChars 10 digits 0
        (if negative then -value else value, rest)
    else none
  | [] => none

/-- The fraction of a number. -/
def fraction? : List Char → Option (List Char × List Char)
  | '.' :: rest => digits? Char.isDigit rest
  | _ => none

/-- A decimal number, if the text begins with one. A leading zero stands alone in front of a
fraction or an exponent, and without both the number is whole. -/
def decimal? (text : List Char) : Option (Reading Value) := do
  let (negative, rest) := sign text
  let (digits, rest) ←
    match rest with
    | '0' :: rest => some (['0'], rest)
    | rest => digits? Char.isDigit rest
  let (fraction, rest) := (fraction? rest).getD ([], rest)
  match exponent? rest with
  | some (exponent, rest) =>
    let place := exponent - fraction.length
    some (.ok (.float (Decimal.float negative (digits ++ fraction) place), rest))
  | none =>
    if fraction.isEmpty then
      if Decimal.longest < digits.length then some (.error (.overlong digits.length))
      else
        let value := ofDigits 10 digits
        some (.ok (.int (if negative then -value else value), rest))
    else
      some (.ok (.float (Decimal.float negative (digits ++ fraction) (-fraction.length)), rest))

/-- One of the words for numbers that are not finite. -/
def special? (text : List Char) : Option (Value × List Char) :=
  let (negative, rest) := sign text
  match rest with
  | 'i' :: 'n' :: 'f' :: rest => some (.float (if negative then -1 / 0 else 1 / 0), rest)
  | 'n' :: 'a' :: 'n' :: rest => some (.float (0 / 0), rest)
  | _ => none

/-- Reads a number. -/
def number (text : List Char) : Reading Value :=
  match based? text with
  | some reading => .ok reading
  | none =>
    match decimal? text with
    | some reading => reading
    | none => demanded (special? text)

/-! ### Moments -/

/-- The days of a month. -/
def daysIn (year month : Nat) : Nat :=
  if month = 2 then
    if year % 4 = 0 ∧ (year % 100 ≠ 0 ∨ year % 400 = 0) then 29 else 28
  else if month = 4 ∨ month = 6 ∨ month = 9 ∨ month = 11 then 30
  else 31

/-- Two digits that stand for a number below a limit. -/
def below? (limit : Nat) (text : List Char) : Option (List Char) := do
  let (value, rest) ← fixed? 2 text
  if value < limit then some rest else none

/-- What follows a time of day: hours, minutes and seconds, and a fraction of a second. -/
def time? (text : List Char) : Option (List Char) := do
  let rest ← below? 24 text
  let rest ← skip? ':' rest
  let rest ← below? 60 rest
  let rest ← skip? ':' rest
  let rest ← below? 60 rest
  match rest with
  | '.' :: digit :: more =>
    if digit.isDigit then some (more.dropWhile Char.isDigit) else some rest
  | _ => some rest

/-- What follows the offset of a time of day. -/
def offset? : List Char → Option (List Char)
  | char :: rest =>
    if char = 'Z' || char = 'z' then some rest
    else if char = '+' || char = '-' then do
      let rest ← below? 24 rest
      let rest ← skip? ':' rest
      below? 60 rest
    else none
  | [] => none

/-- The parts of a written date: year, month and day, each within the bounds of its digits. -/
def date? (text : List Char) : Option ((Nat × Nat × Nat) × List Char) := do
  let (year, rest) ← fixed? 4 text
  let rest ← skip? '-' rest
  let (month, rest) ← fixed? 2 rest
  let rest ← skip? '-' rest
  let (day, rest) ← fixed? 2 rest
  if 1 ≤ month && month ≤ 12 && 1 ≤ day && day ≤ 31 then some ((year, month, day), rest)
  else none

/-- What follows the time and its offset behind a date. Both may be left out. -/
def timeOfDate : List Char → List Char
  | char :: rest =>
    if char = 'T' || char = 't' || char = ' ' then
      match time? rest with
      | some rest => (offset? rest).getD rest
      | none => char :: rest
    else char :: rest
  | [] => []

/-- What a text begins with that looks like a moment: one that exists, one that does not, or
none. -/
inductive MomentReading where
  | moment (rest : List Char)
  | impossible
  | other

/-- Reads a moment, if the text begins with one. -/
def readMoment (text : List Char) : MomentReading :=
  match date? text with
  | some ((year, month, day), rest) =>
    if 1 ≤ year ∧ day ≤ daysIn year month then .moment (timeOfDate rest) else .impossible
  | none =>
    match time? text with
    | some rest => .moment rest
    | none => .other

end Toml

end PolyIntake
