/-
This file reads integer literals. A literal is a run of ASCII digits, behind
an optional minus sign where negative values make sense, and it must lie in
the range of its place. Leading zeros do not count, blanks and a plus sign are
not allowed. The character behind the digits has to be one that may stand
there, where nothing at all stands for the end of the line.

A literal has three ways to be refused, looked for in this order: no digit
where one has to be, a value out of range, and a wrong character behind it.
-/

import PolyIntake.Cursor

namespace PolyIntake

namespace Integer

/-! ### Kinds of literals -/

/-- What an integer literal may be at some place. -/
structure Kind where
  signed : Bool
  lowest : Int
  highest : Int

/-- The largest exponent, index or parameter. -/
def largestIndex : Int := Int.pow 2 31 - 1

/-- The smallest coefficient of a literal. -/
def smallestCoefficient : Int := -Int.pow 2 63

/-- The largest coefficient of a literal. -/
def largestCoefficient : Int := Int.pow 2 63 - 1

/-- Values and coefficients: 64 bits with a sign. -/
def Kind.signed64 : Kind := ⟨true, smallestCoefficient, largestCoefficient⟩

/-- Exponents and counts: 31 bits and no sign. -/
def Kind.unsigned31 : Kind := ⟨false, 0, largestIndex⟩

/-- A value that a literal of this kind may have. -/
def Kind.admits (kind : Kind) (value : Int) : Bool :=
  kind.lowest ≤ value && value ≤ kind.highest

/-! ### Faults -/

/-- Why an integer literal is refused. -/
inductive Fault where
  | missingDigit
  | outOfRange (written : List Char)
  | unexpected (char : Option Char)

/-- The wording of a fault. -/
def Fault.reason : Fault → String
  | .missingDigit => "expected a digit"
  | .outOfRange written => "value " ++ String.ofList written ++ " out of range"
  | .unexpected char => "unexpected character " ++ Text.quotedPlace char

/-! ### Reading -/

/-- No range reaches beyond this many digits, so longer literals need not be converted. -/
def longestInRange : Nat := 19

/-- The value of a written integer, as long as its digits behind leading zeros are few enough
for any range. -/
def value? (negative : Bool) (digits : List Char) : Option Int :=
  let significant := digits.dropWhile (· == '0')
  if significant.length > longestInRange then none
  else
    let magnitude : Int := Nat.ofDigitChars 10 significant 0
    some (if negative then -magnitude else magnitude)

/-- A leading minus sign, where the kind of literal has one. -/
def readSign (kind : Kind) (cursor : Cursor) : Bool × Cursor :=
  if kind.signed && cursor.peek == some '-' then (true, cursor.advance 1) else (false, cursor)

/-- Reads a literal of a kind that ends in front of one of the given terminators. The result
is its value and the place behind it. -/
def read (kind : Kind) (terminates : Option Char → Bool) (cursor : Cursor) :
    Except (Refusal Fault) (Int × Cursor) :=
  let (negative, body) := readSign kind cursor
  let digits := body.rest.takeWhile Char.isDigit
  if digits.isEmpty then .error ⟨body.position, .missingDigit⟩
  else
    let next := body.advance digits.length
    let written := if negative then '-' :: digits else digits
    match (value? negative digits).filter kind.admits with
    | none => .error ⟨cursor.position, .outOfRange written⟩
    | some value =>
      if terminates next.peek then .ok (value, next)
      else .error ⟨next.position, .unexpected next.peek⟩

/-- Reading a sign never moves backwards. -/
theorem length_rest_readSign_le (kind : Kind) (cursor : Cursor) :
    (readSign kind cursor).2.rest.length ≤ cursor.rest.length := by
  unfold readSign
  split
  · simp [Cursor.advance]
  · exact Nat.le_refl _

/-- A literal takes up at least one character. -/
theorem length_rest_lt_of_read {kind : Kind} {terminates : Option Char → Bool}
    {cursor next : Cursor} {value : Int}
    (accepted : read kind terminates cursor = .ok (value, next)) :
    next.rest.length < cursor.rest.length := by
  have sign := length_rest_readSign_le kind cursor
  unfold read at accepted
  dsimp only at accepted
  split at accepted
  · cases accepted
  case isFalse someDigit =>
    split at accepted
    · cases accepted
    · split at accepted
      · cases accepted
        have count : 0 < ((readSign kind cursor).2.rest.takeWhile Char.isDigit).length :=
          List.length_pos_iff.mpr (by simpa using someDigit)
        have total := List.takeWhile_prefix (p := Char.isDigit)
          (l := (readSign kind cursor).2.rest) |>.length_le
        simp only [Cursor.advance, List.length_drop]
        omega
      · cases accepted

end Integer

end PolyIntake
