/-
This file writes integers in decimal. A negative integer is a minus sign in
front of its absolute value, and no number is written with a leading zero, a
leading plus or a separator, so every integer has exactly one written form. It
also reads the digits of a floating-point number, to the nearest one.

Numbers have no bound, but a number with very many digits is neither written
for others to read nor read from what others wrote.
-/

namespace PolyIntake

/-! ### Written integers -/

/-- The decimal digits of a natural number, most significant first. -/
def Decimal.digits (number : Nat) : List Char :=
  Nat.toDigits 10 number

/-- An integer in decimal, with a minus sign exactly when it is negative. -/
def Decimal.ofInt : Int → List Char
  | .ofNat number => Decimal.digits number
  | .negSucc number => '-' :: Decimal.digits (number + 1)

/-- An integer in decimal, as a string. -/
def Decimal.text (number : Int) : String :=
  String.ofList (Decimal.ofInt number)

/-- A natural number in decimal, as a string. -/
def Decimal.natText (number : Nat) : String :=
  String.ofList (Decimal.digits number)

/-- A written natural number consists of ASCII digits only. -/
theorem Decimal.isDigit_of_mem_digits {number : Nat} {char : Char}
    (member : char ∈ Decimal.digits number) : char.isDigit = true :=
  Nat.isDigit_of_mem_toDigits (by omega) (by omega) member

/-- Reading the digits back gives the number that was written. -/
theorem Decimal.ofDigitChars_digits (number : Nat) :
    Nat.ofDigitChars 10 (Decimal.digits number) 0 = number :=
  Nat.ofDigitChars_toDigits (by omega) (by omega)

/-! ### Overlong numbers -/

/-- The most digits of an integer that is written or read in decimal. -/
def Decimal.longest : Nat := 4300

/-- The smallest absolute value that has too many digits. -/
def Decimal.limit : Nat := Nat.pow 10 Decimal.longest

/-- An integer that is short enough to be written. -/
def Decimal.isWritable (number : Int) : Bool :=
  number.natAbs < Decimal.limit

/-- An integer with too many digits, where it had to be written, or where so many digits had to
be read. -/
inductive Decimal.Overlong where
  | written
  | read (digits : Nat)
  deriving DecidableEq

/-- The wording for an overlong integer. -/
def Decimal.Overlong.message (fault : Decimal.Overlong) : String :=
  "Exceeds the limit (" ++ Decimal.natText Decimal.longest ++
    " digits) for integer string conversion" ++
    (match fault with
      | .written => ""
      | .read digits => ": value has " ++ Decimal.natText digits ++ " digits") ++
    "; use sys.set_int_max_str_digits() to increase the limit"

/-! ### Read numbers -/

/-- The number with the given digits, where the last stands at a place of the decimal system.
Places far outside the range of numbers lead to zero or to infinity. -/
def Decimal.float (negative : Bool) (digits : List Char) (place : Int) : Float :=
  let significand := Nat.ofDigitChars 10 digits 0
  let size := place + digits.length
  let magnitude : Float :=
    if significand = 0 || size < -400 then 0
    else if 400 < place then 1 / 0
    else Float.ofScientific significand (place < 0) place.natAbs
  if negative then -magnitude else magnitude

end PolyIntake
