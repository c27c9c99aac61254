/-
This file writes binary floating-point numbers with the fewest decimal digits
that still identify them. A number stands for all reals that round to it. On
the grid of one significant digit, then of two and so on, the two grid points
next to the number are tested, and the first grid that has one of them inside
the interval wins; of two such points the nearer is taken, and of two equally
near ones the even one. Seventeen digits always suffice.

How the digits are laid out, positionally or with an exponent, is a matter of
the format that they are written for.
-/

import PolyIntake.Decimal

namespace PolyIntake

namespace Shortest

/-! ### The interval of a number -/

/-- A positive number `significand * 2 ^ exponent` with the reals that round to it: those
between the two bounds, given as multiples of a quarter unit, and the bounds themselves when
they are included. -/
structure Interval where
  significand : Nat
  exponent : Int
  lower : Nat
  upper : Nat
  closed : Bool

/-- The interval of the magnitude of a finite number that is not zero. Below a power of two
the numbers lie twice as dense, so that the lower bound is half as far away. -/
def Interval.ofFloat (number : Float) : Interval :=
  let bits := number.toBits.toNat
  let fraction := bits % Nat.pow 2 52
  let biased := bits / Nat.pow 2 52 % Nat.pow 2 11
  let significand := if biased = 0 then fraction else fraction + Nat.pow 2 52
  let exponent : Int := (if biased = 0 then 1 else biased : Nat) - 1075
  let lower := if fraction = 0 && 1 < biased then 4 * significand - 1 else 4 * significand - 2
  ⟨significand, exponent, lower, 4 * significand + 2, significand % 2 = 0⟩

/-- A quotient of natural numbers that equals `quarters * 2 ^ (exponent - 2) / 10 ^ place`. -/
def scaled (quarters : Nat) (exponent place : Int) : Nat × Nat :=
  let shift := exponent - 2
  (quarters * Nat.pow 2 shift.toNat * Nat.pow 10 (-place).toNat,
    Nat.pow 2 (-shift).toNat * Nat.pow 10 place.toNat)

/-- The point `digits * 10 ^ place` rounds to the number. -/
def Interval.contains (interval : Interval) (digits : Nat) (place : Int) : Bool :=
  let (low, lowUnit) := scaled interval.lower interval.exponent place
  let (high, highUnit) := scaled interval.upper interval.exponent place
  if interval.closed then low ≤ digits * lowUnit && digits * highUnit ≤ high
  else low < digits * lowUnit && digits * highUnit < high

/-! ### The digits -/

/-- The grid point of a place that identifies the number, if there is one. -/
def atPlace (interval : Interval) (place : Int) : Option Nat :=
  let (value, unit) := scaled (4 * interval.significand) interval.exponent place
  let below := value / unit
  let rest := value % unit
  let above := below + 1
  match interval.contains below place && below != 0, interval.contains above place with
  | false, false => none
  | true, false => some below
  | false, true => some above
  | true, true =>
    if 2 * rest < unit || (2 * rest = unit && below % 2 = 0) then some below else some above

/-- The place of the leading digit of a number, tried from a place upwards. -/
def leadingPlace (interval : Interval) : (tries : Nat) → (place : Int) → Int
  | 0, place => place
  | tries + 1, place =>
    let (value, unit) := scaled (4 * interval.significand) interval.exponent (place + 1)
    if value < unit then place else leadingPlace interval tries (place + 1)

/-- Tries finer and finer grids, up to a number of them. -/
def search (interval : Interval) : (tries : Nat) → (place : Int) → Nat × Int
  | 0, place => (interval.significand, place)
  | tries + 1, place =>
    match atPlace interval place with
    | some digits => (digits, place)
    | none => search interval tries (place - 1)

/-- Drops the zeros at the end of some digits, at most as many as told. -/
def dropZeros : (tries digits : Nat) → (place : Int) → Nat × Int
  | 0, digits, place => (digits, place)
  | tries + 1, digits, place =>
    if digits % 10 = 0 then dropZeros tries (digits / 10) (place + 1) else (digits, place)

/-- The shortest digits of a finite number other than zero, with the place of the last. -/
def digits (number : Float) : Nat × Int :=
  let interval := Interval.ofFloat number
  let (digits, place) := search interval 18 (leadingPlace interval 640 (-330))
  dropZeros 18 digits place

/-! ### Layout -/

/-- How digits are laid out. Leading places from the first up to below the second are written
positionally, the others with an exponent, which may carry a plus sign and is filled up with
zeros to a width. The last two are the words for what is not a finite number. -/
structure Layout where
  plainFrom : Int
  plainBelow : Int
  plusSign : Bool
  exponentWidth : Nat
  notANumber : String
  infinite : String
  negativeInfinite : String

/-- The digits of a number with the place of the last, laid out. -/
def Layout.place (layout : Layout) (digits : Nat) (place : Int) : List Char :=
  let shown := Decimal.digits digits
  let leading := place + shown.length - 1
  if layout.plainFrom ≤ leading && leading < layout.plainBelow then
    if 0 ≤ place then shown ++ List.replicate place.toNat '0' ++ ['.', '0']
    else if 0 ≤ leading then
      shown.take (leading + 1).toNat ++ '.' :: shown.drop (leading + 1).toNat
    else '0' :: '.' :: List.replicate (-leading - 1).toNat '0' ++ shown
  else
    let mantissa := match shown with
      | first :: second :: rest => first :: '.' :: second :: rest
      | short => short
    let magnitude := Decimal.digits leading.natAbs
    let filled := List.replicate (layout.exponentWidth - magnitude.length) '0' ++ magnitude
    let signed := if leading < 0 then '-' :: filled
      else if layout.plusSign then '+' :: filled else filled
    mantissa ++ 'e' :: signed

/-- A number in the shortest form that identifies it. -/
def Layout.text (layout : Layout) (number : Float) : String :=
  if number.isNaN then layout.notANumber
  else if number.isInf then
    if number < 0 then layout.negativeInfinite else layout.infinite
  else
    let negative := Nat.pow 2 63 ≤ number.toBits.toNat
    let magnitude :=
      if number == 0 then ['0', '.', '0']
      else
        let (digits, place) := digits number
        layout.place digits place
    String.ofList (if negative then '-' :: magnitude else magnitude)

end Shortest

end PolyIntake
