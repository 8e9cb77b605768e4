import FormulaGrid.Number.Binary

/-!
Contract: the decimals that stand for a finite double.

Owns:
- decimals as a whole number of powers of ten (`Decimal`);
- the interval of the reals that round to a double (`Binary.roundsFrom`);
- the shortest decimal inside it (`Binary.shortest`);
- the decimal with a given number of significant digits (`Binary.rounded`).

For one digit, two digits and so on, the two points of the decimal grid beside
the double are tried; the first grid with a point in the interval wins. Of two
such points the nearer is taken, and the even one of two equally near.
-/

namespace FormulaGrid

/-- The number `coefficient * 10 ^ exponent`. -/
structure Decimal where
  coefficient : Nat
  exponent : Int
deriving DecidableEq, Repr

def digitCount (value : Nat) : Nat :=
  (Nat.toDigits 10 value).length

/-- The exponent of the leading digit of a positive quotient. -/
def leadingExponent (numerator denominator : Nat) : Int :=
  if denominator ≤ numerator then
    (digitCount (numerator / denominator) : Int) - 1
  else
    let places := digitCount denominator - digitCount numerator
    if denominator ≤ numerator * Nat.pow 10 places then -(places : Int) else -(places : Int) - 1

namespace Binary

/-- Dividend and divisor of the number measured in units of a power of ten. -/
def inUnits (number : Binary) (exponent : Int) : Nat × Nat :=
  (number.numerator * Nat.pow 10 (-exponent).toNat,
    number.denominator * Nat.pow 10 exponent.toNat)

/-- Quarters of the spacing between the double and the end of its interval
below it. Below a power of two the spacing is half as wide. -/
def quartersBelow (number : Binary) : Nat :=
  if number.significand == hiddenBit && leastExponent < number.exponent then 1 else 2

/-- The decimal lies in the interval of the reals that round to the double. The
ends of the interval belong to it when the significand is even. -/
def roundsFrom (number : Binary) (decimal : Decimal) : Bool :=
  let point :=
    decimal.coefficient * Nat.pow 10 decimal.exponent.toNat *
      Nat.pow 2 (-number.exponent).toNat * 4
  let unit := Nat.pow 10 (-decimal.exponent).toNat * Nat.pow 2 number.exponent.toNat
  let low := (4 * number.significand - number.quartersBelow) * unit
  let high := (4 * number.significand + 2) * unit
  if number.significand % 2 == 0 then
    low ≤ point && point ≤ high
  else
    low < point && point < high

/-- Of the two grid points beside the number, the one that stands for it. -/
def gridPoint? (number : Binary) (exponent : Int) : Option Decimal :=
  let (dividend, divisor) := number.inUnits exponent
  let below : Decimal := ⟨dividend / divisor, exponent⟩
  let above : Decimal := ⟨dividend / divisor + 1, exponent⟩
  let rest := 2 * (dividend % divisor)
  match number.roundsFrom below, number.roundsFrom above with
  | true, true =>
      if rest < divisor || (rest == divisor && below.coefficient % 2 == 0) then
        some below
      else
        some above
  | true, false => some below
  | false, true => some above
  | false, false => none

/-- Digits that always suffice to tell two doubles apart. -/
def enoughDigits : Nat := 17

/-- The decimal of fewest digits that rounds to the double. -/
def shortest (number : Binary) : Decimal :=
  if number.significand == 0 then
    ⟨0, 0⟩
  else
    let leading := leadingExponent number.numerator number.denominator
    let last := leading + 1 - (enoughDigits : Int)
    let grids := (List.range enoughDigits).map fun (further : Nat) => leading - (further : Int)
    (grids.findSome? number.gridPoint?).getD
      ⟨(number.inUnits last).1 / (number.inUnits last).2, last⟩

/-- The number rounded to a count of significant digits; halfway between two
decimals the even one is taken. -/
def rounded (digits : Nat) (number : Binary) : Decimal :=
  if number.significand == 0 then
    ⟨0, 0⟩
  else
    let last := leadingExponent number.numerator number.denominator + 1 - (digits : Int)
    let (dividend, divisor) := number.inUnits last
    let whole := dividend / divisor
    let rest := 2 * (dividend % divisor)
    if rest < divisor then
      ⟨whole, last⟩
    else if divisor < rest then
      ⟨whole + 1, last⟩
    else
      ⟨whole + whole % 2, last⟩

end Binary

end FormulaGrid
