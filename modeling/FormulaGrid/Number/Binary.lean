/-!
Contract: the exact value of a finite double.

Owns:
- the decoding of a double into sign, significand and exponent (`Binary`);
- its magnitude as a quotient of natural numbers;
- the integer it equals, the integer nearest to it, and its exact comparison
  with an integer.

A finite double is a whole number of units, each unit a power of two, so every
question about it is one about natural numbers.
-/

namespace FormulaGrid

/-- A finite double: its magnitude is `significand * 2 ^ exponent`. -/
structure Binary where
  negative : Bool
  significand : Nat
  exponent : Int
deriving DecidableEq, Repr

namespace Binary

/-- The significand at which the spacing of doubles doubles. -/
def hiddenBit : Nat := Nat.pow 2 52

/-- The exponent of the smallest doubles. -/
def leastExponent : Int := -1074

/-- The fields of a finite double; infinities and not-a-number have none. -/
def ofFloat? (value : Float) : Option Binary :=
  let bits := value.toBits.toNat
  let negative := bits / Nat.pow 2 63 == 1
  let field := bits / hiddenBit % Nat.pow 2 11
  let fraction := bits % hiddenBit
  if field == 2047 then
    none
  else if field == 0 then
    some ⟨negative, fraction, leastExponent⟩
  else
    some ⟨negative, hiddenBit + fraction, leastExponent + (field - 1 : Nat)⟩

/-- Dividend of the magnitude. -/
def numerator (number : Binary) : Nat :=
  number.significand * Nat.pow 2 number.exponent.toNat

/-- Divisor of the magnitude. -/
def denominator (number : Binary) : Nat :=
  Nat.pow 2 (-number.exponent).toNat

/-- Give a magnitude the sign of the number. -/
def withSign (number : Binary) (magnitude : Nat) : Int :=
  if number.negative then -(magnitude : Int) else (magnitude : Int)

/-- The integer that the number equals, if it is whole. -/
def toInt? (number : Binary) : Option Int :=
  if number.numerator % number.denominator == 0 then
    some (number.withSign (number.numerator / number.denominator))
  else
    none

/-- The nearest integer; halfway between two it is the even one. -/
def nearestInt (number : Binary) : Int :=
  let whole := number.numerator / number.denominator
  let rest := 2 * (number.numerator % number.denominator)
  number.withSign <|
    if rest < number.denominator then
      whole
    else if number.denominator < rest then
      whole + 1
    else
      whole + whole % 2

/-- Exact comparison with an integer. -/
def compareInt (number : Binary) (integer : Int) : Ordering :=
  compare (number.withSign number.numerator) (integer * number.denominator)

end Binary

end FormulaGrid
