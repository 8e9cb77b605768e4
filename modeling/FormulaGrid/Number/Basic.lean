import FormulaGrid.Number.Notation

/-!
Contract: the numbers that a request carries.

Owns:
- the two kinds of number, integers of any size and doubles (`Number`);
- their text, their exact order, and the double they become (`toFloat?`).

An integer and a double are compared as real numbers, without rounding the
integer first. Only not-a-number is unordered.
-/

namespace FormulaGrid

/-- An integer of any size, or a double. -/
inductive Number where
  | int (value : Int)
  | float (value : Float)

/-- The integer is not below the range of doubles nor above it. -/
def fitsFloat (value : Int) : Bool :=
  (Float.ofInt value).isFinite

namespace Number

/-- Integers as numerals, doubles in their standard text. -/
def text : Number → String
  | .int value => Numeral.integer value
  | .float value => floatText value

/-- The integers that the text of the number is written from. -/
def integers : Number → List Int
  | .int value => [value]
  | .float _ => []

/-- The double nearest to the number; an integer out of range has none. -/
def toFloat? : Number → Option Float
  | .int value => if fitsFloat value then some (Float.ofInt value) else none
  | .float value => some value

def exceeds (number : Number) (value : Float) : Bool :=
  match number with
  | .float limit => value < limit
  | .int limit =>
      match Binary.ofFloat? value with
      | some binary => binary.compareInt limit == .lt
      | none => value < 0

def equalsInt (number : Number) (integer : Int) : Bool :=
  match number with
  | .int value => value == integer
  | .float value =>
      match Binary.ofFloat? value with
      | some binary => binary.compareInt integer == .eq
      | none => false

def isNegative : Number → Bool
  | .int value => value < 0
  | .float value => value < 0

def isPositive : Number → Bool
  | .int value => 0 < value
  | .float value => 0 < value

end Number

end FormulaGrid
