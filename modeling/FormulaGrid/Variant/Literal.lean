import FormulaGrid.Number.Conversion

/-!
Contract: the literals that a variant is built from.

Owns:
- the literal of a number (`literal`), digits in place without an exponent;
- the operand of a number (`operand`), a literal that can stand on either side of
  an operator;
- the integer that a number equals (`wholeValue?`).

A literal reads back as its number. Infinities, not-a-number and overlong integers
have none.
-/

namespace FormulaGrid.Variant

/-- Whole doubles below this size are written without a point. -/
def plainBound : Nat := Nat.pow 10 15

/-- The literal of a finite double. Small whole numbers are numerals, others
their standard text, or that text with its digits moved in place. -/
def binaryLiteral (number : Binary) : String :=
  let decimal := number.shortest
  let spelled :=
    if Style.standard.inPlace decimal.leading then
      number.write Style.standard Binary.shortest
    else
      number.write Style.expanded Binary.shortest
  match number.toInt? with
  | some whole => if whole.natAbs < plainBound then Numeral.integer whole else spelled
  | none => spelled

/-- The literal of a number. An integer may be too long to be written. -/
def literal : Number → Except Fault String
  | .int value =>
      if Numeral.isWritable value then
        .ok (Numeral.integer value)
      else
        .error (.argument .overlongInteger)
  | .float value =>
      match Binary.ofFloat? value with
      | some number => .ok (binaryLiteral number)
      | none => .error (notFiniteFault value)

/-- A literal in parentheses if its number is negative. -/
def bracketed (negative : Bool) (literal : String) : String :=
  if negative then "(" ++ literal ++ ")" else literal

def operand (number : Number) : Except Fault String :=
  (literal number).map (bracketed number.isNegative)

def integerOperand (value : Int) : String :=
  bracketed (value < 0) (Numeral.integer value)

/-- The integer that a number equals. An integer beyond the range of doubles is a
fault. -/
def wholeValue? : Number → Except Fault (Option Int)
  | .int value =>
      if fitsFloat value then .ok (some value) else .error (.range .integerBeyondFloat)
  | .float value => .ok ((Binary.ofFloat? value).bind Binary.toInt?)

end FormulaGrid.Variant
