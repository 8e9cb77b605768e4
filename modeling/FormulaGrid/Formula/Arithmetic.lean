import FormulaGrid.Formula.Reader
import FormulaGrid.Number.Conversion

/-!
Contract: the arithmetic of formulas.

Owns:
- the elementary functions that the arithmetic rests on (`Elementary`), and how
  they refuse an argument (`Refusal`);
- the meaning of every construct of the grammar in doubles (`arithmetic`);
- the value of a formula (`evaluate`).

Sums, products, quotients and square roots are those of doubles. An operation
whose result would not be finite, or not be real, is a fault; no infinity and no
not-a-number becomes a value. Where a function of the library signals a failure
and nothing handles it, the failure is passed on as it is.
-/

namespace FormulaGrid

/-- Why a function of the library has no double for its arguments: they lie
outside its domain, or the result lies outside the range of doubles. -/
inductive Refusal where
  | domain
  | overflow
deriving DecidableEq, Repr

/-- The fault that a refusal becomes where nothing handles it. -/
def Refusal.fault : Refusal → Fault
  | domain => .argument .outsideDomain
  | overflow => .range .resultBeyondFloat

/-- The elementary functions of doubles. They are a parameter, so that what is
proved of the arithmetic holds for every library of them. -/
structure Elementary where
  sin : Float → Except Refusal Float
  cos : Float → Except Refusal Float
  tan : Float → Except Refusal Float
  exp : Float → Except Refusal Float
  ln : Float → Except Refusal Float
  log2 : Float → Except Refusal Float
  log10 : Float → Except Refusal Float
  pow : Float → Float → Except Refusal Float

namespace Elementary

/-- A function of the machine that signals where it fails. Not-a-number made of a
number is a refused argument, and an infinity made of a finite argument is
refused as the function has it. -/
def signalled
    (infinite : Refusal)
    (function : Float → Float)
    (argument : Float) :
    Except Refusal Float :=
  let value := function argument
  if value.isNaN && !argument.isNaN then
    .error .domain
  else if value.isInf && argument.isFinite then
    .error infinite
  else
    .ok value

/-- The power of the machine, which signals where it fails on finite arguments. -/
def signalledPower (base exponent : Float) : Except Refusal Float :=
  let value := Float.pow base exponent
  if base.isFinite && exponent.isFinite && !value.isFinite then
    if value.isNaN || base == 0.0 then .error .domain else .error .overflow
  else
    .ok value

def native : Elementary where
  sin := signalled .domain Float.sin
  cos := signalled .domain Float.cos
  tan := signalled .domain Float.tan
  exp := signalled .overflow Float.exp
  ln := signalled .domain Float.log
  log2 := signalled .domain Float.log2
  log10 := signalled .domain Float.log10
  pow := signalledPower

end Elementary

/-- The largest number whose factorial is in the range of doubles. -/
def largestFactorial : Int := 170

/-- How far the operand of a factorial may be from an integer. -/
def factorialSlack : Float := 1e-9

/-- The product of the numbers from one up. -/
def productUpTo : Nat → Nat
  | 0 => 1
  | number + 1 => (number + 1) * productUpTo number

/-- The factorial of an integer; a negative one has none. -/
def factorialOf (number : Int) : Except Fault Nat :=
  if number < 0 then
    .error (.argument .negativeFactorial)
  else
    .ok (productUpTo number.toNat)

namespace Arithmetic

/-- A result, which must be finite. -/
def checked (operation : String) (value : Float) : Except Fault Float :=
  if value.isFinite then .ok value else .error (.formula (.notFinite operation))

/-- What the library answers; nothing handles its refusals. -/
def answer (result : Except Refusal Float) : Except Fault Float :=
  result.mapError Refusal.fault

def literal (token : Token) (value : Float) : Except Fault Float :=
  checked ("literal " ++ token.text) value

/-- A quotient; the divisor may not be zero. -/
def divide (position : Nat) (left right : Float) : Except Fault Float :=
  if right == 0.0 then
    .error (.formula (.divisionByZero position))
  else
    checked "division" (left / right)

/-- A power whose exponent is a double, shown as the given number. Zero has no
negative power. A power that is not real and one that is too large are told
apart. -/
def raiseTo
    (functions : Elementary)
    (base exponent : Float)
    (shown : Number) :
    Except Fault Float :=
  if base == 0.0 && exponent < 0.0 then
    .error (.formula .zeroToNegativePower)
  else
    match functions.pow base exponent with
    | .ok value => checked "power" value
    | .error .domain => .error (.formula (.powerNotReal base shown))
    | .error .overflow => .error (.formula (.powerOverflow base shown))

/-- A power with an exponent that may be any double. -/
def raise (functions : Elementary) (base exponent : Float) : Except Fault Float :=
  raiseTo functions base exponent (.float exponent)

/-- A power with a natural exponent; one beyond the range of doubles overflows. -/
def raiseNatural
    (functions : Elementary)
    (base : Float)
    (exponent : Nat) :
    Except Fault Float :=
  match (Number.int exponent).toFloat? with
  | some float => raiseTo functions base float (.int exponent)
  | none => .error (.formula (.powerOverflow base (.int exponent)))

/-- The factorial of a number that is, but for a slack, a natural one. -/
def factorial (operand : Float) : Except Fault Float := do
  let nearest ← nearestInteger operand
  if operand < 0.0 then
    throw (.formula (.unfitFactorial operand))
  let rounded ← floatOfInteger nearest
  if factorialSlack < (operand - rounded).abs then
    throw (.formula (.unfitFactorial operand))
  if largestFactorial < nearest then
    throw (.formula (.factorialOverflow nearest))
  floatOfInteger (← factorialOf nearest)

/-- The square root, which a negative number does not have. -/
def squareRoot (radicand : Float) : Except Fault Float :=
  answer (Elementary.signalled .domain Float.sqrt radicand)

def hasFraction (value : Float) : Bool :=
  match Binary.ofFloat? value with
  | some binary => binary.toInt?.isNone
  | none => false

/-- A power that nothing handles. Zero has no negative power, and the powers of a
negative number are complex unless the exponent is whole. -/
def barePower
    (functions : Elementary)
    (base exponent : Float) :
    Except Fault Float :=
  if base == 0.0 && exponent < 0.0 then
    .error (.zero .negativePower)
  else if base < 0.0 && hasFraction exponent then
    .error (.kind .complexNumber)
  else
    match functions.pow base exponent with
    | .ok value => .ok value
    | .error .domain => .error (.argument .outsideDomain)
    | .error .overflow => .error (.range .powerBeyondFloat)

/-- The root of a number that is not negative. -/
def positiveRoot
    (functions : Elementary)
    (index : Int)
    (radicand : Float) :
    Except Fault Float :=
  if index == 2 then
    squareRoot radicand
  else do
    let degree ← floatOfInteger index
    let value ← barePower functions radicand (1.0 / degree)
    checked "root" value

/-- A root with a whole index; an odd root of a negative number is negative. -/
def wholeRootOf
    (functions : Elementary)
    (index : Int)
    (radicand : Float) :
    Except Fault Float :=
  if index < 2 then
    .error (.formula (.smallRootIndex index))
  else if radicand < 0.0 then
    if index % 2 == 0 then
      .error (.formula (.evenRootOfNegative radicand))
    else
      (positiveRoot functions index (-radicand)).map fun value => -value
  else
    positiveRoot functions index radicand

/-- A root whose index is a whole double. -/
def root (functions : Elementary) (index radicand : Float) : Except Fault Float := do
  wholeRootOf functions (← nearestInteger index) radicand

/-- A logarithm, to the natural base, to base ten, or to the base given. -/
def logarithm
    (functions : Elementary)
    (name : FunctionName)
    (base : Option Float)
    (argument : Float) :
    Except Fault Float :=
  if argument <= 0.0 then
    .error (.formula (.logarithmOfNonPositive name.word argument))
  else
    match name, base with
    | .ln, _ => answer (functions.ln argument)
    | _, none => answer (functions.log10 argument)
    | _, some base =>
        if base <= 0.0 || base == 1.0 then
          .error (.formula (.unfitLogarithmBase base))
        else do
          let dividend ← answer (functions.ln argument)
          let divisor ← answer (functions.ln base)
          if divisor == 0.0 then
            throw (.zero .divisor)
          return dividend / divisor

/-- The function itself, without its power. -/
def applyPlain
    (functions : Elementary)
    (name : FunctionName)
    (base : Option Float)
    (argument : Float) :
    Except Fault Float :=
  match name with
  | .sin => answer (functions.sin argument)
  | .cos => answer (functions.cos argument)
  | .tan => answer (functions.tan argument)
  | .sqrt => wholeRootOf functions 2 argument
  | .ln | .log => logarithm functions name base argument

/-- A function of an argument, raised to its power if it has one. -/
def apply
    (functions : Elementary)
    (name : FunctionName)
    (power : Option Nat)
    (base : Option Float)
    (argument : Float) :
    Except Fault Float := do
  let plain ← applyPlain functions name base argument
  let value ←
    match power with
    | some exponent => raiseNatural functions plain exponent
    | none => pure plain
  checked name.word value

end Arithmetic

open Arithmetic in
/-- The meaning of the constructs of the grammar in doubles. -/
def arithmetic (functions : Elementary) : Interpretation Float where
  literal := literal
  negate value := -value
  add left right := checked "addition" (left + right)
  subtract left right := checked "subtraction" (left - right)
  multiply left right := checked "multiplication" (left * right)
  divide := divide
  raise := raise functions
  superscript := raise functions
  factorial := factorial
  absolute value := value.abs
  root := root functions
  apply := apply functions

end FormulaGrid
