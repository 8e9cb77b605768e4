import FormulaGrid.Proofs.Formula.Numeral
import FormulaGrid.Proofs.Formula.Relocation
import Mathlib.Analysis.SpecialFunctions.Log.Base
import Mathlib.Analysis.SpecialFunctions.Pow.Real
import Mathlib.Analysis.SpecialFunctions.Trigonometric.Basic
import Mathlib.NumberTheory.Real.GoldenRatio

/-!
Contract: formulas read exactly, in the real numbers.

Owns:
- the rational number that a numeral writes (`numeralNumber`), and the one that a double is
  (`exactNumber?`);
- the meaning of every construct of the grammar in the real numbers (`realMeaning`), for any
  two numbers in place of π and e;
- what has no real value is a fault, and the meaning can be moved (`realMeaning_movable`).

Nothing is rounded and nothing is too large. A numeral is the number that its digits write, not
the double that is read from them.
-/

namespace FormulaGrid

open Text

/-! ## Numbers -/

/-- The number that a numeral writes. -/
def numeralNumber (span : List Char) : ℚ :=
  let whole := Numeral.leadingDigits span
  let fraction := Numeral.leadingDigits ((Numeral.afterDigits span).drop 1)
  (⟨valueOfDigits 10 (whole ++ fraction), -(fraction.length : Int)⟩ : Decimal).value

theorem Spelling.numeralNumber_characters (spelling : Spelling) :
    numeralNumber spelling.characters = spelling.decimal.value := by
  have length : (digitValues spelling.fraction).length = spelling.fraction.length :=
    List.length_map _
  have digits : digitValues spelling.whole ++ digitValues spelling.fraction =
      digitValues (spelling.whole ++ spelling.fraction) := List.map_append.symm
  obtain ⟨front, behind⟩ := spelling.leadingDigits_characters
  unfold numeralNumber
  dsimp only
  rw [front, behind, length, digits, valueOfDigits_digitValues]
  rfl

/-- The numeral of a natural number writes this number. -/
theorem numeralNumber_natural (number : Nat) :
    numeralNumber (Spelling.natural number).characters = number := by
  rw [Spelling.numeralNumber_characters, Spelling.value_natural]

/-- The number that a finite double is. -/
def exactNumber? (value : Float) : Option ℚ :=
  (Binary.ofFloat? value).map fun number =>
    if number.negative then -number.magnitude else number.magnitude

theorem exactNumber?_two : exactNumber? 2.0 = some 2 := by
  have fields : Binary.ofFloat? 2.0 = some ⟨false, 2 ^ 52, -51⟩ := by decide +kernel
  rw [exactNumber?, fields]
  norm_num [Binary.magnitude]

/-! ## Constructs -/

noncomputable section

namespace RealNumbers

/-- What has no value in the real numbers. -/
def undefined {Value : Type} : Except Fault Value :=
  .error (.argument .outsideDomain)

/-- A real number for each constant. The golden ratio is itself. -/
def constant (circle natural : ℝ) (text : String) : ℝ :=
  if text = "π" then circle else if text = "e" then natural else Real.goldenRatio

/-- A quotient; the divisor may not be zero. -/
def divide (position : Nat) (left right : ℝ) : Except Fault ℝ :=
  if right = 0 then .error (.formula (.divisionByZero position)) else .ok (left / right)

/-- A power. Zero has no negative power, and a negative number only whole ones. -/
def power (base exponent : ℝ) : Except Fault ℝ :=
  if base = 0 ∧ exponent < 0 then
    .error (.formula .zeroToNegativePower)
  else if base < 0 ∧ (⌊exponent⌋ : ℝ) ≠ exponent then
    undefined
  else
    .ok (base ^ exponent)

/-- The factorial of a natural number. -/
def factorial (operand : ℝ) : Except Fault ℝ :=
  if (⌊operand⌋₊ : ℝ) = operand then .ok (Nat.factorial ⌊operand⌋₊) else undefined

/-- A root; an odd root of a negative number is negative. -/
def root (degree radicand : ℝ) : Except Fault ℝ :=
  if degree < 2 then
    undefined
  else if 0 ≤ radicand then
    .ok (radicand ^ (1 / degree))
  else if Even ⌊degree⌋ then
    undefined
  else
    .ok (-(-radicand) ^ (1 / degree))

/-- A logarithm, to the natural base, to base ten, or to the base given. -/
def logarithm (name : FunctionName) (base : Option Float) (argument : ℝ) : Except Fault ℝ :=
  if argument ≤ 0 then
    undefined
  else
    match name, base with
    | .ln, _ => .ok (Real.log argument)
    | _, none => .ok (Real.logb 10 argument)
    | _, some base =>
        match exactNumber? base with
        | some base => if base ≤ 0 ∨ base = 1 then undefined else .ok (Real.logb base argument)
        | none => undefined

/-- A function, without its power. -/
def applyPlain (name : FunctionName) (base : Option Float) (argument : ℝ) : Except Fault ℝ :=
  match name with
  | .sin => .ok (Real.sin argument)
  | .cos => .ok (Real.cos argument)
  | .tan => if Real.cos argument = 0 then undefined else .ok (Real.tan argument)
  | .sqrt => root 2 argument
  | .ln | .log => logarithm name base argument

/-- A function of an argument, raised to its power if it has one. -/
def apply
    (name : FunctionName)
    (exponent : Option Nat)
    (base : Option Float)
    (argument : ℝ) :
    Except Fault ℝ :=
  (applyPlain name base argument).map fun plain =>
    match exponent with
    | some exponent => plain ^ exponent
    | none => plain

/-- What is done with the number that a double is. -/
def withNumber (value : Float) (next : ℝ → Except Fault ℝ) : Except Fault ℝ :=
  match exactNumber? value with
  | some number => next number
  | none => undefined

end RealNumbers

open RealNumbers in
/-- The meaning of the constructs of the grammar in the real numbers, with the given numbers
for π and e. -/
def realMeaning (circle natural : ℝ) : Interpretation ℝ where
  literal token _ :=
    match token.lexeme with
    | .number _ => .ok (numeralNumber token.text.toList)
    | _ => .ok (constant circle natural token.text)
  negate number := -number
  add left right := .ok (left + right)
  subtract left right := .ok (left - right)
  multiply left right := .ok (left * right)
  divide := divide
  raise := power
  superscript base exponent := withNumber exponent (power base)
  factorial := factorial
  absolute number := |number|
  root index radicand := withNumber index fun degree => root degree radicand
  apply := apply

/-! ## Values -/

namespace RealNumbers

theorem power_one (base : ℝ) : power base 1 = .ok base := by
  have notBelow : ¬ (1 : ℝ) < 0 := by norm_num
  have whole : ((⌊(1 : ℝ)⌋ : ℤ) : ℝ) = 1 := by norm_num
  rw [power, if_neg fun both => notBelow both.2, if_neg fun both => both.2 whole, Real.rpow_one]

theorem power_two (base : ℝ) : power base 2 = .ok (base ^ 2) := by
  have notBelow : ¬ (2 : ℝ) < 0 := by norm_num
  have whole : ((⌊(2 : ℝ)⌋ : ℤ) : ℝ) = 2 := by norm_num
  rw [power, if_neg fun both => notBelow both.2, if_neg fun both => both.2 whole, Real.rpow_two]

/-- The root of a square is the absolute value. -/
theorem root_square (base : ℝ) : root 2 (base ^ 2) = .ok |base| := by
  rw [root, if_neg (lt_irrefl 2), if_pos (sq_nonneg base), ← Real.sqrt_eq_rpow,
    Real.sqrt_sq_eq_abs]

theorem factorial_natural (number : Nat) :
    factorial number = .ok (Nat.factorial number : ℝ) := by
  rw [factorial, Nat.floor_natCast, if_pos rfl]

theorem divide_of_ne_zero {right : ℝ} (nonzero : right ≠ 0) (position : Nat) (left : ℝ) :
    divide position left right = .ok (left / right) :=
  if_neg nonzero

/-! ## Places -/

theorem placeless_undefined {Value : Type} : FailsNowhere (undefined : Except Fault Value) :=
  fun _ => rfl

theorem placeless_power (base exponent : ℝ) : FailsNowhere (power base exponent) := by
  unfold power
  split
  · exact fun _ => rfl
  · split
    · exact placeless_undefined
    · trivial

theorem placeless_factorial (operand : ℝ) : FailsNowhere (factorial operand) := by
  unfold factorial
  split
  · trivial
  · exact placeless_undefined

theorem placeless_root (degree radicand : ℝ) : FailsNowhere (root degree radicand) := by
  unfold root
  split
  · exact placeless_undefined
  · split
    · trivial
    · split
      · exact placeless_undefined
      · trivial

theorem placeless_logarithm (name : FunctionName) (base : Option Float) (argument : ℝ) :
    FailsNowhere (logarithm name base argument) := by
  unfold logarithm
  split
  · exact placeless_undefined
  · split
    · trivial
    · trivial
    · split
      · split
        · exact placeless_undefined
        · trivial
      · exact placeless_undefined

theorem placeless_applyPlain (name : FunctionName) (base : Option Float) (argument : ℝ) :
    FailsNowhere (applyPlain name base argument) := by
  cases name with
  | sin | cos => trivial
  | tan =>
      unfold applyPlain
      dsimp only
      split
      · exact placeless_undefined
      · trivial
  | sqrt => exact placeless_root 2 argument
  | ln => exact placeless_logarithm .ln base argument
  | log => exact placeless_logarithm .log base argument

theorem placeless_withNumber
    {next : ℝ → Except Fault ℝ}
    (placeless : ∀ number, FailsNowhere (next number))
    (value : Float) :
    FailsNowhere (withNumber value next) := by
  unfold withNumber
  split
  · exact placeless _
  · exact placeless_undefined

end RealNumbers

open RealNumbers in
/-- In the real numbers, too, only a division knows its place. -/
theorem realMeaning_movable (circle natural : ℝ) : (realMeaning circle natural).Movable where
  literal move token value := by
    obtain ⟨lexeme, text, position⟩ := token
    cases lexeme <;> rfl
  divide move position left right := by
    show divide _ _ _ = movedFault move (divide _ _ _)
    unfold divide
    split <;> rfl
  add _ _ := trivial
  subtract _ _ := trivial
  multiply _ _ := trivial
  raise := placeless_power
  superscript base exponent := placeless_withNumber (placeless_power base) exponent
  factorial := placeless_factorial
  root index radicand := placeless_withNumber (fun degree => placeless_root degree radicand) index
  apply name exponent base argument :=
    (placeless_applyPlain name base argument).map fun _ _ => trivial

end

end FormulaGrid
