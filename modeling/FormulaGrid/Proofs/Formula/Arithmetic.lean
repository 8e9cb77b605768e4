import FormulaGrid.Formula.Arithmetic
import FormulaGrid.Proofs.Formula.Invariant
import FormulaGrid.Proofs.Number.Finite

/-!
Contract: the arithmetic of formulas leads from finite doubles to finite doubles.

Owns:
- what is relied on of the library of elementary functions
  (`Elementary.Documented`);
- the lexemes whose payload the arithmetic can use (`Lexeme.Usable`);
- every construct makes of finite values a finite value or a typed fault of the
  formula (`arithmetic_keeps`).

Where a result is checked nothing is to be shown. Square roots, factorials and whole
numbers are not checked or come before a step that fails untyped, and are finite by
themselves.
-/

namespace FormulaGrid

/-- What is documented of the elementary functions: on numbers of their domain they are
not refused. A finite angle has a sine, a cosine and a tangent, and a positive number
has logarithms, the natural one at infinity too. The natural logarithm is zero only at
one. A root of a finite number that is not negative, written as a power, does not leave
the range of doubles. Nothing is asked of other powers, whose refusals are handled, and
nothing of the size of a value, which is checked. -/
structure Elementary.Documented (functions : Elementary) : Prop where
  sin : ∀ argument : Float, argument.isFinite = true →
    ∃ value : Float, functions.sin argument = .ok value
  cos : ∀ argument : Float, argument.isFinite = true →
    ∃ value : Float, functions.cos argument = .ok value
  tan : ∀ argument : Float, argument.isFinite = true →
    ∃ value : Float, functions.tan argument = .ok value
  log10 : ∀ argument : Float, argument.isFinite = true → ¬ argument ≤ 0.0 →
    ∃ value : Float, functions.log10 argument = .ok value
  ln : ∀ argument : Float, argument.isNaN = false → ¬ argument ≤ 0.0 →
    ∃ value : Float, functions.ln argument = .ok value
  lnZero : ∀ argument value : Float, functions.ln argument = .ok value →
    (value == 0.0) = true → (argument == 1.0) = true
  root : ∀ (radicand : Float) (index : Int), radicand.isFinite = true →
    ¬ radicand < 0.0 → 2 < index → fitsFloat index = true →
      ∃ value : Float, functions.pow radicand (1.0 / Float.ofInt index) = .ok value

/-- The double is finite. -/
def IsFinite (value : Float) : Prop :=
  value.isFinite = true

/-- The fault is a typed one of the formula. -/
def IsFormulaFault (fault : Fault) : Prop :=
  ∃ cause : FormulaFault, fault = .formula cause

/-- A root has a finite index, and the base of a logarithm is not negative. -/
def Lexeme.Usable : Lexeme → Prop
  | .root index => IsFinite index
  | .function _ _ (some base) => signOf (parts base) = some .positive
  | _ => True

namespace Arithmetic

theorem yields_checked (operation : String) (value : Float) :
    Yields IsFinite IsFormulaFault (checked operation value) := by
  unfold checked
  split
  next finite => exact finite
  next => exact ⟨_, rfl⟩

theorem isNaN_isInf_of_isFinite {value : Float} (finite : IsFinite value) :
    value.isNaN = false ∧ value.isInf = false := by
  have partsFinite : (parts value).isFinite = true := finite
  show (parts value).isNaN = false ∧ (parts value).isInf = false
  cases same : parts value with
  | notANumber | infinity => rw [same] at partsFinite; exact Bool.noConfusion partsFinite
  | zero | finite => exact ⟨rfl, rfl⟩

theorem floatOfInteger_of_natAbs_le {number : Int} (small : number.natAbs ≤ greatestDouble) :
    floatOfInteger number = .ok (Float.ofInt number) := by
  unfold floatOfInteger
  rw [fitsFloat_of_natAbs_le small]
  rfl

/-- A finite double has a nearest integer, which is converted back. -/
theorem exists_nearestInteger {value : Float} (finite : IsFinite value) :
    ∃ nearest : Int,
      nearestInteger value = .ok nearest ∧
        nearest.natAbs ≤ greatestDouble ∧
        (¬ value < 0.0 → 0 ≤ nearest) := by
  obtain ⟨binary, decoded⟩ := exists_ofFloat?_of_isFinite finite
  refine ⟨binary.nearestInt, ?_, natAbs_nearestInt_le decoded, nearestInt_nonneg decoded⟩
  unfold nearestInteger
  rw [decoded]

theorem yields_divide (position : Nat) (left right : Float) :
    Yields IsFinite IsFormulaFault (divide position left right) := by
  unfold divide
  split
  · exact ⟨_, rfl⟩
  · exact yields_checked _ _

/-- A power is finite or a typed fault, whatever the library answers. -/
theorem yields_raiseTo
    (functions : Elementary)
    (base exponent : Float)
    (shown : Number) :
    Yields IsFinite IsFormulaFault (raiseTo functions base exponent shown) := by
  unfold raiseTo
  split
  · exact ⟨_, rfl⟩
  · split
    · exact yields_checked _ _
    · exact ⟨_, rfl⟩
    · exact ⟨_, rfl⟩

theorem yields_raiseNatural (functions : Elementary) (base : Float) (exponent : Nat) :
    Yields IsFinite IsFormulaFault (raiseNatural functions base exponent) := by
  unfold raiseNatural
  split
  · exact yields_raiseTo _ _ _ _
  · exact ⟨_, rfl⟩

theorem productUpTo_le {number bound : Nat} (small : number ≤ bound) :
    productUpTo number ≤ productUpTo bound := by
  induction small with
  | refl => exact Nat.le_refl _
  | step _ inductionHypothesis =>
      exact Nat.le_trans inductionHypothesis (Nat.le_mul_of_pos_left _ (Nat.succ_pos _))

theorem productUpTo_largest_le : productUpTo 170 ≤ greatestDouble := by
  decide +kernel

/-- A factorial is finite or a typed fault: the operand has a nearest integer, which
is natural and small wherever its factorial is reached. -/
theorem yields_factorial {operand : Float} (finite : IsFinite operand) :
    Yields IsFinite IsFormulaFault (factorial operand) := by
  obtain ⟨nearest, found, small, notNegative⟩ := exists_nearestInteger finite
  unfold factorial
  rw [found]
  show Yields _ _ (if operand < 0.0 then _ else _)
  split
  next => exact ⟨_, rfl⟩
  next notBelow =>
    have natural : 0 ≤ nearest := notNegative notBelow
    show Yields _ _ (floatOfInteger nearest >>= _)
    rw [floatOfInteger_of_natAbs_le small]
    show Yields _ _ (if factorialSlack < (operand - Float.ofInt nearest).abs then _ else _)
    split
    next => exact ⟨_, rfl⟩
    next =>
      show Yields _ _ (if largestFactorial < nearest then _ else _)
      split
      next => exact ⟨_, rfl⟩
      next reached =>
        have bound : nearest.toNat ≤ 170 := by
          unfold largestFactorial at reached
          omega
        have product : (productUpTo nearest.toNat : Int).natAbs ≤ greatestDouble :=
          Nat.le_trans (productUpTo_le bound) productUpTo_largest_le
        have defined : factorialOf nearest = .ok (productUpTo nearest.toNat) :=
          if_neg (by omega)
        show Yields _ _ (factorialOf nearest >>= _)
        rw [defined]
        show Yields _ _ (floatOfInteger (productUpTo nearest.toNat))
        rw [floatOfInteger_of_natAbs_le product]
        exact isFinite_ofNat product

/-- The square root of a finite number that is not negative is finite. -/
theorem squareRoot_of_not_lt_zero
    {radicand : Float}
    (finite : IsFinite radicand)
    (notBelow : ¬ radicand < 0.0) :
    squareRoot radicand = .ok radicand.sqrt ∧ IsFinite radicand.sqrt := by
  have result : IsFinite radicand.sqrt := isFinite_sqrt finite notBelow
  obtain ⟨number, bounded⟩ := isNaN_isInf_of_isFinite result
  refine ⟨?_, result⟩
  unfold squareRoot Elementary.signalled
  simp only [number, bounded, Bool.false_and, Bool.false_eq_true, if_false]
  rfl

theorem yields_squareRoot
    {radicand : Float}
    (finite : IsFinite radicand)
    (notBelow : ¬ radicand < 0.0) :
    Yields IsFinite IsFormulaFault (squareRoot radicand) := by
  obtain ⟨same, result⟩ := squareRoot_of_not_lt_zero finite notBelow
  rw [same]
  exact result

theorem not_reciprocal_ofInt_lt_zero {index : Int} (positive : 0 < index) :
    ¬ 1.0 / Float.ofInt index < 0.0 := by
  obtain ⟨magnitude, rfl⟩ := Int.eq_ofNat_of_zero_le (Int.le_of_lt positive)
  exact not_reciprocal_lt_zero (signOf_ofNat (Int.natCast_pos.mp positive))

/-- A bare power answers as the library does where neither number is below zero. -/
theorem barePower_of_not_lt_zero
    {functions : Elementary}
    {base exponent value : Float}
    (baseNotBelow : ¬ base < 0.0)
    (exponentNotBelow : ¬ exponent < 0.0)
    (answered : functions.pow base exponent = .ok value) :
    barePower functions base exponent = .ok value := by
  unfold barePower
  simp only [baseNotBelow, exponentNotBelow, decide_false, Bool.and_false, Bool.false_and,
    Bool.false_eq_true, if_false]
  rw [answered]

/-- The root of a finite number that is not negative is finite or a typed fault. -/
theorem yields_positiveRoot
    {functions : Elementary}
    (documented : functions.Documented)
    {index : Int}
    {radicand : Float}
    (large : 2 ≤ index)
    (small : index.natAbs ≤ greatestDouble)
    (finite : IsFinite radicand)
    (notBelow : ¬ radicand < 0.0) :
    Yields IsFinite IsFormulaFault (positiveRoot functions index radicand) := by
  unfold positiveRoot
  split
  next => exact yields_squareRoot finite notBelow
  next other =>
    have higher : 2 < index := by
      rw [beq_iff_eq] at other
      omega
    obtain ⟨value, answered⟩ :=
      documented.root radicand index finite notBelow higher (fitsFloat_of_natAbs_le small)
    have power : barePower functions radicand (1.0 / Float.ofInt index) = .ok value :=
      barePower_of_not_lt_zero notBelow (not_reciprocal_ofInt_lt_zero (by omega)) answered
    rw [floatOfInteger_of_natAbs_le small]
    show Yields _ _ (barePower functions radicand (1.0 / Float.ofInt index) >>= _)
    rw [power]
    exact yields_checked _ _

/-- So is every root of a finite number with a whole index: an odd one of a negative
number is that of its negative. -/
theorem yields_wholeRootOf
    {functions : Elementary}
    (documented : functions.Documented)
    {index : Int}
    {radicand : Float}
    (small : index.natAbs ≤ greatestDouble)
    (finite : IsFinite radicand) :
    Yields IsFinite IsFormulaFault (wholeRootOf functions index radicand) := by
  unfold wholeRootOf
  split
  next => exact ⟨_, rfl⟩
  next notSmaller =>
    have large : 2 ≤ index := Int.not_lt.mp notSmaller
    split
    next below =>
      split
      next => exact ⟨_, rfl⟩
      next =>
        have opposite := yields_positiveRoot documented large small (isFinite_neg finite)
          (not_neg_lt_zero below)
        exact opposite.map fun value => isFinite_neg
    next notBelow => exact yields_positiveRoot documented large small finite notBelow

theorem yields_root
    {functions : Elementary}
    (documented : functions.Documented)
    {index radicand : Float}
    (indexFinite : IsFinite index)
    (finite : IsFinite radicand) :
    Yields IsFinite IsFormulaFault (root functions index radicand) := by
  obtain ⟨nearest, found, small, _⟩ := exists_nearestInteger indexFinite
  unfold root
  rw [found]
  exact yields_wholeRootOf documented small finite

theorem isNaN_of_signOf
    {value : Float}
    (positive : signOf (parts value) = some .positive) :
    value.isNaN = false := by
  show (parts value).isNaN = false
  cases same : parts value with
  | notANumber => rw [same] at positive; contradiction
  | infinity | zero | finite => rfl

/-- What is not refused is passed on. -/
theorem yields_answer
    {result : Except Refusal Float}
    (answered : ∃ value : Float, result = .ok value) :
    Yields (fun _ => True) IsFormulaFault (answer result) := by
  obtain ⟨value, same⟩ := answered
  rw [same]
  trivial

/-- A logarithm to the base given has a value or a typed fault: the logarithm of the
base is zero only where the base is one, which is refused before. -/
theorem yields_logarithmToBase
    {functions : Elementary}
    (documented : functions.Documented)
    {base argument : Float}
    (positive : signOf (parts base) = some .positive)
    (finite : IsFinite argument) :
    Yields (fun _ => True) IsFormulaFault (logarithm functions .log (some base) argument) := by
  unfold logarithm
  split
  next => exact ⟨_, rfl⟩
  next argumentPositive =>
    obtain ⟨isNumber, _⟩ := isNaN_isInf_of_isFinite finite
    obtain ⟨dividend, ofArgument⟩ := documented.ln argument isNumber argumentPositive
    show Yields _ _ (if base <= 0.0 || base == 1.0 then _ else _)
    split
    next => exact ⟨_, rfl⟩
    next fit =>
      rw [Bool.or_eq_true, decide_eq_true_iff, not_or] at fit
      obtain ⟨nonzero, notOne⟩ := fit
      obtain ⟨divisor, ofBase⟩ := documented.ln base (isNaN_of_signOf positive) nonzero
      have divides : ¬ (divisor == 0.0) = true :=
        fun zero => notOne (documented.lnZero base divisor ofBase zero)
      rw [ofArgument, ofBase]
      show Yields _ _ (if divisor == 0.0 then _ else _)
      rw [if_neg divides]
      trivial

theorem yields_commonLogarithm
    {functions : Elementary}
    (documented : functions.Documented)
    {argument : Float}
    (finite : IsFinite argument) :
    Yields (fun _ => True) IsFormulaFault (logarithm functions .log none argument) := by
  unfold logarithm
  split
  next => exact ⟨_, rfl⟩
  next positive => exact yields_answer (documented.log10 argument finite positive)

theorem yields_naturalLogarithm
    {functions : Elementary}
    (documented : functions.Documented)
    (base : Option Float)
    {argument : Float}
    (finite : IsFinite argument) :
    Yields (fun _ => True) IsFormulaFault (logarithm functions .ln base argument) := by
  unfold logarithm
  split
  next => exact ⟨_, rfl⟩
  next positive =>
    obtain ⟨isNumber, _⟩ := isNaN_isInf_of_isFinite finite
    exact yields_answer (documented.ln argument isNumber positive)

theorem yields_applyPlain
    {functions : Elementary}
    (documented : functions.Documented)
    {name : FunctionName}
    {power : Option Nat}
    {base : Option Float}
    {argument : Float}
    (usable : Lexeme.Usable (.function name power base))
    (finite : IsFinite argument) :
    Yields (fun _ => True) IsFormulaFault (applyPlain functions name base argument) := by
  cases name with
  | sin => exact yields_answer (documented.sin argument finite)
  | cos => exact yields_answer (documented.cos argument finite)
  | tan => exact yields_answer (documented.tan argument finite)
  | sqrt =>
      have small : (2 : Int).natAbs ≤ greatestDouble := by decide +kernel
      exact (yields_wholeRootOf documented small finite).imp fun _ _ => trivial
  | ln => exact yields_naturalLogarithm documented base finite
  | log =>
      cases base with
      | none => exact yields_commonLogarithm documented finite
      | some given => exact yields_logarithmToBase documented usable finite

/-- A function with or without a power has a finite value or a typed fault: whatever
the function itself is worth, the result is checked. -/
theorem yields_apply
    {functions : Elementary}
    (documented : functions.Documented)
    {name : FunctionName}
    {power : Option Nat}
    {base : Option Float}
    {argument : Float}
    (usable : Lexeme.Usable (.function name power base))
    (finite : IsFinite argument) :
    Yields IsFinite IsFormulaFault (apply functions name power base argument) := by
  have plain := yields_applyPlain documented usable finite
  unfold apply
  refine plain.bind fun value _ => ?_
  cases power with
  | none => exact yields_checked _ _
  | some exponent =>
      exact (yields_raiseNatural functions value exponent).bind fun raised _ =>
        yields_checked _ _

end Arithmetic

open Arithmetic in
/-- Every construct makes of finite doubles a finite double or a typed fault. -/
theorem arithmetic_keeps {functions : Elementary} (documented : functions.Documented) :
    (arithmetic functions).Keeps Lexeme.Usable IsFinite IsFormulaFault where
  literal _ _ := yields_checked _ _
  negate _ finite := isFinite_neg finite
  add _ _ _ _ := yields_checked _ _
  subtract _ _ _ _ := yields_checked _ _
  multiply _ _ _ _ := yields_checked _ _
  divide _ _ _ _ _ := yields_divide _ _ _
  raise _ _ _ _ := yields_raiseTo _ _ _ _
  superscript _ _ _ _ := yields_raiseTo _ _ _ _
  factorial _ finite := yields_factorial finite
  absolute _ finite := isFinite_abs finite
  root _ _ usable finite := yields_root documented usable finite
  apply _ _ _ _ usable finite := yields_apply documented usable finite

end FormulaGrid
