import FormulaGrid.Proofs.Formula.Arithmetic
import FormulaGrid.Proofs.Formula.RealReading

/-!
Contract: phrases that denote a number and can be computed.

Owns:
- what is relied on of whole powers (`Elementary.HasWholePowers`);
- the faults of results that are too large (`IsTooLarge`);
- phrases that denote a number in the real numbers, and in doubles have a finite value unless a
  result is too large (`Phrase.Denotes`), with one rule for each construct;
- the root of a square denotes an absolute value (`Phrase.denotes_rootOfSquare`).

The double need not be near the number: sums and products are rounded, and a literal may be the
shortest decimal of its double.
-/

namespace FormulaGrid

open Arithmetic RealNumbers

/-! ## Whole powers -/

/-- What is documented of whole powers of finite numbers. They are not refused for their domain,
but for negative powers of zero, and no square is below zero. -/
structure Elementary.HasWholePowers (functions : Elementary) : Prop where
  inDomain : ∀ base exponent : Float, base.isFinite = true → exponent.isFinite = true →
    hasFraction exponent = false → ¬ ((base == 0.0) = true ∧ exponent < 0.0) →
      functions.pow base exponent ≠ .error .domain
  square : ∀ base value : Float, base.isFinite = true → functions.pow base 2.0 = .ok value →
    ¬ value < 0.0

/-- The fault says that a result is too large. -/
def IsTooLarge (fault : Fault) : Prop :=
  fault.family? = some .numericOverflow

namespace Arithmetic

theorem tooLarge_checked (operation : String) (value : Float) :
    Yields IsFinite IsTooLarge (checked operation value) := by
  unfold checked
  split
  next finite => exact finite
  next => rfl

/-- A whole power that is not negative is the library's, or too large. -/
theorem tooLarge_raise
    {functions : Elementary}
    (powers : functions.HasWholePowers)
    {base exponent : Float}
    (finite : IsFinite base)
    (exponentFinite : exponent.isFinite = true)
    (whole : hasFraction exponent = false)
    (notBelow : ¬ exponent < 0.0) :
    Yields (fun value => IsFinite value ∧ functions.pow base exponent = .ok value) IsTooLarge
      (raise functions base exponent) := by
  have inDomain := powers.inDomain base exponent finite exponentFinite whole
    fun both => notBelow both.2
  unfold raise raiseTo
  rw [decide_eq_false notBelow, Bool.and_false, if_neg Bool.false_ne_true]
  split
  next value answered =>
    unfold checked
    split
    next valueFinite => exact ⟨valueFinite, answered⟩
    next => rfl
  next refused => exact absurd refused inDomain
  next => rfl

/-- The square root of what is not below zero is a finite double. -/
theorem exists_root_two
    (functions : Elementary)
    {radicand : Float}
    (finite : IsFinite radicand)
    (notBelow : ¬ radicand < 0.0) :
    ∃ value : Float, root functions 2.0 radicand = .ok value ∧ IsFinite value := by
  have degree : nearestInteger 2.0 = .ok 2 := eq_ok_of_toOption (by decide)
  obtain ⟨same, result⟩ := squareRoot_of_not_lt_zero finite notBelow
  refine ⟨_, ?_, result⟩
  rw [root, bind_of_ok degree, wholeRootOf, if_neg (by decide), if_neg notBelow]
  exact same

end Arithmetic

/-! ## Denotations -/

/-- The outcome in doubles is a finite value, unless one is too large, and the outcome in the
real numbers is the number. -/
structure Denotes
    (doubles : Except Fault Float)
    (reals : Except Fault ℝ)
    (number : ℝ) :
    Prop where
  doubles : Yields IsFinite IsTooLarge doubles
  reals : reals = .ok number

theorem Denotes.bind
    {doubles : Except Fault Float}
    {reals : Except Fault ℝ}
    {number result : ℝ}
    {next : Float → Except Fault Float}
    {nextReal : ℝ → Except Fault ℝ}
    (denotes : Denotes doubles reals number)
    (goesOn : ∀ value, IsFinite value → Denotes (next value) (nextReal number) result) :
    Denotes (doubles >>= next) (reals >>= nextReal) result where
  doubles := denotes.doubles.bind fun value finite => (goesOn value finite).doubles
  reals := by
    -- Which double it is does not matter in the real numbers, only that there is one.
    rw [denotes.reals]
    exact (goesOn 0.0 isFinite_zero).reals

/-- What is checked in doubles is only too large, and in the real numbers it is never that. -/
theorem denotes_checked (operation : String) (value : Float) (number : ℝ) :
    Denotes (checked operation value) (.ok number) number :=
  ⟨tooLarge_checked operation value, rfl⟩

/-- What a phrase of a category makes of numbers: a number, or, for a repetition, the number for
each number that it may go on from. -/
abbrev Effect : Category → Type
  | .terms | .factors | .postfixes => ℝ → ℝ
  | .sum | .product | .signed | .power | .postfixed | .primary => ℝ

/-- The phrase denotes the number. A repetition does so behind any finite value. -/
def Phrase.Denotes
    (functions : Elementary)
    (circle natural : ℝ) :
    {category : Category} → Phrase category → Effect category → Prop
  | .sum, phrase, denoted | .product, phrase, denoted | .signed, phrase, denoted
  | .power, phrase, denoted | .postfixed, phrase, denoted | .primary, phrase, denoted =>
      FormulaGrid.Denotes (phrase.value (arithmetic functions))
        (phrase.value (realMeaning circle natural)) denoted
  | .terms, phrase, effect | .factors, phrase, effect | .postfixes, phrase, effect =>
      ∀ (start : Float) (denoted : ℝ), IsFinite start →
        FormulaGrid.Denotes (phrase.value (arithmetic functions) start)
          (phrase.value (realMeaning circle natural) denoted) (effect denoted)

namespace Phrase

variable {functions : Elementary} {circle natural : ℝ}

section Sums

variable {first term : Phrase .product} {others : Phrase .terms} {denoted right : ℝ}
  {effect : ℝ → ℝ}

theorem denotes_sum
    (firstDenotes : first.Denotes functions circle natural denoted)
    (othersDenote : others.Denotes functions circle natural effect) :
    (sum first others).Denotes functions circle natural (effect denoted) :=
  firstDenotes.bind fun start finite => othersDenote start denoted finite

theorem denotes_noTerms : noTerms.Denotes functions circle natural id :=
  fun _ _ finite => ⟨finite, rfl⟩

theorem denotes_plus
    (mark : Mark)
    (termDenotes : term.Denotes functions circle natural right)
    (othersDenote : others.Denotes functions circle natural effect) :
    (plus mark term others).Denotes functions circle natural
      fun denoted => effect (denoted + right) :=
  fun _ denoted _ => termDenotes.bind fun _ _ =>
    (denotes_checked "addition" _ (denoted + right)).bind fun total finite =>
      othersDenote total _ finite

theorem denotes_minus
    (mark : Mark)
    (termDenotes : term.Denotes functions circle natural right)
    (othersDenote : others.Denotes functions circle natural effect) :
    (minus mark term others).Denotes functions circle natural
      fun denoted => effect (denoted - right) :=
  fun _ denoted _ => termDenotes.bind fun _ _ =>
    (denotes_checked "subtraction" _ (denoted - right)).bind fun total finite =>
      othersDenote total _ finite

end Sums

section Products

variable {first factor divisor : Phrase .signed} {others : Phrase .factors} {denoted right : ℝ}
  {effect : ℝ → ℝ}

theorem denotes_product
    (firstDenotes : first.Denotes functions circle natural denoted)
    (othersDenote : others.Denotes functions circle natural effect) :
    (product first others).Denotes functions circle natural (effect denoted) :=
  firstDenotes.bind fun start finite => othersDenote start denoted finite

/-- Where the first factor is too large, nothing is computed behind it. -/
theorem denotes_product_of_tooLarge
    {fault : Fault}
    {result : ℝ}
    (refused : first.value (arithmetic functions) = .error fault)
    (tooLarge : IsTooLarge fault)
    (firstNumber : first.value (realMeaning circle natural) = .ok denoted)
    (othersNumber : others.value (realMeaning circle natural) denoted = .ok result) :
    (product first others).Denotes functions circle natural result := by
  refine ⟨?_, (bind_of_ok firstNumber _).trans othersNumber⟩
  unfold value
  rw [refused]
  exact tooLarge

theorem denotes_noFactors : noFactors.Denotes functions circle natural id :=
  fun _ _ finite => ⟨finite, rfl⟩

theorem denotes_times
    (mark : Mark)
    (factorDenotes : factor.Denotes functions circle natural right)
    (othersDenote : others.Denotes functions circle natural effect) :
    (times mark factor others).Denotes functions circle natural
      fun denoted => effect (denoted * right) :=
  fun _ denoted _ => factorDenotes.bind fun _ _ =>
    (denotes_checked "multiplication" _ (denoted * right)).bind fun total finite =>
      othersDenote total _ finite

/-- A quotient, if the divisor is not zero in doubles nor in the real numbers. -/
theorem denotes_dividedBy
    (mark : Mark)
    {double : Float}
    (divisorWorth : divisor.value (arithmetic functions) = .ok double)
    (divisorNumber : divisor.value (realMeaning circle natural) = .ok right)
    (doubleNonzero : (double == 0.0) = false)
    (nonzero : right ≠ 0)
    (othersDenote : others.Denotes functions circle natural effect) :
    (dividedBy mark divisor others).Denotes functions circle natural
      fun denoted => effect (denoted / right) := by
  intro start denoted finite
  have quotient : FormulaGrid.Denotes (Arithmetic.divide mark.position start double)
      (RealNumbers.divide mark.position denoted right) (denoted / right) := by
    refine ⟨?_, divide_of_ne_zero nonzero _ _⟩
    unfold Arithmetic.divide
    rw [doubleNonzero, if_neg Bool.false_ne_true]
    exact tooLarge_checked _ _
  unfold value
  rw [bind_of_ok divisorWorth, bind_of_ok divisorNumber]
  exact quotient.bind fun total totalFinite => othersDenote total _ totalFinite

end Products

section Wholes

variable {denoted : ℝ}

theorem denotes_ofProduct
    {phrase : Phrase .product}
    (phraseDenotes : phrase.Denotes functions circle natural denoted) :
    (ofProduct phrase).Denotes functions circle natural denoted := by
  have nothing : noTerms.Denotes functions circle natural id := denotes_noTerms
  have whole := denotes_sum phraseDenotes nothing
  exact whole

theorem denotes_ofSigned
    {phrase : Phrase .signed}
    (phraseDenotes : phrase.Denotes functions circle natural denoted) :
    (ofSigned phrase).Denotes functions circle natural denoted := by
  have nothing : noFactors.Denotes functions circle natural id := denotes_noFactors
  have whole := denotes_product phraseDenotes nothing
  exact denotes_ofProduct whole

end Wholes

section Operands

variable {denoted : ℝ}

theorem denotes_negated
    (mark : Mark)
    {operand : Phrase .signed}
    (operandDenotes : operand.Denotes functions circle natural denoted) :
    (negated mark operand).Denotes functions circle natural (-denoted) :=
  operandDenotes.bind fun _ finite => ⟨isFinite_neg finite, rfl⟩

/-- The first power, whose exponent is the number one in doubles and in the real numbers. -/
theorem denotes_raised
    (powers : functions.HasWholePowers)
    (mark : Mark)
    {base : Phrase .postfixed}
    {exponent : Phrase .signed}
    (baseDenotes : base.Denotes functions circle natural denoted)
    (exponentWorth : exponent.value (arithmetic functions) = .ok 1.0)
    (exponentNumber : exponent.value (realMeaning circle natural) = .ok 1) :
    (raised base mark exponent).Denotes functions circle natural denoted := by
  refine Denotes.bind baseDenotes fun value finite => ?_
  rw [bind_of_ok exponentWorth, bind_of_ok exponentNumber]
  exact ⟨(tooLarge_raise powers finite (by decide) (by decide)
    (by decide)).imp fun _ => And.left, power_one denoted⟩

theorem denotes_postfixed
    {first : Phrase .primary}
    {others : Phrase .postfixes}
    {effect : ℝ → ℝ}
    (firstDenotes : first.Denotes functions circle natural denoted)
    (othersDenote : others.Denotes functions circle natural effect) :
    (postfixed first others).Denotes functions circle natural (effect denoted) :=
  firstDenotes.bind fun start finite => othersDenote start denoted finite

theorem denotes_noPostfixes : noPostfixes.Denotes functions circle natural id :=
  fun _ _ finite => ⟨finite, rfl⟩

/-- A primary without postfixes. -/
theorem denotes_unpostfixed
    {first : Phrase .primary}
    (firstDenotes : first.Denotes functions circle natural denoted) :
    (postfixed first noPostfixes).Denotes functions circle natural denoted := by
  have nothing : noPostfixes.Denotes functions circle natural id := denotes_noPostfixes
  have whole := denotes_postfixed firstDenotes nothing
  exact whole

theorem denotes_group
    (opening closing : Mark)
    {inner : Phrase .sum}
    (innerDenotes : inner.Denotes functions circle natural denoted) :
    (group opening inner closing).Denotes functions circle natural denoted :=
  innerDenotes

theorem denotes_bars
    (opening closing : Mark)
    {inner : Phrase .sum}
    (innerDenotes : inner.Denotes functions circle natural denoted) :
    (bars opening inner closing).Denotes functions circle natural |denoted| :=
  innerDenotes.bind fun _ finite => ⟨isFinite_abs finite, rfl⟩

end Operands

/-- The root of a square denotes the absolute value. In doubles the square is not below zero, so
that it has a root as well. -/
theorem denotes_rootOfSquare
    (powers : functions.HasWholePowers)
    (sign opening raised closing : Mark)
    {operand : Phrase .primary}
    {denoted : ℝ}
    (operandDenotes : operand.Denotes functions circle natural denoted) :
    (root sign 2.0 (postfixed (group opening
      (ofPostfixed (postfixed operand (superscript raised 2.0 noPostfixes))) closing)
        noPostfixes)).Denotes functions circle natural |denoted| := by
  let square := postfixed operand (superscript raised 2.0 noPostfixes)
  let radicand := postfixed (group opening (ofPostfixed square) closing) noPostfixes
  have same {Value : Type} (meaning : Interpretation Value) :
      radicand.value meaning = square.value meaning := by
    show ((ofPostfixed square).value meaning >>= Except.ok) = _
    rw [value_ofPostfixed]
    cases square.value meaning <;> rfl
  have doubles : Yields (fun value => IsFinite value ∧ ¬ value < 0.0) IsTooLarge
      (radicand.value (arithmetic functions)) := by
    rw [same]
    refine operandDenotes.doubles.bind fun value finite => ?_
    have raised := tooLarge_raise powers finite (by decide : (2.0 : Float).isFinite = true)
      (by decide) (by decide)
    exact raised.bind fun result answered =>
      ⟨answered.1, powers.square value result finite answered.2⟩
  have reals : radicand.value (realMeaning circle natural) = .ok (denoted ^ 2) := by
    rw [same]
    show (operand.value (realMeaning circle natural) >>= _) = _
    rw [bind_of_ok operandDenotes.reals]
    show (withNumber 2.0 (power denoted) >>= _) = _
    rw [withNumber, exactNumber?_two]
    show (power denoted ((2 : ℚ) : ℝ) >>= _) = _
    rw [Rat.cast_ofNat, power_two]
    rfl
  constructor
  · refine doubles.bind fun value ⟨finite, notBelow⟩ => ?_
    obtain ⟨result, found, resultFinite⟩ := exists_root_two functions finite notBelow
    show Yields _ _ (Arithmetic.root functions 2.0 value)
    rw [found]
    exact resultFinite
  · show (radicand.value (realMeaning circle natural) >>= _) = _
    rw [bind_of_ok reals]
    show withNumber 2.0 (fun degree => RealNumbers.root degree (denoted ^ 2)) = _
    rw [withNumber, exactNumber?_two]
    show RealNumbers.root ((2 : ℚ) : ℝ) (denoted ^ 2) = _
    rw [Rat.cast_ofNat, root_square]

end Phrase

end FormulaGrid
