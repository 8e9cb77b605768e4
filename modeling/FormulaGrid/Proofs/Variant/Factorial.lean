import FormulaGrid.Proofs.Number.Whole
import FormulaGrid.Proofs.Variant.Forms

/-!
Contract: quotients of factorials are formulas for a number.

Owns:
- the factorial of a double that is a natural number (`Arithmetic.factorial_of_natural`);
- the factorial of a numeral as a phrase (`factorialPhrase`), in doubles and in the real numbers;
- the factorial of a number over that of its predecessor (`isFormulaFor_factorialRatio`).

Above 170 the first factorial is too large already, and nothing is known of the second: the
predecessor of a large double is no double.
-/

namespace FormulaGrid

open Text

/-! ## Factorials in doubles -/

theorem productUpTo_pos (number : Nat) : 0 < productUpTo number := by
  induction number with
  | zero => exact Nat.one_pos
  | succ number inductionHypothesis => exact Nat.mul_pos (Nat.succ_pos _) inductionHypothesis

namespace Arithmetic

/-- The factorial of a natural number is that of its double, up to the largest one. -/
theorem factorial_of_natural
    {value : Float}
    {number : Nat}
    (natural : IsNatural value number) :
    factorial value =
      if 170 < number then
        .error (.formula (.factorialOverflow (number : Int)))
      else
        .ok (Float.ofNat (productUpTo number)) := by
  have near : ¬ factorialSlack < (value - value).abs := by
    rw [abs_sub_self_eq natural.isFinite]
    decide
  have defined : factorialOf (number : Int) = .ok (productUpTo number) :=
    if_neg (by omega)
  unfold factorial
  rw [bind_of_ok natural.nearestInteger_eq, if_neg natural.not_lt_zero]
  dsimp only
  rw [bind_of_ok natural.floatOfInteger_eq, if_neg near]
  by_cases large : 170 < number
  · have reached : largestFactorial < (number : Int) := Int.ofNat_lt.mpr large
    rw [if_pos reached, if_pos large]
    rfl
  · have reached : ¬ largestFactorial < (number : Int) := mt Int.ofNat_lt.mp large
    have product : ((productUpTo number : Nat) : Int).natAbs ≤ greatestDouble :=
      Nat.le_trans (productUpTo_le (Nat.not_lt.mp large)) productUpTo_largest_le
    rw [if_neg reached, if_neg large, bind_of_ok defined, floatOfInteger_of_natAbs_le product]
    rfl

end Arithmetic

/-! ## Factorials of numerals -/

/-- The numeral of a double that is a natural number denotes this double. -/
theorem numeralValue_of_natural
    {value : Float}
    {number : Nat}
    (natural : IsNatural value number) :
    numeralValue (Spelling.natural number).characters = value := by
  obtain ⟨mantissa, exponent, positive, same, magnitude⟩ := natural
  have rounds : (⟨false, mantissa, exponent⟩ : Binary).Rounds
      (Spelling.natural number).decimal.value := by
    rw [Spelling.value_natural, ← magnitude]
    exact Binary.rounds_magnitude _
  apply eq_of_parts_eq
  rw [same]
  exact (Spelling.natural number).parts_numeralValue (isCanonical_of_parts same) positive
    (bounds_of_parts same).2.2 rounds

/-- The factorial of a natural number. -/
def factorialPhrase (number : Nat) : Phrase .postfixed :=
  .postfixed (Spelling.natural number).primary (.factorial ⟨"!", 0⟩ .noPostfixes)

/-- The factorial as a factor. -/
def factorialFactor (number : Nat) : Phrase .signed :=
  .unsigned (.unraised (factorialPhrase number))

theorem begins_factorial (number : Nat) :
    Begins ((Spelling.natural number).characters ++ ['!']) (factorialPhrase number) where
  legible first behind follows := (Spelling.natural number).legible first 0
    (isSign_factorial.followsNumeral rfl 0 follows.legible)
  spelled := by
    show writtenOut [(Spelling.natural number).token 0, ⟨.factorial, "!", 0⟩] = _
    rw [writtenOut_cons, Spelling.token, String.toList_ofList]
    rfl
  greedy := ⟨trivial, False.elim⟩
  shallow := Nat.zero_le 2

section

variable (functions : Elementary) (circle natural : ℝ) {number : Nat}

theorem value_factorialFactor_real :
    (factorialFactor number).value (realMeaning circle natural) =
      .ok (Nat.factorial number : ℝ) := by
  show (RealNumbers.factorial
    ((numeralNumber (String.ofList (Spelling.natural number).characters).toList : ℚ) : ℝ) >>= _) = _
  rw [String.toList_ofList, numeralNumber_natural, Rat.cast_natCast,
    RealNumbers.factorial_natural]
  rfl

/-- In doubles a factorial is that of the double of its numeral. -/
theorem value_factorialFactor
    (finite : (numeralValue (Spelling.natural number).characters).isFinite = true) :
    (factorialFactor number).value (arithmetic functions) =
      Arithmetic.factorial (numeralValue (Spelling.natural number).characters) := by
  have worth : (factorialFactor number).value (arithmetic functions) =
      Arithmetic.factorial (numeralValue (Spelling.natural number).characters) >>= Except.ok :=
    bind_of_ok (if_pos finite) _
  rw [worth]
  cases Arithmetic.factorial (numeralValue (Spelling.natural number).characters) <;> rfl

/-- The factorial of a small number has a value in doubles, and is not zero there. -/
theorem exists_value_factorialFactor (small : number ≤ 170) :
    ∃ double : Float, (factorialFactor number).value (arithmetic functions) = .ok double ∧
      IsFinite double ∧ (double == 0.0) = false := by
  have product : productUpTo number ≤ greatestDouble :=
    Nat.le_trans (Arithmetic.productUpTo_le small) Arithmetic.productUpTo_largest_le
  refine ⟨Float.ofNat (productUpTo number), ?_, isFinite_ofNat product, ?_⟩
  · cases number with
    | zero =>
        rw [value_factorialFactor functions (by decide)]
        exact eq_ok_of_toOption (by decide +kernel)
    | succ number =>
        have natural : IsNatural _ (number + 1) :=
          isNatural_of_short (Nat.succ_ne_zero number) (by omega)
        have same := numeralValue_of_natural natural
        rw [value_factorialFactor functions (same ▸ natural.isFinite), same,
          Arithmetic.factorial_of_natural natural, if_neg (by omega)]
  · exact ofNat_ne_zero (productUpTo_pos number).ne' product

/-- The factorial of a large number is too large. -/
theorem value_factorialFactor_of_large
    {value : Float}
    (isNatural : IsNatural value number)
    (large : 170 < number) :
    (factorialFactor number).value (arithmetic functions) =
      .error (.formula (.factorialOverflow (number : Int))) := by
  have same := numeralValue_of_natural isNatural
  rw [value_factorialFactor functions (same ▸ isNatural.isFinite), same,
    Arithmetic.factorial_of_natural isNatural, if_pos large]

end

/-! ## Quotients -/

section Quotients

variable {functions : Elementary} {circle natural : ℝ} {number : Nat}

/-- The quotient denotes the number. Up to 170 both factorials have a value in doubles. -/
theorem denotes_factorialRatio
    {value : Float}
    (isNatural : IsNatural value (number + 1)) :
    (Phrase.product (factorialFactor (number + 1))
      (.dividedBy ⟨"/", 0⟩ (factorialFactor number) .noFactors)).Denotes functions circle natural
        (number + 1 : Nat) := by
  have dividendNumber := @value_factorialFactor_real circle natural (number + 1)
  have divisorNumber := @value_factorialFactor_real circle natural number
  have positive : (Nat.factorial number : ℝ) ≠ 0 :=
    Nat.cast_ne_zero.mpr (Nat.factorial_ne_zero number)
  have quotient : (Nat.factorial (number + 1) : ℝ) / Nat.factorial number = (number + 1 : Nat) := by
    rw [Nat.factorial_succ, Nat.cast_mul, mul_div_cancel_right₀ _ positive]
  rw [← quotient]
  by_cases large : 170 < number + 1
  · refine Phrase.denotes_product_of_tooLarge
      (value_factorialFactor_of_large functions isNatural large) rfl dividendNumber ?_
    unfold Phrase.value
    exact (bind_of_ok divisorNumber _).trans
      (bind_of_ok (RealNumbers.divide_of_ne_zero positive _ _) _)
  · have small : number + 1 ≤ 170 := Nat.not_lt.mp large
    obtain ⟨dividend, dividendWorth, finite, -⟩ := exists_value_factorialFactor functions small
    obtain ⟨divisor, divisorWorth, -, nonzero⟩ :=
      exists_value_factorialFactor functions (Nat.le_of_succ_le small)
    have denotes : (factorialFactor (number + 1)).Denotes functions circle natural
        (Nat.factorial (number + 1) : ℝ) := by
      refine ⟨?_, dividendNumber⟩
      rw [dividendWorth]
      exact finite
    have product := Phrase.denotes_product denotes
      (Phrase.denotes_dividedBy ⟨"/", 0⟩ divisorWorth divisorNumber nonzero positive
        Phrase.denotes_noFactors)
    exact product

/-- The factorial of a positive number over that of its predecessor, if the number is a double. -/
theorem isFormulaFor_factorialRatio
    {text : String}
    {value : Float}
    (isNatural : IsNatural value (number + 1))
    (spelled : text.toList = (Spelling.natural (number + 1)).characters ++ ['!'] ++
      '/' :: ((Spelling.natural number).characters ++ ['!'])) :
    IsFormulaFor functions circle natural text (number + 1 : Nat) := by
  have divisor := begins_factorial number
  exact isFormulaFor_ofProduct (begins_factorial (number + 1)) spelled
    (.dividedBy ⟨"/", 0⟩ (factorialFactor number) .noFactors)
    (divisor.followsNumeral_sign rfl isSign_dividedBy) (divisor.writtenOut_sign rfl)
    ⟨divisor.greedy, trivial⟩ (Nat.zero_le 2) (denotes_factorialRatio isNatural)

end Quotients

end FormulaGrid
