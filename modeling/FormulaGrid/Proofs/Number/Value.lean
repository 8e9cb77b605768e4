import FormulaGrid.Number.Notation
import Mathlib.Algebra.Order.Field.Power
import Mathlib.Data.Rat.Cast.Order
import Mathlib.Tactic.FieldSimp
import Mathlib.Tactic.Linarith
import Mathlib.Tactic.Positivity
import Mathlib.Tactic.Ring

/-!
Contract: the rational numbers that decimals and doubles stand for.

Owns:
- the number of a decimal (`Decimal.value`), and that zeros may be moved from its
  coefficient to its exponent;
- the magnitude of a double (`Binary.magnitude`), also as the quotient that the model
  works with (`numerator_eq`).
-/

namespace FormulaGrid

namespace Decimal

/-- The number that a decimal stands for. -/
def value (decimal : Decimal) : ℚ :=
  decimal.coefficient * 10 ^ decimal.exponent

/-- Zeros at the end of the coefficient count towards the exponent. -/
theorem value_shift (coefficient zeros : Nat) (exponent : Int) :
    (⟨10 ^ zeros * coefficient, exponent⟩ : Decimal).value =
      (⟨coefficient, exponent + zeros⟩ : Decimal).value := by
  simp only [value]
  rw [zpow_add₀ (by norm_num), zpow_natCast]
  push_cast
  ring

end Decimal

namespace Binary

/-- The magnitude of a double as a number. -/
def magnitude (number : Binary) : ℚ :=
  number.significand * 2 ^ number.exponent

theorem magnitude_eq_zero_iff (number : Binary) :
    number.magnitude = 0 ↔ number.significand = 0 := by
  simp [magnitude, zpow_ne_zero]

theorem denominator_pos (number : Binary) : 0 < number.denominator :=
  Nat.two_pow_pos _

/-- A power with a whole exponent is a quotient of two powers, one of which is one. -/
theorem zpow_mul_pow_neg {base : ℚ} (nonzero : base ≠ 0) (exponent : Int) :
    base ^ exponent * base ^ (-exponent).toNat = base ^ exponent.toNat := by
  rw [← zpow_natCast, ← zpow_natCast, ← zpow_add₀ nonzero]
  congr 1
  omega

theorem numerator_eq (number : Binary) :
    (number.numerator : ℚ) = number.magnitude * number.denominator := by
  simp only [numerator, denominator, magnitude, Nat.pow_eq]
  push_cast
  rw [mul_assoc, zpow_mul_pow_neg two_ne_zero]

end Binary

end FormulaGrid
