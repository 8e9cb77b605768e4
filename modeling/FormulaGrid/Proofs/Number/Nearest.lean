import FormulaGrid.Proofs.Number.Order
import FormulaGrid.Proofs.Number.Rounding
import FormulaGrid.Proofs.Number.Value

/-!
Contract: rounding gives the double whose interval the number lies in.

Owns:
- the interval of the numbers that round to a double (`Binary.Rounds`);
- what an extended mantissa holds of a number (`Holds`), and that shifts keep it;
- the rounded mantissa is the nearest integer, the even one of two equally near
  (`Holds.roundedMantissa_eq`);
- a number in the interval of a double is rounded to this double
  (`roundWithAccuracy_of_rounds`).

The unit that is rounded to comes from the number of bits, so next to a power of two it can
be half the unit of the double. Then the mantissa is rounded up to this power, and the
second shift leads back to the double.
-/

namespace FormulaGrid

open Float.Model Float.Model.UnpackedFloat

namespace Binary

/-- The number lies in the interval of those that round to the double. The ends belong to
it when the significand is even. -/
structure Rounds (number : Binary) (value : ℚ) : Prop where
  low : (number.significand - number.quartersBelow / 4 : ℚ) * 2 ^ number.exponent ≤ value
  high : value ≤ (number.significand + 1 / 2) * 2 ^ number.exponent
  inside : number.significand % 2 = 1 →
    (number.significand - number.quartersBelow / 4 : ℚ) * 2 ^ number.exponent < value ∧
      value < (number.significand + 1 / 2) * 2 ^ number.exponent

/-- A double lies in its own interval. -/
theorem rounds_magnitude (number : Binary) : number.Rounds number.magnitude := by
  have unit := zpow_pos (by norm_num : (0 : ℚ) < 2) number.exponent
  have quarters : (0 : ℚ) < number.quartersBelow / 4 := by
    unfold quartersBelow
    split <;> norm_num
  have low : (number.significand - number.quartersBelow / 4 : ℚ) * 2 ^ number.exponent <
      number.magnitude :=
    mul_lt_mul_of_pos_right (by linarith) unit
  have high : number.magnitude < (number.significand + 1 / 2) * 2 ^ number.exponent :=
    mul_lt_mul_of_pos_right (by linarith) unit
  exact ⟨low.le, high.le, fun _ => ⟨low, high⟩⟩

end Binary

/-! ## Extended mantissas -/

/-- What an extended mantissa holds of a number in its unit: the whole part, and where the
rest lies from one half. -/
def Holds (extended : ExtendedMantissa) (value : ℚ) : Prop :=
  match extended.roundBit, extended.stickyBit with
  | false, false => value = extended.mantissa
  | false, true => (extended.mantissa : ℚ) < value ∧ value < extended.mantissa + 1 / 2
  | true, false => value = extended.mantissa + 1 / 2
  | true, true => (extended.mantissa : ℚ) + 1 / 2 < value ∧ value < extended.mantissa + 1

theorem holds_exact (mantissa : Nat) :
    Holds (ExtendedMantissa.ofMantissaAndAccuracy mantissa .exact) mantissa :=
  rfl

/-- A mantissa with the accuracy of a fraction holds their sum. -/
theorem holds_fraction
    (mantissa : Nat)
    {dividend divisor : Nat}
    (proper : dividend < divisor) :
    Holds (ExtendedMantissa.ofMantissaAndAccuracy mantissa (accuracyOfFraction dividend divisor))
      (mantissa + dividend / divisor) := by
  have divisorPositive : (0 : ℚ) < divisor := Nat.cast_pos.mpr (Nat.zero_lt_of_lt proper)
  have below : (dividend : ℚ) / divisor < 1 :=
    (div_lt_one divisorPositive).mpr (Nat.cast_lt.mpr proper)
  unfold accuracyOfFraction
  split
  next zero =>
    rw [zero]
    simp [ExtendedMantissa.ofMantissaAndAccuracy, Holds]
  next nonzero =>
    have above : (0 : ℚ) < dividend / divisor :=
      div_pos (Nat.cast_pos.mpr (Nat.pos_of_ne_zero nonzero)) divisorPositive
    rcases Nat.lt_trichotomy (2 * dividend) divisor with less | same | greater
    · have half : (dividend : ℚ) / divisor < 1 / 2 := by
        rw [div_lt_iff₀ divisorPositive]
        have cast : (2 * dividend : ℚ) < divisor := by exact_mod_cast less
        linarith
      rw [Nat.compare_eq_lt.mpr less]
      show (mantissa : ℚ) < _ ∧ _ < (mantissa : ℚ) + 1 / 2
      exact ⟨by linarith, by linarith⟩
    · have half : (dividend : ℚ) / divisor = 1 / 2 := by
        rw [div_eq_iff divisorPositive.ne']
        have cast : (2 * dividend : ℚ) = divisor := by exact_mod_cast same
        linarith
      rw [Nat.compare_eq_eq.mpr same, half]
      rfl
    · have half : (1 / 2 : ℚ) < dividend / divisor := by
        rw [lt_div_iff₀ divisorPositive]
        have cast : (divisor : ℚ) < 2 * dividend := by exact_mod_cast greater
        linarith
      rw [Nat.compare_eq_gt.mpr greater]
      show (mantissa : ℚ) + 1 / 2 < _ ∧ _ < (mantissa : ℚ) + 1
      exact ⟨by linarith, by linarith⟩

namespace Holds

variable {extended : ExtendedMantissa} {value : ℚ}

/-- The mantissa is the whole part. -/
theorem bounds (holds : Holds extended value) :
    (extended.mantissa : ℚ) ≤ value ∧ value < extended.mantissa + 1 := by
  obtain ⟨mantissa, roundBit, stickyBit⟩ := extended
  cases roundBit <;> cases stickyBit <;> simp only [Holds] at holds <;>
    constructor <;> linarith

/-- A shift by one halves the number. -/
theorem shiftRightOne (holds : Holds extended value) :
    Holds extended.shiftRightOne (value / 2) := by
  obtain ⟨mantissa, roundBit, stickyBit⟩ := extended
  have whole : (mantissa : ℚ) = 2 * (mantissa / 2 : Nat) + (mantissa % 2 : Nat) := by
    exact_mod_cast (Nat.div_add_mod mantissa 2).symm
  -- The last bit of the mantissa becomes the round bit.
  rcases Nat.mod_two_eq_zero_or_one mantissa with even | odd
  · rw [even] at whole
    push_cast at whole
    cases roundBit <;> cases stickyBit <;>
      simp only [Holds, ExtendedMantissa.shiftRightOne, even, bne_self_eq_false, Bool.or_self,
        Bool.or_true, Bool.or_false] at holds ⊢ <;>
      first
        | linarith
        | (constructor <;> linarith)
  · rw [odd] at whole
    push_cast at whole
    cases roundBit <;> cases stickyBit <;>
      simp only [Holds, ExtendedMantissa.shiftRightOne, odd, Nat.reduceBNe, Bool.or_self,
        Bool.or_true, Bool.or_false] at holds ⊢ <;>
      first
        | linarith
        | (constructor <;> linarith)

theorem shiftRight (holds : Holds extended value) (shift : Nat) :
    Holds (extended >>> shift) (value / 2 ^ shift) := by
  induction shift with
  | zero =>
      rw [pow_zero, div_one]
      exact holds
  | succ shift inductionHypothesis =>
      rw [pow_succ, ← div_div]
      exact inductionHypothesis.shiftRightOne

/-- The rounded mantissa is the integer that the number is nearest to. Halfway between two
it is the even one. -/
theorem roundedMantissa_eq
    (holds : Holds extended value)
    {nearest : Nat}
    (low : (nearest : ℚ) - 1 / 2 ≤ value)
    (high : value ≤ nearest + 1 / 2)
    (inside : nearest % 2 = 1 → (nearest : ℚ) - 1 / 2 < value ∧ value < nearest + 1 / 2) :
    extended.roundedMantissa = nearest := by
  obtain ⟨mantissa, roundBit, stickyBit⟩ := extended
  have integers {left right : Nat} (less : (left : ℚ) < right + 1) : left ≤ right := by
    have cast : left < right + 1 := by exact_mod_cast less
    exact Nat.le_of_lt_succ cast
  cases roundBit <;> cases stickyBit <;> simp only [Holds] at holds
  · show mantissa = nearest
    exact Nat.le_antisymm (integers (by linarith)) (integers (by linarith))
  · show mantissa = nearest
    exact Nat.le_antisymm (integers (by linarith)) (integers (by linarith))
  · show mantissa + mantissa % 2 = nearest
    have atLeast : mantissa ≤ nearest := integers (by linarith)
    have atMost : nearest ≤ mantissa + 1 := integers (by push_cast; linarith)
    have even : nearest % 2 ≠ 1 := by
      intro odd
      obtain ⟨above, below⟩ := inside odd
      have notAbove : nearest ≤ mantissa := integers (by linarith)
      have same : (nearest : ℚ) = mantissa := by exact_mod_cast Nat.le_antisymm notAbove atLeast
      linarith
    omega
  · show mantissa + 1 = nearest
    exact Nat.le_antisymm (integers (by push_cast; linarith)) (integers (by push_cast; linarith))

end Holds

/-! ## The unit that is rounded to -/

/-- Powers of two are positive, and they are ordered as their exponents. -/
theorem two_zpow_pos (exponent : Int) : (0 : ℚ) < 2 ^ exponent :=
  zpow_pos (by norm_num) _

theorem lt_of_two_zpow_lt {left right : Int} (less : (2 : ℚ) ^ left < 2 ^ right) : left < right :=
  (zpow_lt_zpow_iff_right₀ (by norm_num)).mp less

theorem two_zpow_add_nat (places : Nat) (exponent : Int) :
    (2 : ℚ) ^ ((places : Int) + exponent) = (2 : ℚ) ^ places * 2 ^ exponent := by
  rw [zpow_add₀ (by norm_num), zpow_natCast]

/-- The number of bits of the whole part bounds the number. -/
theorem Holds.lt_two_zpow
    {mantissa : Nat}
    {accuracy : Accuracy}
    {value : ℚ}
    (holds : Holds (ExtendedMantissa.ofMantissaAndAccuracy mantissa accuracy) value)
    (exponent : Int) :
    value * 2 ^ exponent < 2 ^ ((mantissa.log2 + 1 : Nat) + exponent) := by
  have whole := holds.bounds.2
  rw [mantissa_ofMantissaAndAccuracy] at whole
  have bits : ((mantissa + 1 : Nat) : ℚ) ≤ 2 ^ (mantissa.log2 + 1) := by
    exact_mod_cast (Nat.lt_log2_self : mantissa < 2 ^ (mantissa.log2 + 1))
  push_cast at bits
  rw [two_zpow_add_nat]
  exact mul_lt_mul_of_pos_right (lt_of_lt_of_le whole bits) (two_zpow_pos exponent)

theorem Holds.two_zpow_le
    {mantissa : Nat}
    {accuracy : Accuracy}
    {value : ℚ}
    (holds : Holds (ExtendedMantissa.ofMantissaAndAccuracy mantissa accuracy) value)
    (nonzero : mantissa ≠ 0)
    (exponent : Int) :
    2 ^ ((mantissa.log2 : Int) + exponent) ≤ value * 2 ^ exponent := by
  have whole := holds.bounds.1
  rw [mantissa_ofMantissaAndAccuracy] at whole
  have bits : (2 : ℚ) ^ mantissa.log2 ≤ mantissa := by exact_mod_cast Nat.log2_self_le nonzero
  rw [two_zpow_add_nat]
  exact mul_le_mul_of_nonneg_right (bits.trans whole) (two_zpow_pos exponent).le

namespace Binary.Rounds

variable {number : Binary} {value : ℚ}

theorem quartersBelow_le (number : Binary) : (number.quartersBelow : ℚ) ≤ 2 := by
  unfold quartersBelow
  split <;> norm_num

/-- A number that rounds to a double lies below the next power of two. -/
theorem lt_two_zpow
    (rounds : number.Rounds value)
    (short : number.significand < 2 ^ 53) :
    value < 2 ^ ((53 : Nat) + number.exponent) := by
  have significand : ((number.significand + 1 : Nat) : ℚ) ≤ (2 : ℚ) ^ 53 := by
    exact_mod_cast short
  push_cast at significand
  rw [two_zpow_add_nat]
  refine lt_of_le_of_lt rounds.high ?_
  exact mul_lt_mul_of_pos_right (by linarith) (two_zpow_pos _)

/-- Below a double of full length lies one half of its power of two at least. -/
theorem two_zpow_le
    (rounds : number.Rounds value)
    (long : 2 ^ 52 ≤ number.significand) :
    2 ^ ((51 : Nat) + number.exponent) ≤ value := by
  have significand : (2 : ℚ) ^ 52 ≤ number.significand := by exact_mod_cast long
  have quarters := quartersBelow_le number
  rw [two_zpow_add_nat]
  refine le_trans ?_ rounds.low
  exact mul_le_mul_of_nonneg_right (by linarith) (two_zpow_pos _).le

/-- Only the interval of a power of two reaches below it. -/
theorem significand_eq
    (rounds : number.Rounds value)
    (long : 2 ^ 52 ≤ number.significand)
    (below : value < 2 ^ ((52 : Nat) + number.exponent)) :
    number.significand = 2 ^ 52 := by
  have quarters := quartersBelow_le number
  rw [two_zpow_add_nat] at below
  have less : (number.significand : ℚ) - number.quartersBelow / 4 < 2 ^ 52 :=
    lt_of_mul_lt_mul_right (lt_of_le_of_lt rounds.low below) (two_zpow_pos _).le
  have atMost : (number.significand : ℚ) < ((2 ^ 52 + 1 : Nat) : ℚ) := by
    push_cast
    linarith
  have cast : number.significand < 2 ^ 52 + 1 := by exact_mod_cast atMost
  omega

end Binary.Rounds

section

variable {number : Binary} {mantissa : Nat} {exponent : Int} {accuracy : Accuracy} {value : ℚ}

/-- The unit that a number is rounded to is that of its double, or half of it where the
number lies just below a power of two. -/
theorem unit_of_rounds
    (canonical : IsCanonical number.significand number.exponent)
    (holds : Holds (ExtendedMantissa.ofMantissaAndAccuracy mantissa accuracy) value)
    (rounds : number.Rounds (value * 2 ^ exponent))
    (enough : exponent ≤ max (mantissa.log2 + 1 + exponent - 53) Binary.leastExponent) :
    max (mantissa.log2 + 1 + exponent - 53) Binary.leastExponent = number.exponent ∨
      max (mantissa.log2 + 1 + exponent - 53) Binary.leastExponent = number.exponent - 1 ∧
        number.significand = 2 ^ 52 ∧ Binary.leastExponent < number.exponent ∧
          value * 2 ^ exponent < 2 ^ ((52 : Nat) + number.exponent) := by
  obtain ⟨short, least, long⟩ := canonical
  have leastExponent : Binary.leastExponent = -1074 := rfl
  have places : (unitPlaces : Int) = 1074 := rfl
  have bits := holds.lt_two_zpow exponent
  have atMost : max (mantissa.log2 + 1 + exponent - 53) Binary.leastExponent ≤
      number.exponent := by
    by_cases zero : mantissa = 0
    · -- Nothing is left of the number, so the unit is the least one.
      rw [zero] at enough ⊢
      have noBits : (0 : Nat).log2 = 0 := by decide
      omega
    · have less := lt_of_two_zpow_lt
        (lt_of_le_of_lt (holds.two_zpow_le zero exponent) (rounds.lt_two_zpow short))
      omega
  by_cases subnormal : number.exponent ≤ Binary.leastExponent
  · exact .inl (by omega)
  · have full : 2 ^ 52 ≤ number.significand := long (by omega)
    by_cases above : 2 ^ ((52 : Nat) + number.exponent) ≤ value * 2 ^ exponent
    · have less := lt_of_two_zpow_lt (lt_of_le_of_lt above bits)
      exact .inl (by omega)
    · have below := not_le.mp above
      have less := lt_of_two_zpow_lt (lt_of_le_of_lt (rounds.two_zpow_le full) bits)
      by_cases same : max (mantissa.log2 + 1 + exponent - 53) Binary.leastExponent =
          number.exponent
      · exact .inl same
      · exact .inr ⟨by omega, rounds.significand_eq full below, by omega, below⟩

theorem shiftToTargetExponent_of_unit
    {unit : Int}
    (isUnit : max (mantissa.log2 + 1 + exponent - 53) Binary.leastExponent = unit)
    (enough : exponent ≤ unit) :
    shiftToTargetExponent Format.binary64 mantissa exponent accuracy =
      (ExtendedMantissa.ofMantissaAndAccuracy mantissa accuracy >>> (unit - exponent).toNat,
        unit) := by
  unfold shiftToTargetExponent shiftToExponent
  rw [targetExponent_eq, isUnit]
  dsimp only
  congr 1
  omega

/-- A mantissa that is rounded to at most 53 bits is final. -/
theorem roundWithAccuracy_of_short
    {sign : Sign}
    {unit : Int}
    (isUnit : max (mantissa.log2 + 1 + exponent - 53) Binary.leastExponent = unit)
    (enough : exponent ≤ unit)
    {rounded : Nat}
    (isRounded : (ExtendedMantissa.ofMantissaAndAccuracy mantissa accuracy >>>
      (unit - exponent).toNat).roundedMantissa = rounded)
    (positive : 0 < rounded)
    (short : rounded < 2 ^ 53) :
    roundWithAccuracy Format.binary64 sign mantissa exponent accuracy =
      .finite sign rounded unit positive := by
  have least : Binary.leastExponent ≤ unit := isUnit ▸ Int.le_max_right _ _
  have bits : rounded.log2 < 53 := (Nat.log2_lt positive.ne').mpr short
  have noShift : (max ((rounded.log2 : Int) + 1 + unit - 53) Binary.leastExponent - unit).toNat =
      0 := by
    omega
  have second : shiftToTargetExponent Format.binary64 rounded unit .exact =
      (ExtendedMantissa.mk rounded false false, unit) := by
    rw [shiftToTargetExponent_exact, noShift]
    show (_, unit + ((0 : Nat) : Int)) = _
    rw [Int.natCast_zero, Int.add_zero]
    rfl
  unfold roundWithAccuracy
  simp only [shiftToTargetExponent_of_unit isUnit enough, isRounded, second]
  rw [dif_neg positive.ne']

/-- A mantissa that is rounded to the next power of two is halved. -/
theorem roundWithAccuracy_of_carry
    {sign : Sign}
    {unit : Int}
    (isUnit : max (mantissa.log2 + 1 + exponent - 53) Binary.leastExponent = unit)
    (enough : exponent ≤ unit)
    (isRounded : (ExtendedMantissa.ofMantissaAndAccuracy mantissa accuracy >>>
      (unit - exponent).toNat).roundedMantissa = 2 ^ 53) :
    roundWithAccuracy Format.binary64 sign mantissa exponent accuracy =
      .finite sign (2 ^ 52) (unit + 1) (Nat.two_pow_pos 52) := by
  have least : Binary.leastExponent ≤ unit := isUnit ▸ Int.le_max_right _ _
  have oneShift : (max (((2 ^ 53 : Nat).log2 : Int) + 1 + unit - 53) Binary.leastExponent -
      unit).toNat = 1 := by
    rw [Nat.log2_two_pow]
    omega
  have second : shiftToTargetExponent Format.binary64 (2 ^ 53) unit .exact =
      (ExtendedMantissa.mk (2 ^ 52) false false, unit + 1) := by
    rw [shiftToTargetExponent_exact, oneShift]
    rfl
  unfold roundWithAccuracy
  simp only [shiftToTargetExponent_of_unit isUnit enough, isRounded, second]
  rw [dif_neg (by decide)]

/-- A number in the interval of a double is rounded to the double. -/
theorem roundWithAccuracy_of_rounds
    (canonical : IsCanonical number.significand number.exponent)
    (positive : 0 < number.significand)
    (holds : Holds (ExtendedMantissa.ofMantissaAndAccuracy mantissa accuracy) value)
    (rounds : number.Rounds (value * 2 ^ exponent))
    (enough : exponent ≤ max (mantissa.log2 + 1 + exponent - 53) Binary.leastExponent)
    (sign : Sign) :
    roundWithAccuracy Format.binary64 sign mantissa exponent accuracy =
      .finite sign number.significand number.exponent positive := by
  have units (unit : Int) (atLeast : exponent ≤ unit) :
      value * 2 ^ exponent = value / 2 ^ (unit - exponent).toNat * 2 ^ unit := by
    have split : unit = ((unit - exponent).toNat : Int) + exponent := by omega
    nth_rewrite 2 [split]
    rw [two_zpow_add_nat, ← mul_assoc, div_mul_cancel₀ _ (by positivity)]
  rcases unit_of_rounds canonical holds rounds enough with same | ⟨half, power, normal, below⟩
  · rw [same] at enough
    have shifted := holds.shiftRight (number.exponent - exponent).toNat
    have quarters := Binary.Rounds.quartersBelow_le number
    have unit := two_zpow_pos number.exponent
    obtain ⟨low, high, inside⟩ := rounds
    rw [units number.exponent enough] at low high inside
    have nearLow := le_of_mul_le_mul_right low unit
    have nearHigh := le_of_mul_le_mul_right high unit
    have rounded := shifted.roundedMantissa_eq (by linarith) nearHigh fun odd => by
      have strictLow := lt_of_mul_lt_mul_right (inside odd).1 unit.le
      have strictHigh := lt_of_mul_lt_mul_right (inside odd).2 unit.le
      exact ⟨by linarith, strictHigh⟩
    exact roundWithAccuracy_of_short same enough rounded positive canonical.1
  · rw [half] at enough
    have shifted := holds.shiftRight (number.exponent - 1 - exponent).toNat
    have quarter : number.quartersBelow = 1 := by
      rw [Binary.quartersBelow, power, if_pos]
      exact Bool.and_eq_true_iff.mpr ⟨by decide, decide_eq_true normal⟩
    have double : (2 : ℚ) ^ number.exponent = 2 * 2 ^ (number.exponent - 1) := by
      have split : number.exponent = (1 : Nat) + (number.exponent - 1) := by omega
      nth_rewrite 1 [split]
      rw [two_zpow_add_nat, pow_one]
    have unit := two_zpow_pos (number.exponent - 1)
    have low := rounds.low
    rw [units (number.exponent - 1) enough] at low below
    rw [quarter, power, double, ← mul_assoc] at low
    rw [two_zpow_add_nat, double, ← mul_assoc] at below
    have nearLow := le_of_mul_le_mul_right low unit
    have nearHigh := lt_of_mul_lt_mul_right below unit.le
    push_cast at nearLow
    have rounded := shifted.roundedMantissa_eq (show ((2 ^ 53 : Nat) : ℚ) - 1 / 2 ≤ _ by
      push_cast; linarith) (by push_cast; linarith) fun odd => absurd odd (by decide)
    rw [roundWithAccuracy_of_carry half enough rounded]
    congr 1
    · exact power.symm
    · omega

end

end FormulaGrid
