import FormulaGrid.Proofs.Number.Packing

/-!
Contract: rounding stays in the range of doubles where the exact result does.

Owns:
- how far a shift and a rounding carry a mantissa (`mantissa_shiftRight`,
  `roundedMantissa_le`);
- rounding keeps the sign (`signOf_roundWithAccuracy`) and, of a number small enough,
  stays in range (`inRange_of_totalExponent`);
- a whole number that does not exceed the largest double stays in range
  (`inRange_round`).

The bounds are on exponents, so one bit is lost for the carry of a rounding. Only for
whole numbers next to the end of the range that bit matters, and they are exact.
-/

namespace FormulaGrid

open Float.Model Float.Model.UnpackedFloat

theorem mantissa_shiftRight (extended : ExtendedMantissa) (shift : Nat) :
    (extended >>> shift).mantissa = extended.mantissa / 2 ^ shift := by
  induction shift with
  | zero => exact (Nat.div_one _).symm
  | succ shift inductionHypothesis =>
      show (extended >>> shift).mantissa / 2 = _
      rw [inductionHypothesis, Nat.div_div_eq_div_mul, Nat.pow_succ]

theorem roundedMantissa_le (extended : ExtendedMantissa) :
    extended.roundedMantissa ≤ extended.mantissa + 1 := by
  obtain ⟨mantissa, roundBit, stickyBit⟩ := extended
  cases roundBit <;> cases stickyBit
  · exact Nat.le_succ mantissa
  · exact Nat.le_succ mantissa
  · show mantissa + mantissa % 2 ≤ mantissa + 1
    omega
  · exact Nat.le_refl (mantissa + 1)

theorem shiftRight_multiple (quotient shift : Nat) :
    ExtendedMantissa.mk (quotient * 2 ^ shift) false false >>> shift =
      ⟨quotient, false, false⟩ := by
  induction shift generalizing quotient with
  | zero =>
      rw [Nat.pow_zero, Nat.mul_one]
      rfl
  | succ shift inductionHypothesis =>
      have double := inductionHypothesis (quotient * 2)
      rw [Nat.mul_assoc, ← Nat.pow_succ'] at double
      show (ExtendedMantissa.mk (quotient * 2 ^ (shift + 1)) false false >>>
        shift).shiftRightOne = _
      rw [double]
      simp [ExtendedMantissa.shiftRightOne]

/-- A number that is at most a multiple of the unit is rounded to at most that. -/
theorem roundedMantissa_shift_le
    {mantissa bound shift : Nat}
    (small : mantissa ≤ bound * 2 ^ shift) :
    (ExtendedMantissa.mk mantissa false false >>> shift).roundedMantissa ≤ bound := by
  rcases Nat.lt_or_eq_of_le small with less | same
  · have floor : mantissa / 2 ^ shift < bound :=
      Nat.div_lt_of_lt_mul (by rw [Nat.mul_comm]; exact less)
    have rounded := roundedMantissa_le (ExtendedMantissa.mk mantissa false false >>> shift)
    rw [mantissa_shiftRight] at rounded
    exact Nat.le_trans rounded floor
  · rw [same, shiftRight_multiple]
    exact Nat.le_refl bound

/-- Zeros behind the point do not change what a whole number is rounded to. -/
theorem roundedMantissa_places_le
    {whole bound unit : Nat}
    (small : whole ≤ bound * 2 ^ unit)
    (places : Nat) :
    (ExtendedMantissa.mk (whole * 2 ^ places) false false >>>
      (unit + places)).roundedMantissa ≤ bound := by
  apply roundedMantissa_shift_le
  rw [Nat.pow_add, ← Nat.mul_assoc]
  exact Nat.mul_le_mul_right (2 ^ places) small

theorem targetExponent_eq (mantissa : Nat) (exponent : Int) :
    Format.binary64.targetExponent (totalExponent mantissa exponent) =
      max (mantissa.log2 + 1 + exponent - 53) Binary.leastExponent :=
  rfl

theorem signOf_roundWithAccuracy
    (sign : Sign)
    (mantissa : Nat)
    (exponent : Int)
    (accuracy : Accuracy) :
    signOf (roundWithAccuracy Format.binary64 sign mantissa exponent accuracy) = some sign := by
  unfold roundWithAccuracy
  dsimp only
  split <;> rfl

/-- A number stays in range if it does after its mantissa has been rounded. -/
theorem inRange_roundWithAccuracy
    {sign : Sign}
    {mantissa : Nat}
    {exponent : Int}
    {accuracy : Accuracy}
    (shifted : (shiftToTargetExponent Format.binary64 mantissa exponent accuracy).2 ≤
      greatestExponent)
    (rounded : (shiftToTargetExponent Format.binary64 mantissa exponent
        accuracy).1.roundedMantissa.log2 + 1 +
          (shiftToTargetExponent Format.binary64 mantissa exponent accuracy).2 ≤ 1024) :
    InRange (roundWithAccuracy Format.binary64 sign mantissa exponent accuracy) := by
  unfold roundWithAccuracy
  generalize shiftToTargetExponent Format.binary64 mantissa exponent accuracy = first at *
  obtain ⟨extended, finalExponent⟩ := first
  dsimp only at *
  split
  · trivial
  · unfold InRange shiftToTargetExponent shiftToExponent
    dsimp only
    rw [targetExponent_eq]
    unfold greatestExponent at *
    have least : Binary.leastExponent = -1074 := rfl
    omega

theorem mantissa_ofMantissaAndAccuracy (mantissa : Nat) (accuracy : Accuracy) :
    (ExtendedMantissa.ofMantissaAndAccuracy mantissa accuracy).mantissa = mantissa := by
  cases accuracy with
  | exact => rfl
  | inexact order => cases order <;> rfl

theorem log2_le_log2 {left right : Nat} (small : left ≤ right) : left.log2 ≤ right.log2 := by
  rcases Nat.eq_zero_or_pos left with rfl | positive
  · exact Nat.zero_le _
  · have power := Nat.log2_self_le (Nat.ne_of_gt positive)
    exact (Nat.le_log2 (by omega)).mpr (Nat.le_trans power small)

theorem log2_le_of_le_two_pow {value bound : Nat} (small : value ≤ 2 ^ bound) :
    value.log2 ≤ bound := by
  have bits := log2_le_log2 small
  rw [Nat.log2_two_pow] at bits
  exact bits

/-- Rounding after a shift carries the mantissa to the next power of two at most. -/
theorem log2_roundedMantissa_le (extended : ExtendedMantissa) (shift : Nat) :
    (extended >>> shift).roundedMantissa.log2 ≤ extended.mantissa.log2 + 1 - shift := by
  apply log2_le_of_le_two_pow
  have rounded := roundedMantissa_le (extended >>> shift)
  rw [mantissa_shiftRight] at rounded
  refine Nat.le_trans rounded ?_
  apply Nat.div_lt_of_lt_mul
  have power : extended.mantissa < 2 ^ (extended.mantissa.log2 + 1) := Nat.lt_log2_self
  refine Nat.lt_of_lt_of_le power ?_
  rw [← Nat.pow_add]
  exact Nat.pow_le_pow_right (by decide) (by omega)

/-- A number well inside the range stays in range, however it is rounded. -/
theorem inRange_of_totalExponent
    {sign : Sign}
    {mantissa : Nat}
    {exponent : Int}
    {accuracy : Accuracy}
    (small : exponent ≤ greatestExponent)
    (total : totalExponent mantissa exponent ≤ 1023) :
    InRange (roundWithAccuracy Format.binary64 sign mantissa exponent accuracy) := by
  have least : Binary.leastExponent = -1074 := rfl
  unfold totalExponent at total
  unfold greatestExponent at small
  apply inRange_roundWithAccuracy
  · unfold shiftToTargetExponent shiftToExponent greatestExponent
    dsimp only
    rw [targetExponent_eq]
    omega
  · unfold shiftToTargetExponent shiftToExponent
    dsimp only
    rw [targetExponent_eq]
    have rounded := log2_roundedMantissa_le
      (ExtendedMantissa.ofMantissaAndAccuracy mantissa accuracy)
      (max (mantissa.log2 + 1 + exponent - 53) Binary.leastExponent - exponent).toNat
    rw [mantissa_ofMantissaAndAccuracy] at rounded
    omega

/-- The largest double. -/
def greatestDouble : Nat := (2 ^ 53 - 1) * 2 ^ 971

theorem mul_two_pow_lt {mantissa bits : Nat} (small : mantissa < 2 ^ bits) (place : Nat) :
    mantissa * 2 ^ place < 2 ^ (bits + place) := by
  rw [Nat.pow_add]
  exact Nat.mul_lt_mul_of_pos_right small (Nat.two_pow_pos place)

theorem log2_lt_of_le_mul
    {value mantissa bits place : Nat}
    (small : value ≤ mantissa * 2 ^ place)
    (mantissaBits : mantissa < 2 ^ bits)
    (nonzero : value ≠ 0) :
    value.log2 < bits + place :=
  (Nat.log2_lt nonzero).mpr (Nat.lt_of_le_of_lt small (mul_two_pow_lt mantissaBits place))

theorem log2_mul_two_pow {value : Nat} (nonzero : value ≠ 0) (place : Nat) :
    (value * 2 ^ place).log2 = value.log2 + place := by
  have bits : value.log2 + place + 1 = value.log2 + 1 + place := by omega
  have positive : 0 < value * 2 ^ place :=
    Nat.mul_pos (Nat.pos_of_ne_zero nonzero) (Nat.two_pow_pos place)
  rw [Nat.log2_eq_iff (Nat.ne_of_gt positive), bits, Nat.pow_add]
  exact ⟨Nat.mul_le_mul_right _ (Nat.log2_self_le nonzero), mul_two_pow_lt Nat.lt_log2_self place⟩

theorem log2_mul_two_pow_le (value place : Nat) :
    (value * 2 ^ place).log2 ≤ value.log2 + place := by
  rcases Nat.eq_zero_or_pos value with rfl | positive
  · rw [Nat.zero_mul]
    exact Nat.zero_le _
  · exact Nat.le_of_eq (log2_mul_two_pow (Nat.ne_of_gt positive) place)

/-- Exact bits below the unit leave no more than their quotient. -/
theorem shiftToTargetExponent_exact (mantissa : Nat) (exponent : Int) :
    shiftToTargetExponent Format.binary64 mantissa exponent .exact =
      (ExtendedMantissa.mk mantissa false false >>>
          (max (mantissa.log2 + 1 + exponent - 53) Binary.leastExponent - exponent).toNat,
        exponent +
          (max (mantissa.log2 + 1 + exponent - 53) Binary.leastExponent - exponent).toNat) :=
  rfl

/-- A whole number up to the largest double is in range, with whatever zeros behind
its point. -/
theorem inRange_whole
    {sign : Sign}
    {whole : Nat}
    (small : whole ≤ greatestDouble)
    (places : Nat) :
    InRange (roundWithAccuracy Format.binary64 sign (whole * 2 ^ places) (-places) .exact) := by
  have least : Binary.leastExponent = -1074 := rfl
  unfold greatestDouble at small
  have bits := log2_mul_two_pow_le whole places
  by_cases inside : whole.log2 + 1 ≤ 1023
  · -- One bit is left for the carry.
    apply inRange_of_totalExponent
    · unfold greatestExponent
      omega
    · unfold totalExponent
      omega
  · -- All bits are in use, so the unit is that of the largest double.
    have nonzero : whole ≠ 0 := by
      intro zero
      rw [zero] at inside
      exact inside (by decide)
    have wholeBits : whole.log2 = 1023 := by
      have below := @log2_lt_of_le_mul whole (2 ^ 53 - 1) 53 971 small (by decide) nonzero
      omega
    have allBits := log2_mul_two_pow nonzero places
    have unit : (max (((whole * 2 ^ places).log2 : Int) + 1 + -places - 53)
        Binary.leastExponent - -places).toNat = 971 + places := by
      omega
    have rounded : (ExtendedMantissa.mk (whole * 2 ^ places) false false >>>
        (971 + places)).roundedMantissa.log2 < 53 := by
      have bound : (ExtendedMantissa.mk (whole * 2 ^ places) false false >>>
          (971 + places)).roundedMantissa ≤ 2 ^ 53 - 1 :=
        roundedMantissa_places_le small places
      rcases Nat.eq_zero_or_pos (ExtendedMantissa.mk (whole * 2 ^ places) false false >>>
        (971 + places)).roundedMantissa with zero | positive
      · rw [zero]
        decide
      · exact (Nat.log2_lt (Nat.ne_of_gt positive)).mpr (Nat.lt_of_le_of_lt bound (by decide))
    apply inRange_roundWithAccuracy
    · rw [shiftToTargetExponent_exact, unit]
      unfold greatestExponent
      dsimp only
      omega
    · rw [shiftToTargetExponent_exact, unit]
      dsimp only
      omega

theorem inRange_round
    {sign : Sign}
    {whole : Nat}
    (small : whole ≤ greatestDouble) :
    InRange (UnpackedFloat.round Format.binary64 sign whole 0) := by
  unfold UnpackedFloat.round decreaseExponent
  dsimp only
  generalize (0 - Format.binary64.targetExponent (totalExponent whole 0)).toNat = places
  rw [Nat.shiftLeft_eq, Int.zero_sub]
  exact inRange_whole small places

theorem parts_one : parts 1.0 = .finite .positive (2 ^ 52) (-52) (by decide) := rfl

theorem inRange_mul_one
    {sign : Sign}
    {mantissa : Nat}
    {exponent : Int}
    (nonzero : mantissa ≠ 0)
    (bits : mantissa < 2 ^ 53)
    (least : Binary.leastExponent ≤ exponent)
    (greatest : exponent ≤ greatestExponent) :
    InRange (roundWithAccuracy Format.binary64 sign (mantissa * 2 ^ 52) (exponent + -52)
      .exact) := by
  have leastExponent : Binary.leastExponent = -1074 := rfl
  unfold greatestExponent at greatest
  have mantissaBits := (Nat.log2_lt nonzero).mpr bits
  have productBits := log2_mul_two_pow nonzero 52
  -- The zeros behind the product are enough for the shift.
  obtain ⟨kept, sameBits⟩ : ∃ kept : Nat, (max (((mantissa * 2 ^ 52).log2 : Int) + 1 +
      (exponent + -52) - 53) Binary.leastExponent - (exponent + -52)).toNat + kept = 52 :=
    ⟨52 - (max (((mantissa * 2 ^ 52).log2 : Int) + 1 + (exponent + -52) - 53)
      Binary.leastExponent - (exponent + -52)).toNat, by omega⟩
  have exact := shiftToTargetExponent_exact (mantissa * 2 ^ 52) (exponent + -52)
  generalize shifted : (max (((mantissa * 2 ^ 52).log2 : Int) + 1 + (exponent + -52) - 53)
    Binary.leastExponent - (exponent + -52)).toNat = shift at *
  have rounded : (ExtendedMantissa.mk (mantissa * 2 ^ 52) false false >>>
      shift).roundedMantissa ≤ mantissa * 2 ^ kept := by
    have same : mantissa * 2 ^ 52 = mantissa * 2 ^ kept * 2 ^ shift := by
      rw [Nat.mul_assoc, ← Nat.pow_add, Nat.add_comm kept, sameBits]
    exact roundedMantissa_shift_le (Nat.le_of_eq same)
  have roundedBits : (ExtendedMantissa.mk (mantissa * 2 ^ 52) false false >>>
      shift).roundedMantissa.log2 ≤ mantissa.log2 + kept := by
    rw [← log2_mul_two_pow nonzero kept]
    exact log2_le_log2 rounded
  apply inRange_roundWithAccuracy
  · rw [exact]
    unfold greatestExponent
    dsimp only
    omega
  · rw [exact]
    dsimp only
    omega

/-- The root of a number has half its bits. -/
theorem log2_sqrt_le (value : Nat) : 2 * (Nat.sqrt value).log2 ≤ value.log2 := by
  rcases Nat.eq_zero_or_pos (Nat.sqrt value) with zero | positive
  · rw [zero]
    exact Nat.zero_le _
  · have square := Nat.sqrt_le value
    have nonzero : value ≠ 0 := by
      have something := Nat.mul_pos positive positive
      omega
    rw [Nat.le_log2 nonzero, Nat.two_mul, Nat.pow_add]
    have power := Nat.log2_self_le (Nat.ne_of_gt positive)
    exact Nat.le_trans (Nat.mul_le_mul power power) square

theorem inRange_sqrt
    {mantissa : Nat}
    {exponent : Int}
    {positive : 0 < mantissa}
    (bits : mantissa < 2 ^ 53)
    (small : exponent ≤ greatestExponent) :
    InRange (UnpackedFloat.sqrt Format.binary64
      (.finite .positive mantissa exponent positive)) := by
  have mantissaBits := (Nat.log2_lt (Nat.ne_of_gt positive)).mpr bits
  unfold greatestExponent at small
  simp only [UnpackedFloat.sqrt, sqrtCore]
  generalize Format.binary64.targetExponent _ = wanted
  have rootBits := log2_sqrt_le
    (mantissa <<< (exponent - 2 * min (exponent.ediv 2) wanted).toNat)
  have shiftedBits := log2_mul_two_pow_le mantissa
    (exponent - 2 * min (exponent.ediv 2) wanted).toNat
  rw [← Nat.shiftLeft_eq] at shiftedBits
  have half : 2 * exponent.ediv 2 ≤ exponent := by
    show 2 * (exponent / 2) ≤ exponent
    omega
  apply inRange_of_totalExponent
  · unfold greatestExponent
    omega
  · unfold totalExponent
    omega

end FormulaGrid
