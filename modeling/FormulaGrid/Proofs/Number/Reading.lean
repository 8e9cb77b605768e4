import FormulaGrid.Number.Reading
import FormulaGrid.Proofs.Number.Digits
import FormulaGrid.Proofs.Number.Exact

/-!
Contract: a decimal is read as the double in whose interval it lies.

Owns:
- the range of what rounds to a double (`Binary.Rounds.half_unit_le`,
  `Binary.Rounds.lt_range`);
- short whole numbers and small powers of ten are exact (`parts_toFloat_short`,
  `exists_parts_powerOfTen`);
- the decimal of a coefficient and an exponent (`parts_ofScientific`), and of a run of
  digits (`parts_floatOfDecimal`).

The bounds of the range are those beyond which no power of ten is formed. A decimal in the
interval of a double keeps within them.
-/

namespace FormulaGrid

open Float.Model Float.Model.UnpackedFloat

/-! ## The range of doubles -/

/-- Three bits are less than one decimal place. -/
theorem two_pow_le_ten_pow {bits places : Nat} (few : bits ≤ 3 * places) :
    (2 : ℚ) ^ bits ≤ 10 ^ places := by
  calc
    (2 : ℚ) ^ bits ≤ 2 ^ (3 * places) := pow_le_pow_right₀ (by norm_num) few
    _ = (2 ^ 3) ^ places := pow_mul _ _ _
    _ ≤ 10 ^ places := pow_le_pow_left₀ (by norm_num) (by norm_num) _

namespace Binary.Rounds

variable {number : Binary} {value : ℚ}

/-- What rounds to a double with a significand is at least half the smallest double. -/
theorem half_unit_le
    (rounds : number.Rounds value)
    (positive : 0 < number.significand)
    (least : leastExponent ≤ number.exponent) :
    (2 : ℚ) ^ (-1075 : Int) ≤ value := by
  have one : (1 : ℚ) ≤ number.significand := by exact_mod_cast positive
  have quarters := quartersBelow_le number
  have bound : (-1074 : Int) ≤ number.exponent := least
  calc
    (2 : ℚ) ^ (-1075 : Int) ≤ 2 ^ (number.exponent - 1) :=
      zpow_le_zpow_right₀ (by norm_num) (by omega)
    _ = 1 / 2 * 2 ^ number.exponent := by
      rw [zpow_sub_one₀ (by norm_num)]
      ring
    _ ≤ (number.significand - number.quartersBelow / 4) * 2 ^ number.exponent :=
      mul_le_mul_of_nonneg_right (by linarith) (two_zpow_pos _).le
    _ ≤ value := rounds.low

theorem lt_range
    (rounds : number.Rounds value)
    (short : number.significand < 2 ^ 53)
    (inRange : number.exponent ≤ greatestExponent) :
    value < (2 : ℚ) ^ (1024 : Int) := by
  have bound : number.exponent ≤ 971 := inRange
  exact lt_of_lt_of_le (rounds.lt_two_zpow short)
    (zpow_le_zpow_right₀ (by norm_num) (by omega))

end Binary.Rounds

/-! ## Exact operands -/

/-- A positive mantissa, filled up with zeros to full length, is canonical. -/
theorem isCanonical_filled {number : Nat} (nonzero : number ≠ 0) (short : number < 2 ^ 53) :
    IsCanonical (number * 2 ^ (52 - number.log2)) (-(52 - number.log2 : Nat)) := by
  have bits := (Nat.log2_lt nonzero).mpr short
  have log := log2_mul_two_pow nonzero (52 - number.log2)
  have positive : number * 2 ^ (52 - number.log2) ≠ 0 :=
    Nat.mul_ne_zero nonzero (Nat.two_pow_pos _).ne'
  have places : (unitPlaces : Int) = 1074 := rfl
  exact ⟨(Nat.log2_lt positive).mp (by omega), by omega,
    fun _ => (Nat.le_log2 positive).mp (by omega)⟩

/-- A short whole number is a double with the zeros filled in. -/
theorem parts_toFloat_short {number : Nat} (nonzero : number ≠ 0) (short : number < 2 ^ 53) :
    ∃ positive, parts number.toUInt64.toFloat =
      .finite .positive (number * 2 ^ (52 - number.log2)) (-(52 - number.log2 : Nat))
        positive := by
  have bits := (Nat.log2_lt nonzero).mpr short
  have log := log2_mul_two_pow nonzero (52 - number.log2)
  have canonical := isCanonical_filled nonzero short
  have positive : 0 < number * 2 ^ (52 - number.log2) :=
    Nat.mul_pos (Nat.pos_of_ne_zero nonzero) (Nat.two_pow_pos _)
  have leastExponent : Binary.leastExponent = -1074 := rfl
  generalize filled : 52 - number.log2 = places at *
  refine ⟨positive, ?_⟩
  rw [← parts_pack_of_canonical canonical (by unfold greatestExponent; omega)]
  have word : number.toUInt64.toNat = number := Nat.mod_eq_of_lt (Nat.lt_trans short (by decide))
  have whole : (0 : Int) < (number : Int) := by omega
  have shift : (-max ((number.log2 : Int) + 1 + 0 - 53) Binary.leastExponent).toNat =
      places := by
    omega
  have enough : (-places : Int) ≤ max (((number * 2 ^ places).log2 : Int) + 1 + -places - 53)
      Binary.leastExponent := by
    omega
  have rounded : roundWithAccuracy Format.binary64 .positive (number * 2 ^ places) (-places)
      .exact = .finite .positive (number * 2 ^ places) (-places) positive :=
    roundWithAccuracy_of_rounds canonical positive (holds_exact _)
      (Binary.rounds_magnitude ⟨false, number * 2 ^ places, -places⟩) enough _
  have normalized : UnpackedFloat.ofUInt64 Format.binary64 number.toUInt64 =
      .finite .positive (number * 2 ^ places) (-places) positive := by
    show UnpackedFloat.normalize Format.binary64 (number.toUInt64.toNat : Int) 0 .positive = _
    rw [word, UnpackedFloat.normalize, Int.compare_eq_gt.mpr whole]
    simp only [Int.toNat_natCast, UnpackedFloat.round, decreaseExponent, targetExponent_eq,
      Nat.shiftLeft_eq, Int.zero_sub, shift]
    exact rounded
  show parts (Float.ofModel (Float.Model.pack
    (UnpackedFloat.ofUInt64 Format.binary64 number.toUInt64))) = _
  rw [normalized]

/-- The positive double with a given count has the number of the count. -/
theorem exists_parts_of_unitsOf
    {value : Float}
    {units : Nat}
    (positive : 0 < units)
    (count : unitsOf (parts value) = some (units : Int)) :
    ∃ mantissa exponent nonzero,
      parts value = .finite .positive mantissa exponent nonzero ∧
        (mantissa * 2 ^ exponent : ℚ) = units / 2 ^ unitPlaces := by
  cases same : parts value with
  | notANumber | infinity => rw [same] at count; cases count
  | zero =>
      rw [same] at count
      have none := Option.some.inj count
      omega
  | finite sign mantissa exponent nonzero =>
      rw [same] at count
      have least : -(unitPlaces : Int) ≤ exponent := (isCanonical_of_parts same).2.1
      cases sign with
      | negative =>
          have negated : -(magnitudeUnits mantissa exponent : Int) = units := Option.some.inj count
          omega
      | positive =>
          have counted : (magnitudeUnits mantissa exponent : Int) = units := Option.some.inj count
          have units : magnitudeUnits mantissa exponent = units := by omega
          refine ⟨mantissa, exponent, nonzero, rfl, ?_⟩
          obtain ⟨places, shifted⟩ : ∃ places : Nat, (places : Int) = exponent + unitPlaces :=
            ⟨(exponent + unitPlaces).toNat, by omega⟩
          rw [← units, magnitudeUnits, ← shifted, Int.toNat_natCast, eq_div_iff (by positivity)]
          push_cast
          rw [mul_assoc, ← zpow_natCast, ← zpow_add₀ (by norm_num), ← shifted, zpow_natCast]

theorem unitsOf_powersOfTen :
    ∀ place : Fin Float.exactlyRepresentablePowersOfTen.size,
      unitsOf (parts Float.exactlyRepresentablePowersOfTen[place]) =
        some ((10 ^ (place : Nat) * 2 ^ unitPlaces : Nat) : Int) := by
  decide +kernel

/-- The powers of ten in the table are exact. -/
theorem exists_parts_powerOfTen
    {place : Nat}
    (inTable : place < Float.exactlyRepresentablePowersOfTen.size) :
    ∃ mantissa exponent nonzero,
      parts Float.exactlyRepresentablePowersOfTen[place] =
          .finite .positive mantissa exponent nonzero ∧
        (mantissa * 2 ^ exponent : ℚ) = 10 ^ place := by
  obtain ⟨mantissa, exponent, nonzero, same, value⟩ :=
    exists_parts_of_unitsOf (by positivity) (unitsOf_powersOfTen ⟨place, inTable⟩)
  refine ⟨mantissa, exponent, nonzero, same, value.trans ?_⟩
  push_cast
  exact mul_div_cancel_right₀ _ (by positivity)

/-! ## Coefficients and exponents -/

section

variable {number : Binary} (canonical : IsCanonical number.significand number.exponent)
  (positive : 0 < number.significand) (inRange : number.exponent ≤ greatestExponent)

include canonical positive inRange

/-- A decimal in the interval of a double has an exponent for which its power of ten is
formed. -/
theorem exponent_bounds
    {coefficient : Nat}
    {exponent : Int}
    (rounds : number.Rounds (coefficient * 10 ^ exponent)) :
    coefficient ≠ 0 ∧ exponent < 1024 ∧ -(1076 + coefficient.log2 : Int) ≤ exponent := by
  have below := rounds.lt_range canonical.1 inRange
  have above := rounds.half_unit_le positive canonical.2.1
  have nonzero : coefficient ≠ 0 := by
    rintro rfl
    rw [Nat.cast_zero, zero_mul] at above
    exact absurd above (not_le.mpr (two_zpow_pos _))
  have one : (1 : ℚ) ≤ coefficient := by exact_mod_cast Nat.pos_of_ne_zero nonzero
  refine ⟨nonzero, ?_, ?_⟩
  · by_contra large
    have powers : (2 : ℚ) ^ exponent ≤ 10 ^ exponent :=
      zpow_le_zpow_left₀ (by omega) (by norm_num) (by norm_num)
    have tens : (10 : ℚ) ^ exponent ≤ coefficient * 10 ^ exponent :=
      le_mul_of_one_le_left (zpow_nonneg (by norm_num) _) one
    have less := lt_of_two_zpow_lt (lt_of_le_of_lt (powers.trans tens) below)
    omega
  · by_contra small
    have powers : (10 : ℚ) ^ exponent ≤ 2 ^ exponent := by
      obtain ⟨places, same⟩ : ∃ places : Nat, exponent = -places := ⟨(-exponent).toNat, by omega⟩
      rw [same, zpow_neg, zpow_neg, zpow_natCast, zpow_natCast]
      exact inv_anti₀ (by positivity) (pow_le_pow_left₀ (by norm_num) (by norm_num) _)
    have bits : (coefficient : ℚ) < 2 ^ (coefficient.log2 + 1) := by
      exact_mod_cast Nat.lt_log2_self
    have product : (coefficient : ℚ) * 10 ^ exponent <
        2 ^ ((coefficient.log2 + 1 : Nat) + exponent) := by
      rw [two_zpow_add_nat]
      exact mul_lt_mul bits powers (zpow_pos (by norm_num) _) (by positivity)
    have less := lt_of_two_zpow_lt (lt_of_le_of_lt above product)
    omega

/-- The general way: a product or a quotient with a power of ten of any size. -/
theorem ofScientific_of_rounds
    {coefficient : Nat}
    {exponent : Int}
    (rounds : number.Rounds (coefficient * 10 ^ exponent)) :
    UnpackedFloat.ofScientific Format.binary64 coefficient exponent =
      .finite .positive number.significand number.exponent positive := by
  obtain ⟨nonzero, below, above⟩ := exponent_bounds canonical positive inRange rounds
  have range : (2 : Int) ^ Format.binary64.exponentBits = 2048 := rfl
  have bits : Format.binary64.mantissaBits = 53 := rfl
  unfold UnpackedFloat.ofScientific
  rw [dif_neg nonzero, range, if_neg (by omega), if_neg (by omega)]
  by_cases whole : 0 ≤ exponent
  · obtain ⟨places, rfl⟩ := Int.eq_ofNat_of_zero_le whole
    rw [if_pos whole]
    have long :
        2 ^ 52 ≤ coefficient <<< Format.binary64.mantissaBits * 10 ^ (places : Int).toNat := by
      rw [Nat.shiftLeft_eq, bits]
      calc
        2 ^ 52 ≤ 1 * 2 ^ 53 * 1 := by norm_num
        _ ≤ coefficient * 2 ^ 53 * 10 ^ (places : Int).toNat :=
          Nat.mul_le_mul (Nat.mul_le_mul_right _ (Nat.pos_of_ne_zero nonzero))
            (Nat.pow_pos (by decide))
    refine (mul_of_rounds canonical positive long ?_).trans rfl
    have same : ((coefficient <<< Format.binary64.mantissaBits : Nat) : ℚ) *
        2 ^ (-(Format.binary64.mantissaBits : Int)) *
          (((10 ^ (places : Int).toNat : Nat) : ℚ) * 2 ^ (0 : Int)) =
        coefficient * 10 ^ (places : Int) := by
      rw [Nat.shiftLeft_eq, bits, Int.toNat_natCast, zpow_natCast]
      push_cast
      norm_num
      ring
    rw [same]
    exact rounds
  · obtain ⟨places, same⟩ : ∃ places : Nat, exponent = -(places : Int) :=
      ⟨(-exponent).toNat, by omega⟩
    rw [if_neg whole]
    refine (div_of_rounds canonical positive ?_).trans rfl
    have quotient : (coefficient * 2 ^ (0 : Int) : ℚ) /
        (((10 ^ (-exponent).toNat : Nat) : ℚ) * 2 ^ (0 : Int)) = coefficient * 10 ^ exponent := by
      rw [same, neg_neg, Int.toNat_natCast, zpow_neg, zpow_natCast, zpow_zero, mul_one, mul_one,
        div_eq_mul_inv]
      push_cast
      rfl
    rw [quotient]
    exact rounds

/-- The decimal of a coefficient and an exponent, in either way. -/
theorem parts_ofScientific
    {coefficient places : Nat}
    (negative : Bool)
    (rounds : number.Rounds
      (coefficient * 10 ^ (if negative then -(places : Int) else places))) :
    parts (Float.ofScientific coefficient negative places) =
      .finite .positive number.significand number.exponent positive := by
  obtain ⟨nonzero, -⟩ := exponent_bounds canonical positive inRange rounds
  rw [← parts_pack_of_canonical canonical inRange]
  unfold Float.ofScientific
  split
  next fast =>
    -- Both operands are exact, so that one operation rounds.
    obtain ⟨leftPositive, left⟩ := parts_toFloat_short nonzero fast.1
    have inTable : places < Float.exactlyRepresentablePowersOfTen.size :=
      Nat.lt_succ_of_le fast.2
    obtain ⟨mantissa, exponent, rightPositive, right, power⟩ := exists_parts_powerOfTen inTable
    have whole : ((coefficient * 2 ^ (52 - coefficient.log2) : Nat) : ℚ) *
        2 ^ (-(52 - coefficient.log2 : Nat) : Int) = coefficient := by
      push_cast
      rw [mul_assoc, ← zpow_natCast, ← zpow_add₀ (by norm_num), add_neg_cancel, zpow_zero, mul_one]
    cases negative with
    | true =>
        have quotient : UnpackedFloat.div Format.binary64
            (parts coefficient.toUInt64.toFloat)
            (parts Float.exactlyRepresentablePowersOfTen[places]) =
              .finite .positive number.significand number.exponent positive := by
          rw [left, right]
          refine (div_of_rounds canonical positive ?_).trans rfl
          rw [whole, power]
          simpa [div_eq_mul_inv] using rounds
        exact congrArg (fun number => parts (Float.ofModel (Float.Model.pack number))) quotient
    | false =>
        have least : (unitPlaces : Int) = 1074 := rfl
        have full := (isCanonical_filled nonzero fast.1).2.2 (by omega)
        have long := Nat.le_trans full (Nat.le_mul_of_pos_right _ rightPositive)
        have product : UnpackedFloat.mul Format.binary64
            (parts coefficient.toUInt64.toFloat)
            (parts Float.exactlyRepresentablePowersOfTen[places]) =
              .finite .positive number.significand number.exponent positive := by
          rw [left, right]
          refine (mul_of_rounds canonical positive long ?_).trans rfl
          rw [whole, power]
          simpa using rounds
        exact congrArg (fun number => parts (Float.ofModel (Float.Model.pack number))) product
  next slow =>
    have general := ofScientific_of_rounds canonical positive inRange rounds
    cases negative <;>
      exact congrArg (fun number => parts (Float.ofModel (Float.Model.pack number))) general

/-- A run of digits with an exponent is read as the double in whose interval it lies. -/
theorem parts_floatOfDecimal
    {digits : List Nat}
    (areDigits : ∀ digit ∈ digits, digit < 10)
    {exponent : Int}
    (rounds : number.Rounds (Text.valueOfDigits 10 digits * 10 ^ exponent)) :
    parts (floatOfDecimal digits exponent) =
      .finite .positive number.significand number.exponent positive := by
  obtain ⟨nonzero, -⟩ := exponent_bounds canonical positive inRange rounds
  obtain ⟨some, leadingDigit⟩ := pow_le_valueOfDigits nonzero
  have shorter : Text.valueOfDigits 10 digits < 10 ^ (digits.dropWhile (· == 0)).length := by
    rw [← valueOfDigits_dropWhile]
    exact valueOfDigits_lt _ fun digit member => areDigits digit (List.dropWhile_subset _ member)
  unfold floatOfDecimal
  dsimp only
  generalize (digits.dropWhile (· == 0)).length = count at *
  generalize Text.valueOfDigits 10 digits = coefficient at *
  have power := zpow_pos (by norm_num : (0 : ℚ) < 10) exponent
  have far : farExponent = 400 := rfl
  have notTiny : ¬ (count : Int) + exponent < -farExponent := by
    intro tiny
    have less : (coefficient : ℚ) * 10 ^ exponent < 10 ^ (-400 : Int) :=
      calc
        (coefficient : ℚ) * 10 ^ exponent < 10 ^ count * 10 ^ exponent :=
          mul_lt_mul_of_pos_right (by exact_mod_cast shorter) power
        _ = 10 ^ ((count : Int) + exponent) := by rw [zpow_add₀ (by norm_num), zpow_natCast]
        _ ≤ 10 ^ (-400 : Int) := zpow_le_zpow_right₀ (by norm_num) (by omega)
    have most := lt_of_le_of_lt (rounds.half_unit_le positive canonical.2.1) less
    rw [zpow_neg, zpow_neg, zpow_ofNat, zpow_ofNat,
      inv_lt_inv₀ (by positivity) (by positivity)] at most
    exact absurd most (not_lt.mpr (two_pow_le_ten_pow (by norm_num)))
  have notHuge : ¬ farExponent < (count : Int) + exponent := by
    intro huge
    have more : (10 : ℚ) ^ (400 : Int) ≤ coefficient * 10 ^ exponent :=
      calc
        (10 : ℚ) ^ (400 : Int) ≤ 10 ^ (((count - 1 : Nat) : Int) + exponent) :=
          zpow_le_zpow_right₀ (by norm_num) (by omega)
        _ = 10 ^ (count - 1) * 10 ^ exponent := by rw [zpow_add₀ (by norm_num), zpow_natCast]
        _ ≤ coefficient * 10 ^ exponent :=
          mul_le_mul_of_nonneg_right (by exact_mod_cast leadingDigit) power.le
    have least := lt_of_le_of_lt more (rounds.lt_range canonical.1 inRange)
    rw [zpow_ofNat, zpow_ofNat] at least
    exact absurd least (not_lt.mpr (two_pow_le_ten_pow (by norm_num)))
  have sum : ¬ (coefficient == 0 || decide ((count : Int) + exponent < -farExponent)) = true := by
    simp [nonzero, notTiny]
  rw [if_neg sum, if_neg notHuge]
  split
  next fractional =>
    refine parts_ofScientific canonical positive inRange true ?_
    have same : -(exponent.natAbs : Int) = exponent := by omega
    rwa [if_pos rfl, same]
  next whole =>
    refine parts_ofScientific canonical positive inRange false ?_
    have same : (exponent.natAbs : Int) = exponent := by omega
    rwa [if_neg Bool.false_ne_true, same]

end

end FormulaGrid
