import FormulaGrid.Proofs.Number.Reading

/-!
Contract: doubles that are natural numbers.

Owns:
- the magnitude of a double that equals an integer (`Binary.magnitude_eq_of_toInt?`);
- the positive doubles that are a natural number (`IsNatural`): those that equal an integer
  (`isNatural_of_toInt?`), and one for each short number (`isNatural_of_short`);
- the double and the number are converted into each other (`IsNatural.nearestInteger_eq`,
  `IsNatural.floatOfInteger_eq`);
- a positive number in the range of doubles is converted to a positive double, also where it is
  rounded (`exists_parts_ofNat`, `ofNat_ne_zero`);
- an integer in the range of doubles is not long (`log2_lt_of_fitsFloat`), so that it can be
  written (`isWritable_iff`, `isWritable_of_fitsFloat`).
-/

namespace FormulaGrid

open Float.Model Float.Model.UnpackedFloat

/-! ## Doubles that are natural numbers -/

/-- The positive double is the natural number. -/
def IsNatural (value : Float) (number : Nat) : Prop :=
  ∃ (mantissa : Nat) (exponent : Int) (positive : 0 < mantissa),
    parts value = .finite .positive mantissa exponent positive ∧
      (⟨false, mantissa, exponent⟩ : Binary).magnitude = number

/-- A short natural number is a double. -/
theorem isNatural_of_short {number : Nat} (nonzero : number ≠ 0) (short : number < 2 ^ 53) :
    IsNatural number.toUInt64.toFloat number := by
  obtain ⟨positive, same⟩ := parts_toFloat_short nonzero short
  refine ⟨_, _, positive, same, ?_⟩
  have cancel : (2 : ℚ) ^ (52 - number.log2) * 2 ^ (-(52 - number.log2 : Nat) : Int) = 1 := by
    rw [zpow_neg, zpow_natCast]
    exact mul_inv_cancel₀ (by positivity)
  rw [Binary.magnitude]
  push_cast
  rw [mul_assoc, cancel, mul_one]

/-- A whole magnitude is divided without a rest. -/
theorem Binary.numerator_of_magnitude
    {binary : Binary}
    {number : Nat}
    (whole : binary.magnitude = number) :
    binary.numerator = number * binary.denominator := by
  have numerator := binary.numerator_eq
  rw [whole] at numerator
  exact_mod_cast numerator

/-- A double that equals an integer has that integer's magnitude. -/
theorem Binary.magnitude_eq_of_toInt?
    {number : Binary}
    {whole : Int}
    (equals : number.toInt? = some whole) :
    number.magnitude = whole.natAbs := by
  unfold Binary.toInt? at equals
  split at equals
  next divides =>
    cases equals
    have positive : (number.denominator : ℚ) ≠ 0 :=
      Nat.cast_ne_zero.mpr number.denominator_pos.ne'
    have exact : number.numerator / number.denominator * number.denominator = number.numerator :=
      Nat.div_mul_cancel (Nat.dvd_of_mod_eq_zero (beq_iff_eq.mp divides))
    rw [natAbs_withSign]
    refine mul_right_cancel₀ positive ?_
    rw [← number.numerator_eq, ← Nat.cast_mul, exact]
  next => cases equals

theorem Binary.not_negative_of_toInt?
    {binary : Binary}
    {number : Nat}
    (equals : binary.toInt? = some (number : Int))
    (nonzero : number ≠ 0) :
    binary.negative = false := by
  unfold Binary.toInt? at equals
  split at equals
  next =>
    have signed := Option.some.inj equals
    unfold Binary.withSign at signed
    generalize binary.numerator / binary.denominator = quotient at signed
    cases negative : binary.negative with
    | false => rfl
    | true =>
        rw [negative, if_pos rfl] at signed
        omega
  next => cases equals

/-- A double that equals a positive integer is this natural number. -/
theorem isNatural_of_toInt?
    {value : Float}
    {binary : Binary}
    {number : Nat}
    (fields : Binary.ofFloat? value = some binary)
    (equals : binary.toInt? = some (number : Int))
    (nonzero : number ≠ 0) :
    IsNatural value number := by
  have magnitude := Binary.magnitude_eq_of_toInt? equals
  have notNegative := Binary.not_negative_of_toInt? equals nonzero
  rw [Int.natAbs_natCast] at magnitude
  rw [Binary.ofFloat?_eq] at fields
  cases same : parts value with
  | notANumber | infinity => rw [same] at fields; cases fields
  | zero sign =>
      rw [same] at fields
      cases fields
      rw [(Binary.magnitude_eq_zero_iff _).mpr rfl] at magnitude
      exact absurd (Nat.cast_eq_zero.mp magnitude.symm) nonzero
  | finite sign mantissa exponent positive =>
      rw [same] at fields
      cases fields
      cases sign with
      | positive => exact ⟨mantissa, exponent, positive, same, magnitude⟩
      | negative => cases notNegative

namespace IsNatural

variable {value : Float} {number : Nat} (natural : IsNatural value number)

include natural

theorem isFinite : value.isFinite = true := by
  obtain ⟨mantissa, exponent, positive, same, -⟩ := natural
  show (parts value).isFinite = true
  rw [same]
  rfl

theorem not_lt_zero : ¬ value < 0.0 := by
  obtain ⟨mantissa, exponent, positive, same, -⟩ := natural
  rw [lt_zero_iff, same]
  exact fun below => by cases below

/-- The integer nearest to the double is the number. -/
theorem nearestInteger_eq : nearestInteger value = .ok (number : Int) := by
  obtain ⟨mantissa, exponent, positive, same, magnitude⟩ := natural
  have fields : Binary.ofFloat? value = some ⟨false, mantissa, exponent⟩ := by
    rw [Binary.ofFloat?_eq, same]
    rfl
  have numerator := Binary.numerator_of_magnitude magnitude
  have denominator := Binary.denominator_pos ⟨false, mantissa, exponent⟩
  unfold nearestInteger
  rw [fields]
  dsimp only
  rw [Binary.nearestInt, numerator, Nat.mul_mod_left, Nat.mul_div_cancel _ denominator,
    Nat.mul_zero, if_pos denominator]
  rfl

/-- The double nearest to the number is the double. -/
theorem floatOfInteger_eq : floatOfInteger (number : Int) = .ok value := by
  have finite := natural.isFinite
  obtain ⟨mantissa, exponent, positive, same, magnitude⟩ := natural
  have rounds : (⟨false, mantissa, exponent⟩ : Binary).Rounds
      (number * 10 ^ (if false = true then -((0 : Nat) : Int) else (0 : Nat))) := by
    have exact := Binary.rounds_magnitude ⟨false, mantissa, exponent⟩
    rw [magnitude] at exact
    simpa using exact
  have converted : Float.ofInt (number : Int) = value := by
    apply eq_of_parts_eq
    rw [same]
    exact parts_ofScientific (isCanonical_of_parts same) positive (bounds_of_parts same).2.2
      false rounds
  have fits : fitsFloat (number : Int) = true := by
    rw [fitsFloat, converted]
    exact finite
  rw [floatOfInteger, if_pos fits, converted]

end IsNatural

/-! ## Conversions that round -/

theorem mantissa_le_roundedMantissa (extended : ExtendedMantissa) :
    extended.mantissa ≤ extended.roundedMantissa := by
  obtain ⟨mantissa, roundBit, stickyBit⟩ := extended
  cases roundBit <;> cases stickyBit
  · exact Nat.le_refl mantissa
  · exact Nat.le_refl mantissa
  · exact Nat.le_add_right mantissa _
  · exact Nat.le_succ mantissa

/-- A long whole number is rounded to 53 bits, and not to fewer places than it has. -/
theorem roundWithAccuracy_of_long
    {number : Nat}
    (large : ¬ number < 2 ^ 53) :
    ∃ (mantissa : Nat) (exponent : Int) (positive : 0 < mantissa),
      roundWithAccuracy Format.binary64 .positive (number * 2 ^ 53) (-(53 : Nat)) .exact =
          .finite .positive mantissa exponent positive ∧
        IsCanonical mantissa exponent ∧ (number.log2 : Int) - 52 ≤ exponent := by
  have nonzero : number ≠ 0 := by omega
  have bits := log2_mul_two_pow nonzero 53
  have long : 53 ≤ number.log2 := (Nat.le_log2 nonzero).mpr (Nat.not_lt.mp large)
  have least : Binary.leastExponent = -1074 := rfl
  have places : (unitPlaces : Int) = 1074 := rfl
  have isUnit : max (((number * 2 ^ 53).log2 : Int) + 1 + -(53 : Nat) - 53)
      Binary.leastExponent = (number.log2 : Int) - 52 := by
    omega
  have shift : ((number.log2 : Int) - 52 - -(53 : Nat)).toNat = number.log2 + 1 := by omega
  have quotient : 2 ^ 52 ≤ number * 2 ^ 53 / 2 ^ (number.log2 + 1) := by
    rw [Nat.le_div_iff_mul_le (Nat.two_pow_pos _), ← Nat.pow_add]
    calc
      2 ^ (52 + (number.log2 + 1)) = 2 ^ number.log2 * 2 ^ 53 := by
        rw [← Nat.pow_add]
        congr 1
        omega
      _ ≤ number * 2 ^ 53 := Nat.mul_le_mul_right _ (Nat.log2_self_le nonzero)
  have above : number * 2 ^ 53 ≤ 2 ^ 53 * 2 ^ (number.log2 + 1) := by
    rw [Nat.mul_comm (2 ^ 53)]
    exact Nat.mul_le_mul_right _ (Nat.le_of_lt Nat.lt_log2_self)
  have atMost := roundedMantissa_shift_le above
  have atLeast := mantissa_le_roundedMantissa
    (ExtendedMantissa.mk (number * 2 ^ 53) false false >>> (number.log2 + 1))
  rw [mantissa_shiftRight] at atLeast
  have full := Nat.le_trans quotient atLeast
  rcases Nat.lt_or_eq_of_le atMost with short | carry
  · exact ⟨_, _, Nat.lt_of_lt_of_le (Nat.two_pow_pos 52) full,
      roundWithAccuracy_of_short isUnit (by omega) (by rw [shift]; rfl) _ short,
      ⟨short, by omega, fun _ => full⟩, Int.le_refl _⟩
  · exact ⟨_, _, Nat.two_pow_pos 52,
      roundWithAccuracy_of_carry isUnit (by omega) (by rw [shift]; exact carry),
      ⟨by decide, by omega, fun _ => Nat.le_refl _⟩, by omega⟩

/-- A positive natural number is converted to a positive double. -/
theorem exists_parts_ofNat
    {number : Nat}
    (nonzero : number ≠ 0)
    (small : number ≤ greatestDouble) :
    ∃ (mantissa : Nat) (exponent : Int) (positive : 0 < mantissa),
      parts (Float.ofNat number) = .finite .positive mantissa exponent positive := by
  by_cases short : number < 2 ^ 53
  · have natural := isNatural_of_short nonzero short
    have converted := natural.floatOfInteger_eq
    unfold floatOfInteger at converted
    split at converted
    next =>
      obtain ⟨mantissa, exponent, positive, same, -⟩ := natural
      exact ⟨mantissa, exponent, positive, (congrArg parts (Except.ok.inj converted)).trans same⟩
    next => cases converted
  · obtain ⟨mantissa, exponent, positive, rounded, canonical, -⟩ :=
      roundWithAccuracy_of_long short
    have inRange := @inRange_whole .positive number small 53
    rw [rounded] at inRange
    rw [ofNat_large short, rounded]
    exact ⟨mantissa, exponent, positive, parts_pack_of_canonical canonical inRange⟩

theorem ofNat_ne_zero {number : Nat} (nonzero : number ≠ 0) (small : number ≤ greatestDouble) :
    (Float.ofNat number == 0.0) = false := by
  obtain ⟨mantissa, exponent, positive, same⟩ := exists_parts_ofNat nonzero small
  show (parts (Float.ofNat number)).beq (parts 0.0) = false
  rw [same]
  rfl

/-- A natural number beyond all doubles is converted to infinity. -/
theorem parts_ofNat_of_large {number : Nat} (large : 1024 ≤ number.log2) :
    parts (Float.ofNat number) = .infinity .positive := by
  have long : ¬ number < 2 ^ 53 := by
    rintro short
    rcases Nat.eq_zero_or_pos number with rfl | positive
    · simp at large
    · have bits := (Nat.log2_lt (Nat.ne_of_gt positive)).mpr short
      omega
  obtain ⟨mantissa, exponent, positive, rounded, -, place⟩ := roundWithAccuracy_of_long long
  rw [ofNat_large long, rounded]
  refine unpack_pack_of_overflow .positive positive ?_
  unfold greatestExponent
  omega

/-- An integer in the range of doubles is not long. -/
theorem log2_lt_of_fitsFloat {number : Int} (fits : fitsFloat number = true) :
    number.natAbs.log2 < 1024 := by
  by_contra notLess
  have infinite := parts_ofNat_of_large (Nat.not_lt.mp notLess)
  have finite : (parts (Float.ofInt number)).isFinite = true := fits
  cases number with
  | ofNat number =>
      have same : parts (Float.ofInt (Int.ofNat number)) = _ := infinite
      rw [same] at finite
      cases finite
  | negSucc number =>
      have negated : parts (Float.ofInt (Int.negSucc number)) =
          UnpackedFloat.unpack Format.binary64
            (UnpackedFloat.pack Format.binary64 (parts (Float.ofNat (number + 1))).neg) := rfl
      rw [negated, show parts (Float.ofNat (number + 1)) = _ from infinite] at finite
      cases finite

theorem isWritable_iff {value : Int} :
    Numeral.isWritable value = true ↔ value.natAbs < 10 ^ Numeral.longest :=
  decide_eq_true_iff.trans (Nat.length_toDigits_le_iff (by decide) (by decide))

/-- So it can be written as a numeral. -/
theorem isWritable_of_log2_lt {number : Int} (short : number.natAbs.log2 < Numeral.longest) :
    Numeral.isWritable number = true := by
  rw [isWritable_iff]
  calc
    number.natAbs < 2 ^ (number.natAbs.log2 + 1) := Nat.lt_log2_self
    _ ≤ 2 ^ Numeral.longest := Nat.pow_le_pow_right Nat.two_pos short
    _ ≤ 10 ^ Numeral.longest := Nat.pow_le_pow_left (by decide) _

theorem isWritable_of_fitsFloat {number : Int} (fits : fitsFloat number = true) :
    Numeral.isWritable number = true :=
  isWritable_of_log2_lt (Nat.lt_of_lt_of_le (log2_lt_of_fitsFloat fits) (by decide))

end FormulaGrid
