import FormulaGrid.Number.Conversion
import FormulaGrid.Proofs.Number.Rounding

/-!
Contract: which operations on finite doubles give finite doubles.

Owns:
- a double below zero has a negative sign (`lt_zero_iff`);
- negation, magnitude and square root keep doubles finite;
- a whole number up to the largest double becomes a finite double, and the integer
  nearest to a finite double is such a number.

Sums, products and quotients may leave the range; nothing is said of them but the sign
of the reciprocal of a positive number, and that a quotient by an infinity is zero.
-/

namespace FormulaGrid

open Float.Model Float.Model.UnpackedFloat

/-- The parts lie below zero. -/
def IsBelowZero : UnpackedFloat → Prop
  | .infinity .negative | .finite .negative _ _ _ => True
  | _ => False

theorem isFinite_zero : (0.0 : Float).isFinite = true := by
  rfl

/-- A double is below zero if its parts are. -/
theorem lt_zero_iff (value : Float) : value < 0.0 ↔ IsBelowZero (parts value) := by
  have compared : value < 0.0 ↔ (parts value).lt (parts 0.0) = true := decide_eq_true_iff
  have zero : parts 0.0 = .zero .positive := rfl
  rw [compared, zero]
  cases parts value with
  | notANumber => simp [UnpackedFloat.lt, UnpackedFloat.compare, IsBelowZero]
  | infinity sign | zero sign | finite sign mantissa exponent positive =>
      cases sign <;> simp [UnpackedFloat.lt, UnpackedFloat.compare, IsBelowZero]

theorem not_lt_zero_of_signOf
    {value : Float}
    (positive : signOf (parts value) = some .positive) :
    ¬ value < 0.0 := by
  rw [lt_zero_iff]
  intro below
  cases same : parts value with
  | notANumber => rw [same] at below; exact below
  | infinity sign | zero sign | finite sign =>
      rw [same] at below positive
      cases positive
      exact below

theorem isFinite_pack {number : UnpackedFloat} (inRange : InRange number) :
    (Float.ofModel (Float.Model.pack number)).isFinite = true :=
  isFinite_unpack_pack inRange

theorem inRange_of_isFinite {value : Float} (finite : value.isFinite = true) :
    InRange (parts value) := by
  have partsFinite : (parts value).isFinite = true := finite
  cases same : parts value with
  | notANumber | infinity => rw [same] at partsFinite; exact Bool.noConfusion partsFinite
  | zero => trivial
  | finite sign mantissa exponent positive => exact (bounds_of_parts same).2.2

theorem InRange.neg {number : UnpackedFloat} (inRange : InRange number) :
    InRange number.neg := by
  cases number <;> exact inRange

theorem InRange.abs {number : UnpackedFloat} (inRange : InRange number) :
    InRange number.abs := by
  cases number <;> exact inRange

theorem isFinite_neg {value : Float} (finite : value.isFinite = true) :
    (-value).isFinite = true :=
  isFinite_pack (inRange_of_isFinite finite).neg

theorem isFinite_abs {value : Float} (finite : value.isFinite = true) :
    value.abs.isFinite = true :=
  isFinite_pack (inRange_of_isFinite finite).abs

theorem not_neg_lt_zero {value : Float} (below : value < 0.0) : ¬ -value < 0.0 := by
  apply not_lt_zero_of_signOf
  have negated : signOf (parts value).neg = some .positive := by
    rw [lt_zero_iff] at below
    cases same : parts value with
    | notANumber => rw [same] at below; exact absurd below id
    | infinity sign | zero sign | finite sign =>
        rw [same] at below
        cases sign
        · rfl
        · exact absurd below id
  exact (signOf_unpack_pack _).trans negated

/-- The square root of a finite double that is not below zero is finite. -/
theorem isFinite_sqrt
    {value : Float}
    (finite : value.isFinite = true)
    (notBelow : ¬ value < 0.0) :
    value.sqrt.isFinite = true := by
  rw [lt_zero_iff] at notBelow
  have inRange := inRange_of_isFinite finite
  have root : InRange (UnpackedFloat.sqrt Format.binary64 (parts value)) := by
    cases same : parts value with
    | notANumber | infinity => rw [same] at inRange; exact absurd inRange id
    | zero => trivial
    | finite sign mantissa exponent positive =>
        rw [same] at notBelow
        cases sign with
        | negative => exact absurd trivial notBelow
        | positive =>
            have bounds := bounds_of_parts same
            exact inRange_sqrt bounds.1 bounds.2.2
  exact isFinite_pack root

/-! ## Whole numbers -/

theorem isFinite_mul_one {value : Float} (finite : value.isFinite = true) :
    (value * 1.0).isFinite = true := by
  have inRange := inRange_of_isFinite finite
  have product : InRange (UnpackedFloat.mul Format.binary64 (parts value) (parts 1.0)) := by
    rw [parts_one]
    cases same : parts value with
    | notANumber | infinity => rw [same] at inRange; exact absurd inRange id
    | zero => trivial
    | finite sign mantissa exponent positive =>
        have bounds := bounds_of_parts same
        simp only [UnpackedFloat.mul]
        exact inRange_mul_one (Nat.ne_of_gt positive) bounds.1 bounds.2.1 bounds.2.2
  exact isFinite_pack product

/-- The whole numbers that are exact are converted as machine words. -/
theorem ofNat_small {number : Nat} (small : number < 2 ^ 53) :
    Float.ofNat number = number.toUInt64.toFloat * 1.0 := by
  have fast : number < 2 ^ 53 ∧ 0 ≤ 22 := ⟨small, by decide⟩
  show Float.ofScientific number false 0 = _
  rw [Float.ofScientific, dif_pos fast]
  rfl

/-- Other whole numbers are rounded. -/
theorem ofNat_large {number : Nat} (large : ¬ number < 2 ^ 53) :
    Float.ofNat number = .ofModel (Float.Model.pack (roundWithAccuracy Format.binary64
      .positive (number * 2 ^ 53) (-(53 : Nat)) .exact)) := by
  have slow : ¬ (number < 2 ^ 53 ∧ 0 ≤ 22) := fun fast => large fast.1
  have nonzero : number ≠ 0 := by omega
  show Float.ofScientific number false 0 = _
  rw [Float.ofScientific, dif_neg slow]
  have rounded : UnpackedFloat.ofScientific Format.binary64 number 0 =
      roundWithAccuracy Format.binary64 .positive (number * 2 ^ 53) (-(53 : Nat)) .exact := by
    have scaled : number <<< Format.binary64.mantissaBits * 10 ^ (0 : Int).toNat =
        number * 2 ^ 53 := by
      rw [Nat.shiftLeft_eq]
      exact Nat.mul_one _
    have bits : (0 : Int) ≤ 2 ^ Format.binary64.exponentBits := by decide
    have notTiny :
        ¬ (0 : Int) < -((2 ^ Format.binary64.exponentBits : Int) + number.log2) := by omega
    unfold UnpackedFloat.ofScientific
    rw [dif_neg nonzero, if_neg (by decide), if_neg notTiny, if_pos (by decide)]
    simp only [UnpackedFloat.mul]
    rw [scaled]
    rfl
  show Float.ofModel (Float.Model.pack (UnpackedFloat.ofScientific Format.binary64 number 0)) = _
  rw [rounded]

theorem inRange_normalize {number : Int} (small : number.natAbs ≤ greatestDouble) :
    InRange (UnpackedFloat.normalize Format.binary64 number 0 .positive) := by
  unfold UnpackedFloat.normalize
  split
  next => exact inRange_round (by omega)
  next => trivial
  next => exact inRange_round (by omega)

theorem signOf_normalize {number : Int} (positive : 0 < number) :
    signOf (UnpackedFloat.normalize Format.binary64 number 0 .positive) = some .positive := by
  unfold UnpackedFloat.normalize UnpackedFloat.round
  rw [Int.compare_eq_gt.mpr positive]
  exact signOf_roundWithAccuracy _ _ _ _

theorem toNat_toUInt64_le (number : Nat) : number.toUInt64.toNat ≤ number := by
  show number % 2 ^ 64 ≤ number
  exact Nat.mod_le _ _

theorem signOf_mul_one (value : Float) :
    signOf (parts (value * 1.0)) = signOf (parts value) := by
  have product : parts (value * 1.0) = UnpackedFloat.unpack Format.binary64
      (UnpackedFloat.pack Format.binary64
        (UnpackedFloat.mul Format.binary64 (parts value) (parts 1.0))) := rfl
  rw [product, signOf_unpack_pack, parts_one]
  cases parts value with
  | notANumber => rfl
  | infinity sign | zero sign => cases sign <;> rfl
  | finite sign mantissa exponent positive =>
      simp only [UnpackedFloat.mul]
      rw [signOf_roundWithAccuracy]
      cases sign <;> rfl

theorem isFinite_ofNat {number : Nat} (small : number ≤ greatestDouble) :
    (Float.ofNat number).isFinite = true := by
  by_cases exact : number < 2 ^ 53
  · rw [ofNat_small exact]
    apply isFinite_mul_one
    have word : InRange (UnpackedFloat.ofUInt64 Format.binary64 number.toUInt64) :=
      inRange_normalize (Nat.le_trans (toNat_toUInt64_le number) small)
    exact isFinite_pack word
  · rw [ofNat_large exact]
    exact isFinite_pack (inRange_whole small 53)

theorem fitsFloat_of_natAbs_le {number : Int} (small : number.natAbs ≤ greatestDouble) :
    fitsFloat number = true := by
  cases number with
  | ofNat number => exact isFinite_ofNat small
  | negSucc number =>
      have positive := isFinite_ofNat small
      exact isFinite_neg positive

theorem signOf_ofNat {number : Nat} (positive : 0 < number) :
    signOf (parts (Float.ofNat number)) = some .positive := by
  by_cases exact : number < 2 ^ 53
  · have word : 0 < (number.toUInt64.toNat : Int) := by
      have same : number.toUInt64.toNat = number :=
        Nat.mod_eq_of_lt (Nat.lt_trans exact (by decide))
      omega
    rw [ofNat_small exact, signOf_mul_one]
    exact (signOf_unpack_pack _).trans (signOf_normalize word)
  · rw [ofNat_large exact]
    exact (signOf_unpack_pack _).trans (signOf_roundWithAccuracy _ _ _ _)

theorem not_reciprocal_lt_zero
    {value : Float}
    (positive : signOf (parts value) = some .positive) :
    ¬ 1.0 / value < 0.0 := by
  apply not_lt_zero_of_signOf
  have one : parts 1.0 = .finite .positive (2 ^ 52) (-52) (by decide) := rfl
  have quotient : parts (1.0 / value) = UnpackedFloat.unpack Format.binary64
      (UnpackedFloat.pack Format.binary64
        (UnpackedFloat.div Format.binary64 (parts 1.0) (parts value))) := rfl
  rw [quotient, signOf_unpack_pack, one]
  cases same : parts value with
  | notANumber => rw [same] at positive; cases positive
  | infinity sign | zero sign =>
      rw [same] at positive
      cases positive
      rfl
  | finite sign mantissa exponent nonzero =>
      rw [same] at positive
      cases positive
      simp only [UnpackedFloat.div]
      exact signOf_roundWithAccuracy _ _ _ _

/-! ## Infinities -/

theorem exists_infinity_of_isInf {value : Float} (infinite : value.isInf = true) :
    ∃ sign, parts value = .infinity sign := by
  have partsInfinite : (parts value).isInf = true := infinite
  cases same : parts value with
  | notANumber | zero | finite => rw [same] at partsInfinite; cases partsInfinite
  | infinity sign => exact ⟨sign, rfl⟩

/-- An infinity is equal to no finite number. -/
theorem beq_eq_false_of_isInf
    {value other : Float}
    (infinite : value.isInf = true)
    (finite : other.isFinite = true) :
    (value == other) = false := by
  obtain ⟨sign, ofValue⟩ := exists_infinity_of_isInf infinite
  have otherFinite : (parts other).isFinite = true := finite
  show (parts value).beq (parts other) = false
  rw [ofValue]
  cases same : parts other with
  | notANumber | infinity => rw [same] at otherFinite; cases otherFinite
  | zero | finite => cases sign <;> rfl

/-- The positive infinity is above zero. -/
theorem not_le_zero_of_isInf
    {value : Float}
    (infinite : value.isInf = true)
    (positive : signOf (parts value) = some .positive) :
    ¬ value ≤ 0.0 := by
  obtain ⟨sign, ofValue⟩ := exists_infinity_of_isInf infinite
  have compared : value ≤ 0.0 ↔ (parts value).le (parts 0.0) = true := decide_eq_true_iff
  rw [ofValue] at positive
  cases positive
  rw [compared, ofValue]
  exact Bool.false_ne_true

/-- A finite number divided by an infinite one is zero. -/
theorem parts_div_infinite
    {dividend divisor : Float}
    (finite : dividend.isFinite = true)
    (infinite : divisor.isInf = true) :
    ∃ sign, parts (dividend / divisor) = .zero sign := by
  have quotient : parts (dividend / divisor) = UnpackedFloat.unpack Format.binary64
      (UnpackedFloat.pack Format.binary64
        (UnpackedFloat.div Format.binary64 (parts dividend) (parts divisor))) := rfl
  have packed : ∀ sign, UnpackedFloat.unpack Format.binary64
      (UnpackedFloat.pack Format.binary64 (.zero sign)) = .zero sign := by
    intro sign
    cases sign <;> rfl
  obtain ⟨divisorSign, ofDivisor⟩ := exists_infinity_of_isInf infinite
  have dividendFinite : (parts dividend).isFinite = true := finite
  rw [quotient, ofDivisor]
  cases ofDividend : parts dividend with
  | notANumber | infinity => rw [ofDividend] at dividendFinite; cases dividendFinite
  | zero | finite => exact ⟨_, packed _⟩

/-! ## Nearest integers -/

/-- A finite double has fields. -/
theorem exists_ofFloat?_of_isFinite {value : Float} (finite : value.isFinite = true) :
    ∃ binary, Binary.ofFloat? value = some binary := by
  rw [Binary.ofFloat?_eq]
  have inRange := inRange_of_isFinite finite
  cases same : parts value with
  | notANumber | infinity => rw [same] at inRange; exact absurd inRange id
  | zero | finite => exact ⟨_, rfl⟩

theorem isFinite_of_ofFloat?
    {value : Float}
    {binary : Binary}
    (decoded : Binary.ofFloat? value = some binary) :
    value.isFinite = true := by
  show (parts value).isFinite = true
  rw [Binary.ofFloat?_eq] at decoded
  cases same : parts value with
  | notANumber | infinity => rw [same] at decoded; cases decoded
  | zero | finite => rfl

theorem nearestInt_zero {binary : Binary} (zero : binary.significand = 0) :
    binary.nearestInt = 0 := by
  have numerator : binary.numerator = 0 := by rw [Binary.numerator, zero, Nat.zero_mul]
  have denominator : 0 < binary.denominator := Nat.two_pow_pos _
  unfold Binary.nearestInt
  dsimp only
  rw [numerator, Nat.zero_div, Nat.zero_mod, Nat.mul_zero, if_pos denominator]
  unfold Binary.withSign
  split <;> rfl

theorem natAbs_withSign (binary : Binary) (magnitude : Nat) :
    (binary.withSign magnitude).natAbs = magnitude := by
  unfold Binary.withSign
  split
  · rw [Int.natAbs_neg, Int.natAbs_natCast]
  · rw [Int.natAbs_natCast]

/-- The integer nearest to a double does not exceed the largest double. -/
theorem natAbs_nearestInt_le
    {value : Float}
    {binary : Binary}
    (decoded : Binary.ofFloat? value = some binary) :
    binary.nearestInt.natAbs ≤ greatestDouble := by
  have bounds := Binary.bounds_of_ofFloat? decoded
  have significand : binary.significand ≤ 2 ^ 53 - 1 := Nat.le_pred_of_lt bounds.1
  unfold greatestExponent at bounds
  unfold Binary.nearestInt
  rw [natAbs_withSign]
  by_cases fractional : binary.exponent < 0
  · -- The unit is less than one, so the significand bounds the magnitude.
    have noPower : binary.exponent.toNat = 0 := by omega
    have numerator : binary.numerator = binary.significand := by
      rw [Binary.numerator, noPower, Nat.pow_eq, Nat.pow_zero, Nat.mul_one]
    have quotient : binary.numerator / binary.denominator ≤ 2 ^ 53 - 1 :=
      Nat.le_trans (Nat.div_le_self _ _) (numerator ▸ significand)
    have room : (2 ^ 53 - 1) * 2 ≤ greatestDouble := by
      rw [greatestDouble]
      apply Nat.mul_le_mul_left
      apply Nat.le_self_pow
      decide
    refine Nat.le_trans ?_ room
    split
    · omega
    · split <;> omega
  · -- The number is whole.
    have noFraction : (-binary.exponent).toNat = 0 := by omega
    have denominator : binary.denominator = 1 := by
      rw [Binary.denominator, noFraction, Nat.pow_eq, Nat.pow_zero]
    have numerator : binary.numerator ≤ greatestDouble := by
      rw [greatestDouble]
      apply Nat.mul_le_mul significand
      apply Nat.pow_le_pow_right (by decide)
      omega
    rw [denominator, Nat.mod_one, Nat.div_one]
    exact numerator

/-- The integer nearest to a finite double that is not below zero is not negative. -/
theorem nearestInt_nonneg
    {value : Float}
    {binary : Binary}
    (decoded : Binary.ofFloat? value = some binary)
    (notBelow : ¬ value < 0.0) :
    0 ≤ binary.nearestInt := by
  rw [Binary.ofFloat?_eq] at decoded
  rw [lt_zero_iff] at notBelow
  have unsigned {number : Binary} (positive : number.negative = false) :
      0 ≤ number.nearestInt := by
    unfold Binary.nearestInt Binary.withSign
    rw [positive]
    exact Int.natCast_nonneg _
  cases same : parts value with
  | notANumber | infinity =>
      rw [same] at decoded
      cases decoded
  | zero sign =>
      rw [same] at decoded
      cases decoded
      exact Int.le_of_eq (nearestInt_zero rfl).symm
  | finite sign mantissa exponent positive =>
      rw [same] at decoded notBelow
      cases decoded
      cases sign with
      | negative => exact absurd trivial notBelow
      | positive => exact unsigned rfl

end FormulaGrid
