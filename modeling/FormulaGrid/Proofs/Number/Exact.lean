import FormulaGrid.Proofs.Number.Finite
import FormulaGrid.Proofs.Number.Nearest

/-!
Contract: operations whose exact result rounds to a known double give this double.

Owns:
- doubles and their parts determine each other (`ofModel_pack_parts`,
  `parts_pack_of_canonical`);
- products and quotients that round to a double (`mul_of_rounds`, `div_of_rounds`);
- to add zero, to multiply by one and to divide by one leaves a double as it is, and it is at
  no distance from itself (`add_zero_eq`, `mul_one_eq`, `div_one_eq`, `abs_sub_self_eq`).

Does not own: the values of decimals.
-/

namespace FormulaGrid

open Float.Model Float.Model.UnpackedFloat

/-! ## Doubles and their parts -/

/-- A double is what its parts are packed to. -/
theorem ofModel_pack_parts (value : Float) :
    Float.ofModel (Float.Model.pack (parts value)) = value := by
  obtain ⟨⟨bits, valid⟩⟩ := value
  have packed : UnpackedFloat.pack Format.binary64
      (UnpackedFloat.unpack Format.binary64 bits.toBitVec) = bits.toBitVec :=
    pack_unpack_of_valid valid
  show Float.ofModel ⟨UInt64.ofBitVec (UnpackedFloat.pack Format.binary64
    (UnpackedFloat.unpack Format.binary64 bits.toBitVec)), _⟩ = _
  simp only [packed]

/-- Doubles with the same parts are the same. -/
theorem eq_of_parts_eq {left right : Float} (same : parts left = parts right) : left = right := by
  rw [← ofModel_pack_parts left, same, ofModel_pack_parts]

/-- The parts of a double that is made of canonical parts. -/
theorem parts_pack_of_canonical
    {sign : Sign}
    {mantissa : Nat}
    {exponent : Int}
    {positive : 0 < mantissa}
    (canonical : IsCanonical mantissa exponent)
    (inRange : exponent ≤ greatestExponent) :
    parts (Float.ofModel (Float.Model.pack (.finite sign mantissa exponent positive))) =
      .finite sign mantissa exponent positive := by
  obtain ⟨short, least, long⟩ := canonical
  have places : (unitPlaces : Int) = 1074 := rfl
  unfold greatestExponent at inRange
  show UnpackedFloat.unpack Format.binary64 (UnpackedFloat.pack Format.binary64
    (.finite sign mantissa exponent positive)) = _
  have bias : (Format.binary64.exponentBias : Int) = 1023 := rfl
  have bits : Format.binary64.mantissaBits = 53 := rfl
  simp only [UnpackedFloat.pack, bias, bits]
  have fits : ¬ 2 ^ 11 ≤ (exponent + 1023 + (52 : Nat)).toNat + 1 := by omega
  rw [if_neg fits]
  by_cases full : 2 ^ 52 ≤ mantissa
  · -- A normal double: the hidden bit is dropped and put back.
    have log : mantissa.log2 + 1 = 53 := by
      have atLeast := (Nat.le_log2 positive.ne').mpr full
      have atMost := (Nat.log2_lt positive.ne').mpr short
      omega
    have field : (BitVec.ofNat 11 (exponent + 1023 + (52 : Nat)).toNat).toNat =
        (exponent + 1075).toNat := by
      rw [BitVec.toNat_ofNat, Nat.mod_eq_of_lt (by omega)]
      congr 1
      omega
    have nonzero : BitVec.ofNat 11 (exponent + 1023 + (52 : Nat)).toNat ≠ 0#11 := by
      intro zero
      rw [zero] at field
      have none : (0#11).toNat = 0 := rfl
      omega
    have hidden : (1#1 ++ BitVec.ofNat 52 mantissa).toNat = mantissa := by
      rw [toNat_implicit_append, BitVec.toNat_ofNat]
      have power : Nat.pow 2 52 = 2 ^ 52 := rfl
      omega
    rw [if_pos log]
    unfold UnpackedFloat.unpack
    simp only [unpackMantissa_packComponents, unpackExponent_packComponents,
      unpackSign_packComponents, Sign.ofBitVec_toBitVec, ofNat_ne_allOnes fits, nonzero, if_false,
      field, hidden, bias]
    congr 1
    omega
  · have log : ¬ mantissa.log2 + 1 = 53 := by
      have atMost := (Nat.log2_lt positive.ne').mpr (Nat.not_le.mp full)
      omega
    have lowest : exponent = -1074 := by
      by_contra other
      exact full (long (by omega))
    have field : (BitVec.ofNat 52 mantissa).toNat = mantissa := by
      rw [BitVec.toNat_ofNat, Nat.mod_eq_of_lt (Nat.not_le.mp full)]
    have nonzero : BitVec.ofNat 52 mantissa ≠ 0#52 := by
      intro zero
      rw [zero] at field
      exact positive.ne field
    have notAllOnes : (0#11 : BitVec 11) ≠ -1#11 := by decide
    rw [if_neg log]
    unfold UnpackedFloat.unpack
    simp only [unpackMantissa_packComponents, unpackExponent_packComponents,
      unpackSign_packComponents, Sign.ofBitVec_toBitVec, notAllOnes, nonzero, if_false, if_true,
      field, bias]
    simp only [not_false_eq_true, dif_neg]
    congr 1
    rw [lowest]
    rfl

/-! ## Products and quotients -/

section

variable {number : Binary} {first second : Sign} {left right : Nat} {lower upper : Int}
  {leftPositive : 0 < left} {rightPositive : 0 < right}

/-- A product that lies in the interval of a double. -/
theorem mul_of_rounds
    (canonical : IsCanonical number.significand number.exponent)
    (positive : 0 < number.significand)
    (long : 2 ^ 52 ≤ left * right)
    (rounds : number.Rounds ((left * 2 ^ lower) * (right * 2 ^ upper))) :
    UnpackedFloat.mul Format.binary64 (.finite first left lower leftPositive)
        (.finite second right upper rightPositive) =
      .finite (first * second) number.significand number.exponent positive := by
  have bits : 52 ≤ (left * right).log2 :=
    (Nat.le_log2 (Nat.mul_pos leftPositive rightPositive).ne').mpr long
  have product : ((left * right : Nat) : ℚ) * 2 ^ (lower + upper) =
      (left * 2 ^ lower) * (right * 2 ^ upper) := by
    rw [zpow_add₀ (by norm_num)]
    push_cast
    ring
  rw [← product] at rounds
  exact roundWithAccuracy_of_rounds canonical positive (holds_exact _) rounds (by omega) _

/-- The quotient of two numbers has as many bits as they differ by, or one less. -/
theorem log2_div_ge (dividend : Nat) {divisor : Nat} (nonzero : divisor ≠ 0) :
    dividend.log2 ≤ (dividend / divisor).log2 + 1 + divisor.log2 := by
  by_cases few : dividend.log2 ≤ divisor.log2
  · omega
  · have dividendNonzero : dividend ≠ 0 := by
      intro zero
      rw [zero] at few
      exact few (Nat.zero_le _)
    have power : 2 ^ (dividend.log2 - divisor.log2 - 1) ≤ dividend / divisor := by
      rw [Nat.le_div_iff_mul_le (Nat.pos_of_ne_zero nonzero)]
      calc
        2 ^ (dividend.log2 - divisor.log2 - 1) * divisor
            ≤ 2 ^ (dividend.log2 - divisor.log2 - 1) * 2 ^ (divisor.log2 + 1) :=
          Nat.mul_le_mul_left _ (Nat.le_of_lt Nat.lt_log2_self)
        _ = 2 ^ dividend.log2 := by
          rw [← Nat.pow_add]
          congr 1
          omega
        _ ≤ dividend := Nat.log2_self_le dividendNonzero
    have quotientNonzero : dividend / divisor ≠ 0 :=
      (Nat.lt_of_lt_of_le (Nat.two_pow_pos _) power).ne'
    have bits := (Nat.le_log2 quotientNonzero).mpr power
    omega

/-- A quotient that lies in the interval of a double. -/
theorem div_of_rounds
    (canonical : IsCanonical number.significand number.exponent)
    (positive : 0 < number.significand)
    (rounds : number.Rounds ((left * 2 ^ lower) / (right * 2 ^ upper))) :
    UnpackedFloat.div Format.binary64 (.finite first left lower leftPositive)
        (.finite second right upper rightPositive) =
      .finite (first / second) number.significand number.exponent positive := by
  have leastExponent : Binary.leastExponent = -1074 := rfl
  have target (total : Int) :
      Format.binary64.targetExponent total = max (total - 53) Binary.leastExponent := rfl
  simp only [UnpackedFloat.div, divCore, target, totalExponent]
  generalize unitEq : min (lower - upper)
    (max ((left.log2 : Int) + 1 + lower - (right.log2 + 1 + upper) - 53) Binary.leastExponent) =
      unit
  obtain ⟨shift, shifted⟩ : ∃ shift : Nat, lower - upper = shift + unit :=
    ⟨(lower - upper - unit).toNat, by omega⟩
  have places : (lower - upper - unit).toNat = shift := by omega
  rw [places, Nat.shiftLeft_eq]
  have bits := log2_div_ge (left * 2 ^ shift) rightPositive.ne'
  rw [log2_mul_two_pow leftPositive.ne'] at bits
  have rightNonzero : (right : ℚ) ≠ 0 := Nat.cast_ne_zero.mpr rightPositive.ne'
  have quotient : ((left * 2 ^ shift / right : Nat) +
      ((left * 2 ^ shift % right : Nat) : ℚ) / right) * 2 ^ unit =
        (left * 2 ^ lower) / (right * 2 ^ upper) := by
    have whole : ((left * 2 ^ shift : Nat) : ℚ) =
        right * (left * 2 ^ shift / right : Nat) + (left * 2 ^ shift % right : Nat) := by
      exact_mod_cast (Nat.div_add_mod _ _).symm
    have exponents : (2 : ℚ) ^ lower = 2 ^ shift * 2 ^ unit * 2 ^ upper := by
      have sum : lower = shift + unit + upper := by omega
      rw [sum, zpow_add₀ (by norm_num), zpow_add₀ (by norm_num), zpow_natCast]
    have upperNonzero := (two_zpow_pos upper).ne'
    push_cast at whole
    rw [exponents]
    field_simp
    rw [whole]
    ring
  rw [← quotient] at rounds
  exact roundWithAccuracy_of_rounds canonical positive
    (holds_fraction _ (Nat.mod_lt _ rightPositive)) rounds (by omega) _

end

/-! ## Operations that leave a double as it is -/

section

variable {value : Float} (finite : value.isFinite = true)

include finite

/-- To add zero leaves a double as it is, but for the negative zero. -/
theorem add_zero_eq (notNegativeZero : parts value ≠ .zero .negative) : value + 0.0 = value := by
  have inRange := inRange_of_isFinite finite
  show Float.ofModel (Float.Model.pack
    (UnpackedFloat.add Format.binary64 (parts value) (.zero .positive))) = value
  refine Eq.trans ?_ (ofModel_pack_parts value)
  cases same : parts value with
  | notANumber | infinity => rw [same] at inRange; exact absurd inRange id
  | zero sign =>
      cases sign with
      | positive => rfl
      | negative => exact absurd same notNegativeZero
  | finite sign mantissa exponent positive => rfl

theorem mul_one_eq : value * 1.0 = value := by
  have inRange := inRange_of_isFinite finite
  show Float.ofModel (Float.Model.pack
    (UnpackedFloat.mul Format.binary64 (parts value) (parts 1.0))) = value
  rw [parts_one]
  refine Eq.trans ?_ (ofModel_pack_parts value)
  cases same : parts value with
  | notANumber | infinity => rw [same] at inRange; exact absurd inRange id
  | zero sign => cases sign <;> rfl
  | finite sign mantissa exponent positive =>
      let number : Binary := ⟨sign == .negative, mantissa, exponent⟩
      have long : 2 ^ 52 ≤ mantissa * 2 ^ 52 := Nat.le_mul_of_pos_left _ positive
      have rounds :
          number.Rounds ((mantissa * 2 ^ exponent) * ((2 ^ 52 : Nat) * 2 ^ (-52 : Int))) := by
        have one : ((2 ^ 52 : Nat) : ℚ) * 2 ^ (-52 : Int) = 1 := by norm_num
        rw [one, mul_one]
        exact number.rounds_magnitude
      rw [mul_of_rounds (isCanonical_of_parts same) positive long rounds]
      cases sign <;> rfl

theorem div_one_eq : value / 1.0 = value := by
  have inRange := inRange_of_isFinite finite
  show Float.ofModel (Float.Model.pack
    (UnpackedFloat.div Format.binary64 (parts value) (parts 1.0))) = value
  rw [parts_one]
  refine Eq.trans ?_ (ofModel_pack_parts value)
  cases same : parts value with
  | notANumber | infinity => rw [same] at inRange; exact absurd inRange id
  | zero sign => cases sign <;> rfl
  | finite sign mantissa exponent positive =>
      let number : Binary := ⟨sign == .negative, mantissa, exponent⟩
      have rounds :
          number.Rounds ((mantissa * 2 ^ exponent) / ((2 ^ 52 : Nat) * 2 ^ (-52 : Int))) := by
        have one : ((2 ^ 52 : Nat) : ℚ) * 2 ^ (-52 : Int) = 1 := by norm_num
        rw [one, div_one]
        exact number.rounds_magnitude
      rw [div_of_rounds (isCanonical_of_parts same) positive rounds]
      cases sign <;> rfl

/-- A double is at no distance from itself. -/
theorem abs_sub_self_eq : (value - value).abs = 0.0 := by
  have inRange := inRange_of_isFinite finite
  have none : parts (value - value) = .zero .positive := by
    show UnpackedFloat.unpack Format.binary64 (UnpackedFloat.pack Format.binary64
      (UnpackedFloat.sub Format.binary64 (parts value) (parts value))) = _
    cases same : parts value with
    | notANumber | infinity => rw [same] at inRange; exact absurd inRange id
    | zero sign => cases sign <;> rfl
    | finite sign mantissa exponent positive =>
        have cancel : UnpackedFloat.sub Format.binary64 (.finite sign mantissa exponent positive)
            (.finite sign mantissa exponent positive) = .zero .positive := by
          simp [UnpackedFloat.sub, UnpackedFloat.normalize]
        rw [cancel]
        rfl
  show Float.ofModel (Float.Model.pack (parts (value - value)).abs) = 0.0
  rw [none]
  rfl

end

end FormulaGrid
