import FormulaGrid.Number.Binary
import Mathlib

/-!
Contract: what a double keeps of the number it was made of.

Owns:
- the parts of a double (`parts`), the sign of parts (`signOf`), and the finite parts
  that are in the range of doubles (`InRange`);
- a double has the sign of the parts it was packed of, and is finite if they are in
  range;
- the parts of a finite double are in range, and the decoding of its bits
  (`Binary.ofFloat?`) has them.

The parts are those of the logical model of doubles; nothing here rounds.
-/

namespace FormulaGrid

open Float.Model Float.Model.UnpackedFloat

/-- The parts of a double. -/
def parts (value : Float) : UnpackedFloat :=
  value.toModel.unpack

/-- The exponent of the largest doubles. -/
def greatestExponent : Int := 971

/-- The sign of parts; not-a-number has none. -/
def signOf : UnpackedFloat → Option Sign
  | .notANumber => none
  | .infinity sign | .zero sign | .finite sign _ _ _ => some sign

/-- Finite parts that a double can have. -/
def InRange : UnpackedFloat → Prop
  | .zero _ => True
  | .finite _ _ exponent _ => exponent ≤ greatestExponent
  | .infinity _ | .notANumber => False

/-- Packed components whose exponent is not that of infinity are finite. -/
theorem unpack_packComponents
    (sign : Sign)
    (exponent : BitVec 11)
    (mantissa : BitVec 52)
    (small : exponent ≠ -1#11) :
    (UnpackedFloat.unpack Format.binary64
      (packComponents Format.binary64 sign exponent mantissa)).isFinite = true ∧
      signOf (UnpackedFloat.unpack Format.binary64
        (packComponents Format.binary64 sign exponent mantissa)) = some sign := by
  unfold UnpackedFloat.unpack
  simp only [unpackMantissa_packComponents, unpackExponent_packComponents,
    unpackSign_packComponents, Sign.ofBitVec_toBitVec, small, if_false]
  split
  · split <;> exact ⟨rfl, rfl⟩
  · exact ⟨rfl, rfl⟩

theorem ofNat_ne_allOnes {field : Nat} (small : ¬ 2 ^ 11 ≤ field + 1) :
    BitVec.ofNat 11 field ≠ -1#11 := by
  intro same
  have fields := congrArg BitVec.toNat same
  rw [BitVec.toNat_ofNat, Nat.mod_eq_of_lt (by omega)] at fields
  have allOnes : (-1#11).toNat = 2047 := rfl
  omega

theorem unpack_packedInfinity (sign : Sign) :
    UnpackedFloat.unpack Format.binary64 (packedInfinity Format.binary64 sign) =
      .infinity sign := by
  cases sign <;> rfl

/-- A double made of the parts has their sign. -/
theorem signOf_unpack_pack (number : UnpackedFloat) :
    signOf (UnpackedFloat.unpack Format.binary64 (UnpackedFloat.pack Format.binary64 number)) =
      signOf number := by
  cases number with
  | notANumber => rfl
  | infinity sign => rw [UnpackedFloat.pack, unpack_packedInfinity]
  | zero sign => exact (unpack_packComponents sign 0 0 (by decide)).2
  | finite sign mantissa exponent positive =>
      simp only [UnpackedFloat.pack]
      split
      next => rw [unpack_packedInfinity]; rfl
      next fits =>
        split
        · exact (unpack_packComponents sign _ _ (ofNat_ne_allOnes fits)).2
        · exact (unpack_packComponents sign 0 _ (by decide)).2

theorem isFinite_unpack_pack
    {number : UnpackedFloat}
    (inRange : InRange number) :
    (UnpackedFloat.unpack Format.binary64
      (UnpackedFloat.pack Format.binary64 number)).isFinite = true := by
  cases number with
  | notANumber | infinity => exact absurd inRange id
  | zero sign => exact (unpack_packComponents sign 0 0 (by decide)).1
  | finite sign mantissa exponent positive =>
      simp only [UnpackedFloat.pack]
      split
      next overflows =>
        simp [Format.exponentBias] at overflows
        unfold InRange greatestExponent at inRange
        omega
      next fits =>
        split
        · exact (unpack_packComponents sign _ _ (ofNat_ne_allOnes fits)).1
        · exact (unpack_packComponents sign 0 _ (by decide)).1

/-- Finite parts beyond the range are packed as an infinity. -/
theorem unpack_pack_of_overflow
    (sign : Sign)
    {mantissa : Nat}
    {exponent : Int}
    (positive : 0 < mantissa)
    (overflows : greatestExponent < exponent) :
    UnpackedFloat.unpack Format.binary64
        (UnpackedFloat.pack Format.binary64 (.finite sign mantissa exponent positive)) =
      .infinity sign := by
  have beyond : 2 ^ 11 ≤ (exponent + 1023 + 52).toNat + 1 := by
    unfold greatestExponent at overflows
    omega
  rw [UnpackedFloat.pack]
  exact (congrArg _ (if_pos beyond)).trans (unpack_packedInfinity sign)

theorem fields_of_bits (bits : BitVec 64) :
    (@unpackExponent Format.binary64 bits).toNat = bits.toNat / 2 ^ 52 % 2 ^ 11 ∧
      (@unpackMantissa Format.binary64 bits).toNat = bits.toNat % 2 ^ 52 ∧
      (@unpackSign Format.binary64 bits).toNat = bits.toNat / 2 ^ 63 % 2 := by
  refine ⟨?_, ?_, ?_⟩
  · simp [unpackExponent, BitVec.extractLsb_toNat, Nat.shiftRight_eq_div_pow]
  · simp [unpackMantissa, BitVec.extractLsb_toNat]
  · simp [unpackSign, BitVec.extractLsb_toNat, Nat.shiftRight_eq_div_pow]

/-- The parts that the decoding of a finite double gives. -/
def Binary.ofParts? : UnpackedFloat → Option Binary
  | .zero sign => some ⟨sign == .negative, 0, Binary.leastExponent⟩
  | .finite sign mantissa exponent _ => some ⟨sign == .negative, mantissa, exponent⟩
  | .infinity _ | .notANumber => none

/-- The hidden bit stands in front of the mantissa of a normal double. -/
theorem toNat_implicit_append (mantissa : BitVec 52) :
    (1#1 ++ mantissa).toNat = Nat.pow 2 52 + mantissa.toNat := by
  rw [BitVec.toNat_append, ← Nat.shiftLeft_add_eq_or_of_lt mantissa.isLt, Nat.shiftLeft_eq]
  rfl

/-- The sign bit of a pattern says whether its number is negative. -/
theorem negative_of_bits (bits : BitVec 64) :
    (bits.toNat / 2 ^ 63 == 1) =
      (Sign.ofBitVec (@unpackSign Format.binary64 bits) == .negative) := by
  have field := (fields_of_bits bits).2.2
  have bound := bits.isLt
  generalize @unpackSign Format.binary64 bits = sign at field
  have cases : sign = 0#1 ∨ sign = 1#1 := by
    have small := sign.isLt
    rcases Nat.lt_or_ge sign.toNat 1 with zero | one
    · exact .inl (BitVec.eq_of_toNat_eq (by simpa using zero))
    · exact .inr (BitVec.eq_of_toNat_eq (by simp; omega))
  rcases cases with rfl | rfl
  · have zero : bits.toNat / 2 ^ 63 = 0 := by
      rw [BitVec.toNat_ofNat] at field
      omega
    rw [zero]
    rfl
  · have one : bits.toNat / 2 ^ 63 = 1 := by
      rw [BitVec.toNat_ofNat] at field
      omega
    rw [one]
    rfl

/-- The decoding of a double has its parts. -/
theorem Binary.ofFloat?_eq (value : Float) :
    Binary.ofFloat? value = Binary.ofParts? (parts value) := by
  obtain ⟨exponent, mantissa, -⟩ := fields_of_bits value.toBits.toBitVec
  have negative := negative_of_bits value.toBits.toBitVec
  have field : value.toBits.toNat / hiddenBit % Nat.pow 2 11 = _ := exponent.symm
  have fraction : value.toBits.toNat % hiddenBit = _ := mantissa.symm
  have sign : (value.toBits.toNat / Nat.pow 2 63 == 1) = _ := negative
  show Binary.ofFloat? value =
    Binary.ofParts? (UnpackedFloat.unpack Format.binary64 value.toBits.toBitVec)
  unfold Binary.ofFloat? UnpackedFloat.unpack
  simp only [field, fraction, sign]
  have allOnes (bits : BitVec 11) : bits.toNat = 2047 ↔ bits = -1#11 :=
    ⟨fun same => BitVec.eq_of_toNat_eq same, fun same => same ▸ rfl⟩
  have allZeros (bits : BitVec 11) : bits.toNat = 0 ↔ bits = 0#11 :=
    ⟨fun same => BitVec.eq_of_toNat_eq same, fun same => same ▸ rfl⟩
  simp only [beq_iff_eq, allOnes, allZeros]
  split
  next infinite => split <;> rfl
  next finite =>
    split
    next subnormal =>
      split
      next nothing =>
        rw [nothing]
        rfl
      next something =>
        rw [subnormal]
        rfl
    next normal =>
      have positive := mt (allZeros _).mp normal
      have bias : Format.binary64.exponentBias = 1023 := rfl
      rw [Binary.ofParts?, toNat_implicit_append, bias, hiddenBit, leastExponent]
      congr 2
      omega

/-- The significand of a double has at most 53 bits, and its exponent is in range. -/
theorem Binary.bounds_of_ofFloat?
    {value : Float}
    {binary : Binary}
    (decoded : Binary.ofFloat? value = some binary) :
    binary.significand < 2 ^ 53 ∧
      Binary.leastExponent ≤ binary.exponent ∧ binary.exponent ≤ greatestExponent := by
  unfold Binary.ofFloat? at decoded
  have hidden : hiddenBit = 2 ^ 52 := rfl
  have least : leastExponent = -1074 := rfl
  have fields : Nat.pow 2 11 = 2048 := rfl
  have fraction : value.toBits.toNat % hiddenBit < hiddenBit :=
    Nat.mod_lt _ (by rw [hidden]; decide)
  have field : value.toBits.toNat / hiddenBit % Nat.pow 2 11 < 2048 :=
    Nat.mod_lt _ (by decide)
  simp only [beq_iff_eq] at decoded
  unfold greatestExponent
  split at decoded
  next => cases decoded
  next finite =>
    split at decoded
    next =>
      cases decoded
      dsimp only
      rw [least]
      omega
    next normal =>
      cases decoded
      dsimp only
      rw [least]
      omega

/-- Only the smallest doubles lack the hidden bit. -/
theorem Binary.hiddenBit_le_of_ofFloat?
    {value : Float}
    {binary : Binary}
    (decoded : Binary.ofFloat? value = some binary)
    (notLeast : Binary.leastExponent < binary.exponent) :
    2 ^ 52 ≤ binary.significand := by
  unfold Binary.ofFloat? at decoded
  dsimp only at decoded
  split at decoded
  next => cases decoded
  next =>
    split at decoded
    next =>
      cases decoded
      exact absurd notLeast (Int.lt_irrefl _)
    next =>
      cases decoded
      exact Nat.le_add_right _ _

theorem bounds_of_parts
    {value : Float}
    {sign : Sign}
    {mantissa : Nat}
    {exponent : Int}
    {positive : 0 < mantissa}
    (same : parts value = .finite sign mantissa exponent positive) :
    mantissa < 2 ^ 53 ∧ Binary.leastExponent ≤ exponent ∧ exponent ≤ greatestExponent := by
  have decoded := Binary.ofFloat?_eq value
  rw [same] at decoded
  exact Binary.bounds_of_ofFloat? decoded

theorem normal_of_parts
    {value : Float}
    {sign : Sign}
    {mantissa : Nat}
    {exponent : Int}
    {positive : 0 < mantissa}
    (same : parts value = .finite sign mantissa exponent positive)
    (notLeast : Binary.leastExponent < exponent) :
    2 ^ 52 ≤ mantissa := by
  have decoded := Binary.ofFloat?_eq value
  rw [same] at decoded
  exact Binary.hiddenBit_le_of_ofFloat? decoded notLeast

end FormulaGrid
