import FormulaGrid.Proofs.Number.Exact
import FormulaGrid.Proofs.Number.Order

/-!
Contract: how far doubles are from each other.

Owns:
- parts that differ in nothing but their sign are packed into doubles that do (`abs_unpack_pack`);
- the distance of two doubles is the same from both sides (`abs_sub_comm`);
- a number exceeds no infinite distance (`not_exceeds_abs_of_isInf`).

The two differences of a pair are not each other's negative: of two equal numbers both are the
positive zero. They are once the sign is taken off.
-/

namespace FormulaGrid

open Float.Model Float.Model.UnpackedFloat

/-! ## Signs -/

/-- Without their sign packed components are those with a positive one. -/
theorem abs_unpack_packComponents
    (sign : Sign)
    (exponent : BitVec 11)
    (mantissa : BitVec 52) :
    (UnpackedFloat.unpack Format.binary64
      (packComponents Format.binary64 sign exponent mantissa)).abs =
        (UnpackedFloat.unpack Format.binary64
          (packComponents Format.binary64 .positive exponent mantissa)).abs := by
  unfold UnpackedFloat.unpack
  simp only [unpackMantissa_packComponents, unpackExponent_packComponents,
    unpackSign_packComponents]
  split
  · split <;> rfl
  · split
    · split <;> rfl
    · rfl

/-- A double has the magnitude of the parts that it was packed of. -/
theorem abs_unpack_pack (number : UnpackedFloat) :
    (UnpackedFloat.unpack Format.binary64 (UnpackedFloat.pack Format.binary64 number)).abs =
      (UnpackedFloat.unpack Format.binary64
        (UnpackedFloat.pack Format.binary64 number.abs)).abs := by
  cases number with
  | notANumber => rfl
  | infinity sign => cases sign <;> rfl
  | zero sign => cases sign <;> rfl
  | finite sign mantissa exponent positive =>
      have magnitude : (UnpackedFloat.finite sign mantissa exponent positive).abs =
          .finite .positive mantissa exponent positive := rfl
      rw [magnitude]
      simp only [UnpackedFloat.pack]
      split
      · rw [unpack_packedInfinity, unpack_packedInfinity]
        rfl
      · split <;> exact abs_unpack_packComponents _ _ _

theorem abs_roundWithAccuracy
    (sign : Sign)
    (mantissa : Nat)
    (exponent : Int)
    (accuracy : Accuracy) :
    (roundWithAccuracy Format.binary64 sign mantissa exponent accuracy).abs =
      (roundWithAccuracy Format.binary64 .positive mantissa exponent accuracy).abs := by
  unfold roundWithAccuracy
  dsimp only
  split <;> rfl

/-- A number and its negative have one magnitude when they are rounded. -/
theorem abs_normalize_neg (mantissa exponent : Int) :
    (UnpackedFloat.normalize Format.binary64 (-mantissa) exponent .positive).abs =
      (UnpackedFloat.normalize Format.binary64 mantissa exponent .positive).abs := by
  unfold UnpackedFloat.normalize UnpackedFloat.round
  rcases Int.lt_trichotomy mantissa 0 with negative | rfl | positive
  · rw [Int.compare_eq_lt.mpr negative, Int.compare_eq_gt.mpr (Int.neg_pos_of_neg negative)]
    exact (abs_roundWithAccuracy _ _ _ _).symm
  · rfl
  · rw [Int.compare_eq_gt.mpr positive, Int.compare_eq_lt.mpr (Int.neg_neg_of_pos positive),
      Int.neg_neg]
    exact abs_roundWithAccuracy _ _ _ _

theorem abs_parts_sub_comm (left right : UnpackedFloat) :
    (UnpackedFloat.sub Format.binary64 left right).abs =
      (UnpackedFloat.sub Format.binary64 right left).abs := by
  cases left with
  | notANumber => cases right <;> rfl
  | infinity sign =>
      cases right with
      | infinity other => cases sign <;> cases other <;> rfl
      | notANumber | zero | finite => rfl
  | zero sign =>
      cases right with
      | zero other => cases sign <;> cases other <;> rfl
      | notANumber | infinity | finite => rfl
  | finite sign mantissa exponent positive =>
      cases right with
      | notANumber | infinity | zero => rfl
      | finite otherSign otherMantissa otherExponent otherPositive =>
          simp only [UnpackedFloat.sub]
          rw [Int.min_comm otherExponent, ← Int.neg_sub, abs_normalize_neg]

/-! ## Distances -/

/-- The distance of two doubles is the same from both sides. -/
theorem abs_sub_comm (left right : Float) : (left - right).abs = (right - left).abs := by
  have packed (first second : Float) : parts (first - second) =
      UnpackedFloat.unpack Format.binary64 (UnpackedFloat.pack Format.binary64
        (UnpackedFloat.sub Format.binary64 (parts first) (parts second))) := rfl
  show Float.ofModel (Float.Model.pack (parts (left - right)).abs) =
    Float.ofModel (Float.Model.pack (parts (right - left)).abs)
  rw [packed, packed, abs_unpack_pack, abs_parts_sub_comm, ← abs_unpack_pack]

/-- A finite number exceeds no infinite distance. -/
theorem Number.not_exceeds_abs_of_isInf
    {number : Number}
    {units : Int}
    (count : number.units? = some units)
    {difference : Float}
    (infinite : difference.isInf = true) :
    number.exceeds difference.abs = false := by
  obtain ⟨sign, same⟩ := exists_infinity_of_isInf infinite
  have distance : parts difference.abs = .infinity .positive := by
    show UnpackedFloat.unpack Format.binary64
      (UnpackedFloat.pack Format.binary64 (parts difference).abs) = _
    rw [same]
    exact unpack_packedInfinity .positive
  rw [Bool.eq_false_iff, Ne, exceeds_iff count, isBelow_iff_of_none (by rw [distance]; rfl),
    distance]
  exact nofun

end FormulaGrid
