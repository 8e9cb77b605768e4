import FormulaGrid.Number.Basic
import FormulaGrid.Proofs.Number.Packing

/-!
Contract: doubles and integers are compared as the numbers that they stand for.

Owns:
- finite numbers counted in the smallest unit of doubles (`unitsOf`, `Number.units?`);
- two doubles compare as their counts (`compare_parts`), and so do a double and an
  integer (`Binary.compareInt_eq_lt_iff`);
- the order of finite numbers (`Number.AtMost`), and what lies below a number lies below
  every larger one (`exceeds_mono`).

The comparison of doubles is lexicographic, the exponent before the mantissa. It agrees
with the counts because all but the smallest doubles have a mantissa of full length.
-/

namespace FormulaGrid

open Float.Model Float.Model.UnpackedFloat

/-- The smallest double is one over two to this power. -/
def unitPlaces : Nat := 1074

/-- A mantissa at an exponent, counted in the smallest unit. -/
def magnitudeUnits (mantissa : Nat) (exponent : Int) : Nat :=
  mantissa * 2 ^ (exponent + unitPlaces).toNat

/-- A finite double, counted in the smallest unit. -/
def unitsOf : UnpackedFloat → Option Int
  | .zero _ => some 0
  | .finite .positive mantissa exponent _ => some (magnitudeUnits mantissa exponent)
  | .finite .negative mantissa exponent _ => some (-(magnitudeUnits mantissa exponent : Int))
  | .infinity _ | .notANumber => none

/-- The mantissa is short, and as long as can be unless the exponent is the least. -/
def IsCanonical (mantissa : Nat) (exponent : Int) : Prop :=
  mantissa < 2 ^ 53 ∧ -unitPlaces ≤ exponent ∧ (-unitPlaces < exponent → 2 ^ 52 ≤ mantissa)

theorem isCanonical_of_parts
    {value : Float}
    {sign : Sign}
    {mantissa : Nat}
    {exponent : Int}
    {positive : 0 < mantissa}
    (same : parts value = .finite sign mantissa exponent positive) :
    IsCanonical mantissa exponent :=
  ⟨(bounds_of_parts same).1, (bounds_of_parts same).2.1, normal_of_parts same⟩

/-- The larger exponent makes the larger magnitude. -/
theorem magnitudeUnits_lt
    {left right : Nat}
    {lower upper : Int}
    (leftCanonical : IsCanonical left lower)
    (rightCanonical : IsCanonical right upper)
    (less : lower < upper) :
    magnitudeUnits left lower < magnitudeUnits right upper := by
  obtain ⟨short, least, -⟩ := leftCanonical
  obtain ⟨-, -, long⟩ := rightCanonical
  have full : 2 ^ 52 ≤ right := long (Int.lt_of_le_of_lt least less)
  have places : (lower + unitPlaces).toNat + 1 ≤ (upper + unitPlaces).toNat := by omega
  unfold magnitudeUnits
  calc
    left * 2 ^ (lower + unitPlaces).toNat < 2 ^ 53 * 2 ^ (lower + unitPlaces).toNat :=
      Nat.mul_lt_mul_of_pos_right short (Nat.two_pow_pos _)
    _ = 2 ^ 52 * 2 ^ ((lower + unitPlaces).toNat + 1) := by
      rw [← Nat.pow_add, ← Nat.pow_add]
      congr 1
      omega
    _ ≤ right * 2 ^ (upper + unitPlaces).toNat :=
      Nat.mul_le_mul full (Nat.pow_le_pow_right (by decide) places)

/-- The lexicographic comparison is that of the magnitudes. -/
theorem compare_magnitudeUnits
    {left right : Nat}
    {lower upper : Int}
    (leftCanonical : IsCanonical left lower)
    (rightCanonical : IsCanonical right upper) :
    (compare lower upper).then (compare left right) =
      compare (magnitudeUnits left lower) (magnitudeUnits right upper) := by
  rcases Int.lt_trichotomy lower upper with less | rfl | greater
  · rw [Int.compare_eq_lt.mpr less,
      Nat.compare_eq_lt.mpr (magnitudeUnits_lt leftCanonical rightCanonical less)]
    rfl
  · have unit : 0 < 2 ^ (lower + unitPlaces).toNat := Nat.two_pow_pos _
    rw [Int.compare_eq_eq.mpr rfl]
    show compare left right = compare (left * _) (right * _)
    rcases Nat.lt_trichotomy left right with less | rfl | greater
    · rw [Nat.compare_eq_lt.mpr less,
        Nat.compare_eq_lt.mpr (Nat.mul_lt_mul_of_pos_right less unit)]
    · rw [Nat.compare_eq_eq.mpr rfl, Nat.compare_eq_eq.mpr rfl]
    · rw [Nat.compare_eq_gt.mpr greater,
        Nat.compare_eq_gt.mpr (Nat.mul_lt_mul_of_pos_right greater unit)]
  · rw [Int.compare_eq_gt.mpr greater,
      Nat.compare_eq_gt.mpr (magnitudeUnits_lt rightCanonical leftCanonical greater)]
    rfl

theorem magnitudeUnits_pos {mantissa : Nat} (positive : 0 < mantissa) (exponent : Int) :
    0 < magnitudeUnits mantissa exponent :=
  Nat.mul_pos positive (Nat.two_pow_pos _)

theorem compare_neg (left right : Int) : compare (-left) (-right) = (compare left right).swap := by
  rcases Int.lt_trichotomy left right with less | rfl | greater
  · rw [Int.compare_eq_lt.mpr less, Int.compare_eq_gt.mpr (Int.neg_lt_neg less)]
    rfl
  · rw [Int.compare_eq_eq.mpr rfl, Int.compare_eq_eq.mpr rfl]
    rfl
  · rw [Int.compare_eq_gt.mpr greater, Int.compare_eq_lt.mpr (Int.neg_lt_neg greater)]
    rfl

theorem compare_natCast (left right : Nat) :
    compare (left : Int) (right : Int) = compare left right := by
  rcases Nat.lt_trichotomy left right with less | rfl | greater
  · rw [Nat.compare_eq_lt.mpr less, Int.compare_eq_lt.mpr (Int.ofNat_lt.mpr less)]
  · rw [Nat.compare_eq_eq.mpr rfl, Int.compare_eq_eq.mpr rfl]
  · rw [Nat.compare_eq_gt.mpr greater, Int.compare_eq_gt.mpr (Int.ofNat_lt.mpr greater)]

/-- Finite doubles compare as their counts. -/
theorem compare_parts
    {left right : Float}
    {leftUnits rightUnits : Int}
    (leftCount : unitsOf (parts left) = some leftUnits)
    (rightCount : unitsOf (parts right) = some rightUnits) :
    (parts left).compare (parts right) = some (compare leftUnits rightUnits) := by
  cases leftParts : parts left with
  | notANumber | infinity => rw [leftParts] at leftCount; cases leftCount
  | zero leftSign =>
      rw [leftParts] at leftCount
      cases leftCount
      cases rightParts : parts right with
      | notANumber | infinity => rw [rightParts] at rightCount; cases rightCount
      | zero => rw [rightParts] at rightCount; cases rightCount; rfl
      | finite rightSign mantissa exponent positive =>
          have units := magnitudeUnits_pos positive exponent
          rw [rightParts] at rightCount
          cases rightSign with
          | positive =>
              cases rightCount
              rw [Int.compare_eq_lt.mpr (Int.natCast_pos.mpr units)]
              rfl
          | negative =>
              cases rightCount
              rw [Int.compare_eq_gt.mpr (Int.neg_neg_of_pos (Int.natCast_pos.mpr units))]
              rfl
  | finite leftSign mantissa exponent positive =>
      have leftCanonical := isCanonical_of_parts leftParts
      have units := magnitudeUnits_pos positive exponent
      rw [leftParts] at leftCount
      cases rightParts : parts right with
      | notANumber | infinity => rw [rightParts] at rightCount; cases rightCount
      | zero =>
          rw [rightParts] at rightCount
          cases rightCount
          cases leftSign with
          | positive =>
              cases leftCount
              rw [Int.compare_eq_gt.mpr (Int.natCast_pos.mpr units)]
              rfl
          | negative =>
              cases leftCount
              rw [Int.compare_eq_lt.mpr (Int.neg_neg_of_pos (Int.natCast_pos.mpr units))]
              rfl
      | finite rightSign rightMantissa rightExponent rightPositive =>
          have rightCanonical := isCanonical_of_parts rightParts
          have same := compare_magnitudeUnits leftCanonical rightCanonical
          have rightPositiveUnits := magnitudeUnits_pos rightPositive rightExponent
          rw [rightParts] at rightCount
          cases leftSign with
          | positive =>
              cases leftCount
              cases rightSign with
              | positive => cases rightCount; rw [compare_natCast, ← same]; rfl
              | negative => cases rightCount; rw [Int.compare_eq_gt.mpr (by omega)]; rfl
          | negative =>
              cases leftCount
              cases rightSign with
              | positive => cases rightCount; rw [Int.compare_eq_lt.mpr (by omega)]; rfl
              | negative =>
                  cases rightCount
                  rw [compare_neg, compare_natCast, ← same]
                  rfl

theorem lt_iff_units
    {left right : Float}
    {leftUnits rightUnits : Int}
    (leftCount : unitsOf (parts left) = some leftUnits)
    (rightCount : unitsOf (parts right) = some rightUnits) :
    left < right ↔ leftUnits < rightUnits := by
  have compared : left < right ↔ (parts left).lt (parts right) = true := decide_eq_true_iff
  rw [compared, UnpackedFloat.lt, compare_parts leftCount rightCount, beq_iff_eq,
    Option.some_inj, Int.compare_eq_lt]

/-- Finite doubles are equal if their counts are. Both zeros count for nothing. -/
theorem beq_iff_units
    {left right : Float}
    {leftUnits rightUnits : Int}
    (leftCount : unitsOf (parts left) = some leftUnits)
    (rightCount : unitsOf (parts right) = some rightUnits) :
    (left == right) = true ↔ leftUnits = rightUnits := by
  have compared : (left == right) = (parts left).beq (parts right) := rfl
  rw [compared, UnpackedFloat.beq, compare_parts leftCount rightCount, beq_iff_eq,
    Option.some_inj, Int.compare_eq_eq]

/-- The parts lie below a count: they are the infinity that is negative, or have a
smaller count. -/
def IsBelow (number : UnpackedFloat) (limit : Int) : Prop :=
  number = .infinity .negative ∨ ∃ units : Int, unitsOf number = some units ∧ units < limit

theorem isBelow_iff_of_some
    {number : UnpackedFloat}
    {units : Int}
    (count : unitsOf number = some units)
    (limit : Int) :
    IsBelow number limit ↔ units < limit := by
  constructor
  · rintro (rfl | ⟨others, counted, less⟩)
    · cases count
    · rw [count] at counted
      cases counted
      exact less
  · intro less
    exact .inr ⟨units, count, less⟩

/-- Parts without a count lie below all counts or below none. -/
theorem isBelow_iff_of_none
    {number : UnpackedFloat}
    (noCount : unitsOf number = none)
    (limit : Int) :
    IsBelow number limit ↔ number = .infinity .negative := by
  constructor
  · rintro (infinite | ⟨units, counted, -⟩)
    · exact infinite
    · rw [noCount] at counted
      cases counted
  · exact .inl

/-- A double is below a finite one if its parts lie below the count of that. -/
theorem lt_iff_isBelow
    {limit : Float}
    {units : Int}
    (count : unitsOf (parts limit) = some units)
    (value : Float) :
    value < limit ↔ IsBelow (parts value) units := by
  cases valueCount : unitsOf (parts value) with
  | some valueUnits => rw [isBelow_iff_of_some valueCount, lt_iff_units valueCount count]
  | none =>
      have compared : value < limit ↔ (parts value).lt (parts limit) = true :=
        decide_eq_true_iff
      rw [isBelow_iff_of_none valueCount, compared]
      cases valueParts : parts value with
      | zero => rw [valueParts] at valueCount; cases valueCount
      | finite sign => rw [valueParts] at valueCount; cases sign <;> cases valueCount
      | notANumber => simp [UnpackedFloat.lt, UnpackedFloat.compare]
      | infinity sign =>
          cases limitParts : parts limit with
          | notANumber | infinity => rw [limitParts] at count; cases count
          | zero | finite =>
              cases sign <;> simp [UnpackedFloat.lt, UnpackedFloat.compare]

/-! ## Integers -/

namespace Binary

/-- A decoded double, counted in the smallest unit. -/
def units (binary : Binary) : Int :=
  binary.withSign (magnitudeUnits binary.significand binary.exponent)

/-- The decoding of a double keeps its count. -/
theorem unitsOf_eq_units
    {number : UnpackedFloat}
    {binary : Binary}
    (decoded : ofParts? number = some binary) :
    unitsOf number = some binary.units := by
  cases number with
  | notANumber | infinity => cases decoded
  | zero sign =>
      cases decoded
      cases sign <;> simp [unitsOf, units, withSign, magnitudeUnits]
  | finite sign mantissa exponent positive =>
      cases decoded
      cases sign <;> rfl

theorem withSign_mul (binary : Binary) (magnitude factor : Nat) :
    binary.withSign (magnitude * factor) = binary.withSign magnitude * factor := by
  unfold withSign
  split
  · rw [Int.natCast_mul, Int.neg_mul]
  · exact Int.natCast_mul _ _

/-- A decoded double is below an integer if its count is below that of the integer. -/
theorem compareInt_eq_lt_iff
    {binary : Binary}
    (integer : Int)
    (least : leastExponent ≤ binary.exponent) :
    binary.compareInt integer = .lt ↔ binary.units < integer * (2 ^ unitPlaces : Nat) := by
  have bound : -unitPlaces ≤ binary.exponent := least
  -- The unit is the denominator divided by this factor.
  have factorPos : 0 < 2 ^ (unitPlaces - (-binary.exponent).toNat) := Nat.two_pow_pos _
  generalize factorSame : 2 ^ (unitPlaces - (-binary.exponent).toNat) = factor at factorPos
  have magnitude : magnitudeUnits binary.significand binary.exponent =
      binary.numerator * factor := by
    have places : (binary.exponent + unitPlaces).toNat =
        binary.exponent.toNat + (unitPlaces - (-binary.exponent).toNat) := by omega
    rw [magnitudeUnits, places, Nat.pow_add, factorSame, ← Nat.mul_assoc]
    rfl
  have unit : 2 ^ unitPlaces = binary.denominator * factor := by
    have places : unitPlaces =
        (-binary.exponent).toNat + (unitPlaces - (-binary.exponent).toNat) := by omega
    rw [places, Nat.pow_add, factorSame]
    rfl
  have positive : (0 : Int) < factor := Int.natCast_pos.mpr factorPos
  unfold compareInt units
  rw [Int.compare_eq_lt, magnitude, withSign_mul, unit, Int.natCast_mul, ← Int.mul_assoc]
  exact (Int.mul_lt_mul_right positive).symm

end Binary

namespace Number

/-- A finite number, counted in the smallest unit of doubles. -/
def units? : Number → Option Int
  | .int value => some (value * (2 ^ unitPlaces : Nat))
  | .float value => unitsOf (parts value)

/-- Both numbers are finite, and the first is not larger than the second. -/
def AtMost (left right : Number) : Prop :=
  ∃ leftUnits rightUnits : Int,
    left.units? = some leftUnits ∧ right.units? = some rightUnits ∧ leftUnits ≤ rightUnits

/-- A number exceeds the doubles whose parts lie below its count. -/
theorem exceeds_iff
    {number : Number}
    {units : Int}
    (count : number.units? = some units)
    (value : Float) :
    number.exceeds value = true ↔ IsBelow (parts value) units := by
  cases number with
  | float limit => exact decide_eq_true_iff.trans (lt_iff_isBelow count value)
  | int limit =>
      cases count
      unfold exceeds
      dsimp only
      cases decoded : Binary.ofFloat? value with
      | some binary =>
          have least := (Binary.bounds_of_ofFloat? decoded).2.1
          rw [Binary.ofFloat?_eq] at decoded
          rw [isBelow_iff_of_some (Binary.unitsOf_eq_units decoded)]
          exact beq_iff_eq.trans (Binary.compareInt_eq_lt_iff limit least)
      | none =>
          have zero : unitsOf (parts 0) = some 0 := rfl
          rw [Binary.ofFloat?_eq] at decoded
          have noCount : unitsOf (parts value) = none := by
            cases valueParts : parts value with
            | notANumber | infinity => rfl
            | zero | finite => rw [valueParts] at decoded; cases decoded
          have below := lt_iff_isBelow zero value
          rw [isBelow_iff_of_none noCount] at below ⊢
          exact decide_eq_true_iff.trans below

/-- What lies below a number lies below every larger one. -/
theorem exceeds_mono
    {left right : Number}
    {value : Float}
    (atMost : left.AtMost right)
    (below : left.exceeds value = true) :
    right.exceeds value = true := by
  obtain ⟨leftUnits, rightUnits, leftCount, rightCount, ordered⟩ := atMost
  rw [exceeds_iff leftCount] at below
  rw [exceeds_iff rightCount]
  exact below.imp_right fun ⟨units, counted, less⟩ =>
    ⟨units, counted, Int.lt_of_lt_of_le less ordered⟩

theorem isPositive_iff
    {number : Number}
    {units : Int}
    (count : number.units? = some units) :
    number.isPositive = true ↔ 0 < units := by
  cases number with
  | int value =>
      have unit : (0 : Int) < (2 ^ unitPlaces : Nat) := Int.natCast_pos.mpr (Nat.two_pow_pos _)
      cases count
      have scaled : 0 < value ↔ 0 < value * (2 ^ unitPlaces : Nat) := by
        rw [← Int.zero_mul (2 ^ unitPlaces : Nat), Int.mul_lt_mul_right unit, Int.zero_mul]
      exact decide_eq_true_iff.trans scaled
  | float value =>
      have zero : unitsOf (parts 0) = some 0 := rfl
      exact decide_eq_true_iff.trans (lt_iff_units zero count)

theorem isPositive_of_atMost
    {left right : Number}
    (atMost : left.AtMost right)
    (positive : left.isPositive = true) :
    right.isPositive = true := by
  obtain ⟨leftUnits, rightUnits, leftCount, rightCount, ordered⟩ := atMost
  rw [isPositive_iff leftCount] at positive
  rw [isPositive_iff rightCount]
  exact Int.lt_of_lt_of_le positive ordered

end Number

end FormulaGrid
