import FormulaGrid.Proofs.Number.Nearest

/-!
Contract: the shortest decimal of a double lies in the interval of the double.

Owns:
- the test of the interval is membership in it (`roundsFrom_iff`);
- the exponent of the leading digit is not too large (`ten_zpow_leadingExponent_le`);
- a grid of decimals that is finer than the interval has a point in it
  (`exists_gridPoint?`), and with 17 digits a grid is as fine as that;
- the shortest decimal rounds to the double (`rounds_shortest`).
-/

namespace FormulaGrid

/-! ## Leading digits -/

theorem lt_ten_pow_digitCount (value : Nat) : value < 10 ^ digitCount value :=
  (Nat.length_toDigits_le_iff (by decide) Nat.length_toDigits_pos).mp (Nat.le_refl _)

theorem ten_pow_digitCount_le {value : Nat} (positive : 0 < value) :
    10 ^ (digitCount value - 1) ≤ value := by
  have some : 0 < digitCount value := Nat.length_toDigits_pos
  by_contra less
  rcases Nat.eq_zero_or_pos (digitCount value - 1) with one | more
  · rw [one] at less
    omega
  · have shorter := (Nat.length_toDigits_le_iff (by decide) more).mpr (Nat.not_le.mp less)
    change digitCount value ≤ digitCount value - 1 at shorter
    omega

/-- A quotient is at least what its leading digit, were it one, stands for. -/
theorem ten_zpow_leadingExponent_le
    {numerator denominator : Nat}
    (numeratorPositive : 0 < numerator)
    (denominatorPositive : 0 < denominator) :
    (10 : ℚ) ^ leadingExponent numerator denominator ≤ numerator / denominator := by
  have divisor : (0 : ℚ) < denominator := Nat.cast_pos.mpr denominatorPositive
  unfold leadingExponent
  split
  next atLeastOne =>
    have positive : 0 < numerator / denominator := Nat.div_pos atLeastOne denominatorPositive
    have some : 0 < digitCount (numerator / denominator) := Nat.length_toDigits_pos
    have exponent : (digitCount (numerator / denominator) : Int) - 1 =
        (digitCount (numerator / denominator) - 1 : Nat) := by
      omega
    rw [exponent, zpow_natCast]
    calc
      (10 : ℚ) ^ (digitCount (numerator / denominator) - 1) ≤ (numerator / denominator : Nat) := by
        exact_mod_cast ten_pow_digitCount_le positive
      _ ≤ numerator / denominator := Nat.cast_div_le
  next belowOne =>
    -- As many places are needed as the divisor has more digits, or one more.
    have fits {places : Nat} (enough : denominator ≤ numerator * 10 ^ places) :
        (10 : ℚ) ^ (-(places : Int)) ≤ numerator / denominator := by
      rw [zpow_neg, zpow_natCast, le_div_iff₀ divisor, inv_mul_le_iff₀ (by positivity)]
      rw [mul_comm]
      exact_mod_cast enough
    dsimp only
    split
    next enough => exact fits enough
    next notEnough =>
      have some : 0 < digitCount numerator := Nat.length_toDigits_pos
      have oneMore : denominator ≤
          numerator * 10 ^ (digitCount denominator - digitCount numerator + 1) := by
        calc
          denominator ≤ 10 ^ digitCount denominator := (lt_ten_pow_digitCount denominator).le
          _ ≤ 10 ^ (digitCount numerator - 1) *
              10 ^ (digitCount denominator - digitCount numerator + 1) := by
            rw [← Nat.pow_add]
            exact Nat.pow_le_pow_right (by decide) (by omega)
          _ ≤ _ := Nat.mul_le_mul_right _ (ten_pow_digitCount_le numeratorPositive)
      have exponent : -((digitCount denominator - digitCount numerator : Nat) : Int) - 1 =
          -((digitCount denominator - digitCount numerator + 1 : Nat) : Int) := by
        omega
      rw [exponent]
      exact fits oneMore

namespace Binary

variable {number : Binary}

/-! ## The test of the interval -/

/-- What lies strictly between the ends belongs to the interval. -/
theorem rounds_of_between
    {value : ℚ}
    (low : (number.significand - number.quartersBelow / 4 : ℚ) * 2 ^ number.exponent < value)
    (high : value < (number.significand + 1 / 2) * 2 ^ number.exponent) :
    number.Rounds value :=
  ⟨low.le, high.le, fun _ => ⟨low, high⟩⟩

/-- The test of the interval multiplies all its sides by the same factor. -/
theorem roundsFrom_iff (positive : 0 < number.significand) (decimal : Decimal) :
    number.roundsFrom decimal = true ↔ number.Rounds decimal.value := by
  obtain ⟨factor, isFactor⟩ : ∃ factor : ℚ,
      factor = 4 * 10 ^ (-decimal.exponent).toNat * 2 ^ (-number.exponent).toNat := ⟨_, rfl⟩
  have factorPositive : 0 < factor := by rw [isFactor]; positivity
  have tens := zpow_mul_pow_neg (by norm_num : (10 : ℚ) ≠ 0) decimal.exponent
  have twos := zpow_mul_pow_neg (by norm_num : (2 : ℚ) ≠ 0) number.exponent
  have quarters : number.quartersBelow ≤ 4 * number.significand := by
    unfold quartersBelow
    split <;> omega
  have point : ((decimal.coefficient * Nat.pow 10 decimal.exponent.toNat *
      Nat.pow 2 (-number.exponent).toNat * 4 : Nat) : ℚ) = decimal.value * factor := by
    simp only [Nat.pow_eq, Decimal.value, isFactor]
    push_cast
    rw [← tens]
    ring
  have low : (((4 * number.significand - number.quartersBelow) *
      (Nat.pow 10 (-decimal.exponent).toNat * Nat.pow 2 number.exponent.toNat) : Nat) : ℚ) =
        (number.significand - number.quartersBelow / 4) * 2 ^ number.exponent * factor := by
    simp only [Nat.pow_eq, isFactor]
    rw [Nat.cast_mul, Nat.cast_sub quarters]
    push_cast
    rw [← twos]
    ring
  have high : (((4 * number.significand + 2) *
      (Nat.pow 10 (-decimal.exponent).toNat * Nat.pow 2 number.exponent.toNat) : Nat) : ℚ) =
        (number.significand + 1 / 2) * 2 ^ number.exponent * factor := by
    simp only [Nat.pow_eq, isFactor]
    push_cast
    rw [← twos]
    ring
  unfold roundsFrom
  dsimp only
  split
  next even =>
    rw [Bool.and_eq_true, decide_eq_true_eq, decide_eq_true_eq, ← Nat.cast_le (α := ℚ),
      ← Nat.cast_le (α := ℚ), point, low, high, mul_le_mul_iff_left₀ factorPositive,
      mul_le_mul_iff_left₀ factorPositive]
    have notOdd : number.significand % 2 ≠ 1 := by
      have zero := beq_iff_eq.mp even
      omega
    exact ⟨fun both => ⟨both.1, both.2, fun odd => absurd odd notOdd⟩,
      fun rounds => ⟨rounds.low, rounds.high⟩⟩
  next odd =>
    rw [Bool.and_eq_true, decide_eq_true_eq, decide_eq_true_eq, ← Nat.cast_lt (α := ℚ),
      ← Nat.cast_lt (α := ℚ), point, low, high, mul_lt_mul_iff_left₀ factorPositive,
      mul_lt_mul_iff_left₀ factorPositive]
    have isOdd : number.significand % 2 = 1 := by
      rw [beq_iff_eq] at odd
      omega
    exact ⟨fun both => rounds_of_between both.1 both.2, fun rounds => rounds.inside isOdd⟩

/-! ## The grids -/

/-- The point that a grid gives is in the interval. -/
theorem roundsFrom_of_gridPoint?
    {exponent : Int}
    {decimal : Decimal}
    (point : number.gridPoint? exponent = some decimal) :
    number.roundsFrom decimal = true := by
  unfold gridPoint? at point
  dsimp only at point
  split at point
  next below above =>
    split at point <;> cases point
    · exact below
    · exact above
  next below _ => cases point; exact below
  next _ above => cases point; exact above
  next => cases point

/-- The double lies between the two points of a grid beside it. -/
theorem between_gridPoints (number : Binary) (exponent : Int) :
    (⟨(number.inUnits exponent).1 / (number.inUnits exponent).2, exponent⟩ : Decimal).value ≤
        number.magnitude ∧
      number.magnitude <
        (⟨(number.inUnits exponent).1 / (number.inUnits exponent).2 + 1, exponent⟩ :
          Decimal).value := by
  have unit := zpow_pos (by norm_num : (0 : ℚ) < 10) exponent
  have divisorPositive : 0 < (number.inUnits exponent).2 :=
    Nat.mul_pos number.denominator_pos (Nat.pow_pos (by decide))
  have divisor : (0 : ℚ) < (number.inUnits exponent).2 := Nat.cast_pos.mpr divisorPositive
  have units : ((number.inUnits exponent).1 : ℚ) * 10 ^ exponent =
      number.magnitude * (number.inUnits exponent).2 := by
    simp only [inUnits, Nat.pow_eq]
    push_cast
    rw [numerator_eq, ← zpow_mul_pow_neg (by norm_num : (10 : ℚ) ≠ 0) exponent]
    ring
  have floor := Nat.div_mul_le_self (number.inUnits exponent).1 (number.inUnits exponent).2
  have ceiling := Nat.lt_div_mul_add divisorPositive (a := (number.inUnits exponent).1)
  generalize (number.inUnits exponent).1 = dividend at *
  generalize (number.inUnits exponent).2 = count at *
  generalize dividend / count = whole at *
  constructor
  · refine le_of_mul_le_mul_right ?_ divisor
    rw [← units, Decimal.value, mul_right_comm]
    exact mul_le_mul_of_nonneg_right (by exact_mod_cast floor) unit.le
  · refine lt_of_mul_lt_mul_right ?_ divisor.le
    rw [← units, Decimal.value, mul_right_comm]
    refine mul_lt_mul_of_pos_right ?_ unit
    push_cast
    rw [add_mul, one_mul]
    exact_mod_cast ceiling

/-- A grid that is finer than the interval has a point in it. -/
theorem exists_gridPoint?
    (positive : 0 < number.significand)
    {exponent : Int}
    (fine : (10 : ℚ) ^ exponent < (1 / 2 + number.quartersBelow / 4) * 2 ^ number.exponent) :
    ∃ decimal, number.gridPoint? exponent = some decimal := by
  obtain ⟨atMost, less⟩ := number.between_gridPoints exponent
  have quarters : (0 : ℚ) < number.quartersBelow / 4 := by
    unfold quartersBelow
    split <;> norm_num
  have unit := zpow_pos (by norm_num : (0 : ℚ) < 2) number.exponent
  unfold gridPoint?
  dsimp only
  split
  next => exact ⟨_, (apply_ite some _ _ _).symm⟩
  next => exact ⟨_, rfl⟩
  next => exact ⟨_, rfl⟩
  next notBelow notAbove =>
    -- Both points lie outside, one on either side, so they are far apart.
    exfalso
    rw [← Bool.not_eq_true, roundsFrom_iff positive] at notBelow notAbove
    generalize (number.inUnits exponent).1 / (number.inUnits exponent).2 = whole at *
    have low : (⟨whole, exponent⟩ : Decimal).value ≤
        (number.significand - number.quartersBelow / 4) * 2 ^ number.exponent := by
      by_contra inside
      exact notBelow (rounds_of_between (not_le.mp inside) (lt_of_le_of_lt atMost
        (mul_lt_mul_of_pos_right (by linarith) unit)))
    have high : (number.significand + 1 / 2) * 2 ^ number.exponent ≤
        (⟨whole + 1, exponent⟩ : Decimal).value := by
      by_contra inside
      exact notAbove (rounds_of_between (lt_of_lt_of_le
        (mul_lt_mul_of_pos_right (by linarith) unit) less.le) (not_le.mp inside))
    have step : (⟨whole + 1, exponent⟩ : Decimal).value =
        (⟨whole, exponent⟩ : Decimal).value + 10 ^ exponent := by
      simp only [Decimal.value]
      push_cast
      ring
    rw [step] at high
    linarith

/-- The grid of the last digit is finer than the interval. -/
theorem lastGrid_fine
    (positive : 0 < number.significand)
    (short : number.significand < 2 ^ 53) :
    (10 : ℚ) ^ (leadingExponent number.numerator number.denominator - (16 : Nat)) <
      (1 / 2 + number.quartersBelow / 4) * 2 ^ number.exponent := by
  have unit := zpow_pos (by norm_num : (0 : ℚ) < 2) number.exponent
  have numeratorPositive : 0 < number.numerator :=
    Nat.mul_pos positive (Nat.two_pow_pos _)
  have leading := ten_zpow_leadingExponent_le numeratorPositive number.denominator_pos
  have divisor : (number.denominator : ℚ) ≠ 0 := Nat.cast_ne_zero.mpr number.denominator_pos.ne'
  rw [numerator_eq, mul_div_cancel_right₀ _ divisor] at leading
  have digits : (number.significand : ℚ) < (1 / 2 + number.quartersBelow / 4) * 10 ^ 16 := by
    unfold quartersBelow
    split
    next power =>
      have same : number.significand = 2 ^ 52 :=
        beq_iff_eq.mp (Bool.and_eq_true_iff.mp power).1
      rw [same]
      norm_num
    next =>
      have cast : (number.significand : ℚ) < 2 ^ 53 := by exact_mod_cast short
      refine cast.trans ?_
      norm_num
  calc
    (10 : ℚ) ^ (leadingExponent number.numerator number.denominator - (16 : Nat)) =
        10 ^ leadingExponent number.numerator number.denominator / 10 ^ 16 := by
      rw [zpow_sub₀ (by norm_num), zpow_natCast]
    _ ≤ number.magnitude / 10 ^ 16 := div_le_div_of_nonneg_right leading (by positivity)
    _ = number.significand / 10 ^ 16 * 2 ^ number.exponent := by
      rw [magnitude]
      ring
    _ < _ := mul_lt_mul_of_pos_right ((div_lt_iff₀ (by positivity)).mpr digits) unit

/-- The shortest decimal of a double rounds to it. -/
theorem rounds_shortest
    (positive : 0 < number.significand)
    (short : number.significand < 2 ^ 53) :
    number.Rounds number.shortest.value := by
  have nonzero : ¬ (number.significand == 0) = true := by
    rw [beq_iff_eq]
    exact positive.ne'
  rw [← roundsFrom_iff positive]
  unfold shortest
  rw [if_neg nonzero]
  dsimp only
  generalize listed : (List.range enoughDigits).map (fun further : Nat =>
    leadingExponent number.numerator number.denominator - (further : Int)) = grids
  cases found : grids.findSome? number.gridPoint? with
  | some decimal =>
      obtain ⟨exponent, -, point⟩ := List.exists_of_findSome?_eq_some found
      exact roundsFrom_of_gridPoint? point
  | none =>
      have last :
          leadingExponent number.numerator number.denominator - ((16 : Nat) : Int) ∈ grids := by
        rw [← listed]
        exact List.mem_map_of_mem (List.mem_range.mpr (by decide))
      obtain ⟨decimal, point⟩ := exists_gridPoint? positive (lastGrid_fine positive short)
      rw [List.findSome?_eq_none_iff.mp found _ last] at point
      cases point

end Binary

end FormulaGrid
