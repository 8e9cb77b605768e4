import FormulaGrid.Agreement
import FormulaGrid.Proofs.Number.Order

/-!
Contract: when a formula agrees with a number.

Owns:
- the tolerances that may be used (`Number.IsTolerance`); all exceed zero;
- agreement as a relation (`Agrees`), and its test (`verify_iff`);
- what a comparison finds (`check_of_value`, `check_of_fault`), and that it passes on the fault of
  a refused tolerance (`verify_of_refused`, `equivalent_of_refused`);
- what agrees still agrees under a larger tolerance (`Agrees.mono`).
-/

namespace FormulaGrid

namespace Number

/-- The number is finite as a double. -/
def IsFinite (number : Number) : Prop :=
  ∃ float : Float, number.toFloat? = some float ∧ float.isFinite = true

/-- The number is positive and finite. -/
def IsTolerance (tolerance : Number) : Prop :=
  tolerance.isPositive = true ∧ tolerance.IsFinite

theorem IsTolerance.of_atMost
    {tolerance wider : Number}
    (usable : tolerance.IsTolerance)
    (atMost : tolerance.AtMost wider)
    (finite : wider.IsFinite) :
    wider.IsTolerance :=
  ⟨isPositive_of_atMost atMost usable.1, finite⟩

/-- A finite number has a count. -/
theorem IsFinite.exists_units {number : Number} (finite : number.IsFinite) :
    ∃ units, number.units? = some units := by
  obtain ⟨float, converted, isFinite⟩ := finite
  cases number with
  | int value => exact ⟨_, rfl⟩
  | float value =>
      rw [← Option.some.inj converted] at isFinite
      have partsFinite : (parts value).isFinite = true := isFinite
      show ∃ units, unitsOf (parts value) = some units
      cases same : parts value with
      | notANumber | infinity => rw [same] at partsFinite; cases partsFinite
      | zero => exact ⟨_, rfl⟩
      | finite sign => cases sign <;> exact ⟨_, rfl⟩

/-- Of two finite doubles, the second of which is not smaller, the first is at most the
second. -/
theorem atMost_of_not_lt
    {left right : Float}
    (leftFinite : (Number.float left).IsFinite)
    (rightFinite : (Number.float right).IsFinite)
    (notSmaller : ¬ right < left) :
    (Number.float left).AtMost (.float right) := by
  obtain ⟨leftUnits, leftCount⟩ := leftFinite.exists_units
  obtain ⟨rightUnits, rightCount⟩ := rightFinite.exists_units
  rw [lt_iff_units rightCount leftCount] at notSmaller
  exact ⟨leftUnits, rightUnits, leftCount, rightCount, Int.not_lt.mp notSmaller⟩

/-- What is off by nothing is within every tolerance. -/
theorem IsTolerance.exceeds_zero {tolerance : Number} (usable : tolerance.IsTolerance) :
    tolerance.exceeds 0.0 = true := by
  obtain ⟨units, count⟩ := usable.2.exists_units
  have zero : unitsOf (parts 0.0) = some 0 := rfl
  rw [exceeds_iff count, isBelow_iff_of_some zero]
  exact (isPositive_iff count).mp usable.1

end Number

/-- These are the tolerances that may be used. -/
theorem requireTolerance_iff (tolerance : Number) :
    requireTolerance tolerance = .ok () ↔ tolerance.IsTolerance := by
  unfold requireTolerance Number.IsTolerance Number.IsFinite
  cases tolerance.isPositive with
  | false => simp
  | true =>
      cases tolerance with
      | int value =>
          cases fits : fitsFloat value with
          | false => simp [Number.toFloat?, fits]
          | true =>
              have finite : (Float.ofInt value).isFinite = true := fits
              simp [Number.toFloat?, fits, finite]
      | float value => cases finite : value.isFinite <;> simp [Number.toFloat?, finite]

theorem isTolerance_defaultTolerance : defaultTolerance.IsTolerance :=
  (requireTolerance_iff _).mp (by rfl)

/-- Other doubles are refused as arguments. -/
theorem requireTolerance_of_not_isTolerance
    {tolerance : Float}
    (unusable : ¬ (Number.float tolerance).IsTolerance) :
    requireTolerance (.float tolerance) = .error (.argument (.unfitTolerance (.float tolerance))) := by
  have refused := mt (requireTolerance_iff (.float tolerance)).mp unusable
  unfold requireTolerance at refused ⊢
  cases positive : (Number.float tolerance).isPositive with
  | false => rfl
  | true =>
      cases finite : tolerance.isFinite with
      | false => simp [finite]
      | true => simp [positive, finite] at refused

/-- The formula has a value that is off from the number by less than the tolerance. -/
def Agrees
    (functions : Elementary)
    (text : String)
    (expected : Float)
    (tolerance : Number) :
    Prop :=
  ∃ value : Float,
    evaluate functions text = .ok value ∧ tolerance.exceeds (value - expected).abs = true

/-- What agrees still agrees under a larger tolerance. -/
theorem Agrees.mono
    {functions : Elementary}
    {text : String}
    {expected : Float}
    {tolerance wider : Number}
    (agrees : Agrees functions text expected tolerance)
    (atMost : tolerance.AtMost wider) :
    Agrees functions text expected wider := by
  obtain ⟨value, evaluated, near⟩ := agrees
  exact ⟨value, evaluated, Number.exceeds_mono atMost near⟩

section

variable {functions : Elementary} {text : String} {expected tolerance : Number} {float : Float}

theorem check_of_value
    {value : Float}
    (usable : tolerance.IsTolerance)
    (converted : expected.toFloat? = some float)
    (evaluated : evaluate functions text = .ok value) :
    check functions text expected tolerance = .ok (.value value (value - float).abs) := by
  unfold check attempt distance
  rw [(requireTolerance_iff tolerance).mpr usable, evaluated, converted]
  rfl

theorem check_of_fault
    {cause : FormulaFault}
    (usable : tolerance.IsTolerance)
    (evaluated : evaluate functions text = .error (.formula cause)) :
    check functions text expected tolerance = .ok (.noValue cause) := by
  unfold check attempt
  rw [(requireTolerance_iff tolerance).mpr usable, evaluated]
  rfl

section

variable {fault : Fault} (refused : requireTolerance tolerance = .error fault)

include refused

/-- The tolerance is looked at before the formula. -/
theorem check_of_refused (text : String) (expected : Number) :
    check functions text expected tolerance = .error fault := by
  unfold check
  rw [refused]
  rfl

theorem verify_of_refused (text : String) (expected : Number) :
    verify functions text expected tolerance = .error fault := by
  unfold verify
  rw [check_of_refused refused]
  rfl

theorem equivalent_of_refused (first second : String) :
    equivalent functions first second tolerance = .error fault := by
  unfold equivalent
  rw [refused]
  rfl

end

/-- The test of agreement. It needs a tolerance that may be used. -/
theorem verify_iff (converted : expected.toFloat? = some float) :
    verify functions text expected tolerance = .ok true ↔
      tolerance.IsTolerance ∧ Agrees functions text float tolerance := by
  constructor
  · intro verified
    cases required : requireTolerance tolerance with
    | error fault =>
        rw [verify_of_refused required] at verified
        cases verified
    | ok =>
        have usable : tolerance.IsTolerance := (requireTolerance_iff tolerance).mp required
        refine ⟨usable, ?_⟩
        unfold verify at verified
        cases evaluated : evaluate functions text with
        | ok value =>
            rw [check_of_value usable converted evaluated] at verified
            exact ⟨value, evaluated, Except.ok.inj verified⟩
        | error fault =>
            cases fault with
            | formula cause =>
                rw [check_of_fault usable evaluated] at verified
                exact Bool.noConfusion (Except.ok.inj verified)
            | _ =>
                unfold check attempt at verified
                rw [required, evaluated] at verified
                cases verified
  · rintro ⟨usable, value, evaluated, near⟩
    unfold verify
    rw [check_of_value usable converted evaluated]
    exact congrArg Except.ok near

end

end FormulaGrid
