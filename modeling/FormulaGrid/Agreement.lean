import FormulaGrid.Formula.Evaluation

/-!
Contract: agreement of a formula with a number, and of two formulas.

Owns:
- the tolerances that may be used (`requireTolerance`);
- the comparison of a formula with an expected number (`check`, `verify`), which
  records why a formula has no value;
- the comparison of two formulas (`equivalent`).

A formula agrees with a number when its value is off by less than the tolerance;
a difference as large as the tolerance does not agree.
-/

namespace FormulaGrid

/-- The tolerance that is used when none is given. -/
def defaultTolerance : Number :=
  .float 1e-4

/-- A tolerance must be positive and finite. -/
def requireTolerance (tolerance : Number) : Except Fault Unit :=
  if tolerance.isPositive then
    match tolerance with
    | .int value =>
        if fitsFloat value then .ok () else .error (.range .integerBeyondFloat)
    | .float value =>
        if value.isFinite then .ok () else .error (.argument (.unfitTolerance tolerance))
  else
    .error (Fault.argument (.unfitTolerance tolerance)).reported

/-- The outcome of comparing a formula with an expected number. A formula without
a value has a cause; one with a value has its distance from the number. -/
inductive Verdict where
  | noValue (cause : FormulaFault)
  | value (value distance : Float)

namespace Verdict

/-- The formula has a value that is off by less than the tolerance. -/
def passed (tolerance : Number) : Verdict → Bool
  | noValue _ => false
  | value _ distance => tolerance.exceeds distance

end Verdict

/-- How far a value is from a number. -/
def distance (value : Float) (expected : Number) : Except Fault Float :=
  match expected.toFloat? with
  | some float => .ok (value - float).abs
  | none => .error (.range .integerBeyondFloat)

/-- Compare a formula with an expected number. -/
def check
    (functions : Elementary)
    (text : String)
    (expected tolerance : Number) :
    Except Fault Verdict := do
  requireTolerance tolerance
  match ← attempt functions text with
  | .error cause => return .noValue cause
  | .ok value => return .value value (← distance value expected)

/-- The formula agrees with the expected number. -/
def verify
    (functions : Elementary)
    (text : String)
    (expected tolerance : Number) :
    Except Fault Bool :=
  (check functions text expected tolerance).map (Verdict.passed tolerance)

/-- Both formulas have values, and these agree. The second formula is looked at
only if the first has a value. -/
def equivalent
    (functions : Elementary)
    (first second : String)
    (tolerance : Number) :
    Except Fault Bool := do
  requireTolerance tolerance
  match ← attempt functions first with
  | .error _ => return false
  | .ok left =>
      match ← attempt functions second with
      | .error _ => return false
      | .ok right => return tolerance.exceeds (left - right).abs

end FormulaGrid
