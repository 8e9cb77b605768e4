import FormulaGrid.Fault

/-!
Contract: the passage between doubles and integers, where it can fail.

Owns:
- the double nearest to an integer (`floatOfInteger`);
- the integer nearest to a double (`nearestInteger`) and the fault of a double
  that has none (`notFiniteFault`).
-/

namespace FormulaGrid

/-- The double nearest to an integer; an integer may be too large to have one. -/
def floatOfInteger (value : Int) : Except Fault Float :=
  if fitsFloat value then
    .ok (Float.ofInt value)
  else
    .error (.range .integerBeyondFloat)

/-- The fault of a double that is not finite and was to become an integer. -/
def notFiniteFault (value : Float) : Fault :=
  if value.isNaN then .argument .notANumber else .range .infinityToInteger

/-- The integer nearest to a double; halfway between two it is the even one. -/
def nearestInteger (value : Float) : Except Fault Int :=
  match Binary.ofFloat? value with
  | some binary => .ok binary.nearestInt
  | none => .error (notFiniteFault value)

end FormulaGrid
