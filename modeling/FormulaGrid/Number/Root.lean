/-!
Contract: the whole square root of a natural number.

`wholeRoot n` is the greatest number whose square is at most `n`. It is found by
halving the digits: the root of a quarter of `n` gives all bits but the last.
-/

namespace FormulaGrid

/-- The greatest number whose square does not exceed the argument. -/
def wholeRoot (value : Nat) : Nat :=
  if value < 2 then
    value
  else
    let doubled := 2 * wholeRoot (value / 4)
    if (doubled + 1) * (doubled + 1) ≤ value then doubled + 1 else doubled
termination_by value
decreasing_by omega

private theorem double_mul_double (number : Nat) :
    2 * number * (2 * number) = 4 * (number * number) := by
  rw [Nat.mul_mul_mul_comm]

/-- The square of the root is at most the number, and that of its successor is
greater. -/
theorem wholeRoot_bounds (value : Nat) :
    wholeRoot value * wholeRoot value ≤ value ∧
      value < (wholeRoot value + 1) * (wholeRoot value + 1) := by
  induction value using Nat.strongRecOn with
  | ind value inductionHypothesis =>
      rw [wholeRoot]
      split
      next small =>
          match value, small with
          | 0, _ => decide
          | 1, _ => decide
      next large =>
          have bounds := inductionHypothesis (value / 4) (by omega)
          have square := double_mul_double (wholeRoot (value / 4))
          have above := double_mul_double (wholeRoot (value / 4) + 1)
          rw [show 2 * (wholeRoot (value / 4) + 1) = 2 * wholeRoot (value / 4) + 1 + 1 by omega]
            at above
          dsimp only
          split
          · omega
          · omega

end FormulaGrid
