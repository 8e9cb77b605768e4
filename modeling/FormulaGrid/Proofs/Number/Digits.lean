import FormulaGrid.Text.DecimalDigit
import Mathlib.Algebra.Group.Nat.Defs
import Mathlib.Data.List.Induction

/-!
Contract: the numbers that runs of digits denote.

Owns:
- the number behind and in front of which one more digit stands
  (`valueOfDigits_concat`, `valueOfDigits_cons`);
- digits below the base denote less than a power of it (`valueOfDigits_lt`), and no less
  than their leading digit does (`pow_le_valueOfDigits`).
-/

namespace FormulaGrid

open Text

/-- One more digit behind a run makes room for it and adds it. -/
theorem valueOfDigits_concat (base : Nat) (digits : List Nat) (last : Nat) :
    valueOfDigits base (digits ++ [last]) = valueOfDigits base digits * base + last := by
  unfold valueOfDigits
  rw [List.foldl_append]
  rfl

/-- A digit in front of a run counts as often as the run has places. -/
theorem valueOfDigits_cons (base first : Nat) (others : List Nat) :
    valueOfDigits base (first :: others) =
      first * base ^ others.length + valueOfDigits base others := by
  induction others using List.reverseRecOn with
  | nil => simp [valueOfDigits]
  | append_singleton others last inductionHypothesis =>
      rw [← List.cons_append, valueOfDigits_concat, inductionHypothesis,
        valueOfDigits_concat, List.length_append, List.length_singleton, Nat.pow_succ,
        Nat.add_mul, Nat.mul_assoc, Nat.add_assoc]

/-- Digits denote less than the power of the base that their number gives. -/
theorem valueOfDigits_lt
    {base : Nat}
    (digits : List Nat)
    (small : ∀ digit ∈ digits, digit < base) :
    valueOfDigits base digits < base ^ digits.length := by
  induction digits using List.reverseRecOn with
  | nil => exact Nat.one_pos
  | append_singleton digits last inductionHypothesis =>
      have lastSmall : last < base := small last (by simp)
      have front : valueOfDigits base digits < base ^ digits.length :=
        inductionHypothesis fun digit member => small digit (List.mem_append_left _ member)
      rw [valueOfDigits_concat, List.length_append, List.length_singleton, Nat.pow_succ]
      calc
        valueOfDigits base digits * base + last < (valueOfDigits base digits + 1) * base := by
          rw [Nat.add_mul, Nat.one_mul]
          exact Nat.add_lt_add_left lastSmall _
        _ ≤ base ^ digits.length * base := Nat.mul_le_mul_right base front

/-- Zeros in front do not count. -/
theorem valueOfDigits_dropWhile (base : Nat) (digits : List Nat) :
    valueOfDigits base (digits.dropWhile (· == 0)) = valueOfDigits base digits := by
  induction digits with
  | nil => rfl
  | cons first others inductionHypothesis =>
      rw [List.dropWhile_cons]
      split
      next zero =>
        rw [inductionHypothesis, valueOfDigits_cons, beq_iff_eq.mp zero, Nat.zero_mul, Nat.zero_add]
      next => rfl

/-- A run of digits denotes as much as its leading digit, other than zero, does at least. -/
theorem pow_le_valueOfDigits
    {base : Nat}
    {digits : List Nat}
    (nonzero : valueOfDigits base digits ≠ 0) :
    0 < (digits.dropWhile (· == 0)).length ∧
      base ^ ((digits.dropWhile (· == 0)).length - 1) ≤ valueOfDigits base digits := by
  have head := List.head?_dropWhile_not (· == 0) digits
  rw [← valueOfDigits_dropWhile] at nonzero ⊢
  cases same : digits.dropWhile (· == 0) with
  | nil => rw [same] at nonzero; exact absurd rfl nonzero
  | cons first others =>
      rw [same] at head
      have positive : 1 ≤ first := Nat.pos_of_ne_zero (by simpa using head)
      rw [valueOfDigits_cons, List.length_cons, Nat.add_sub_cancel]
      exact ⟨Nat.succ_pos _,
        Nat.le_trans (Nat.le_mul_of_pos_left _ positive) (Nat.le_add_right _ _)⟩

end FormulaGrid
