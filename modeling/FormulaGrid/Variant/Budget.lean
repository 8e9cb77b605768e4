import FormulaGrid.Variant.Family

/-!
Contract: the budget of attempts that a search draws on.

Owns:
- the budget (`Budget`) and its spending, one attempt at a time (`Budget.spend_eq_ok_iff`,
  `Budget.spend_eq_error_iff`);
- the run of steps on a budget (`harvest`), which may break off after a number of
  candidates.

A spent budget pays for nothing further and stays as it is.
-/

namespace FormulaGrid.Variant

/-- Attempts that may be made for a target, those already made, and how many of
the requested notations have been found. -/
structure Budget where
  limit : Int
  target : Number
  requested : Int
  spent : Nat
  produced : Int

namespace Budget

/-- A budget of which nothing is spent. -/
def fresh (limit : Int) (target : Number) (requested : Int) (produced : Int := 0) : Budget :=
  ⟨limit, target, requested, 0, produced⟩

/-- The fault of asking a spent budget for more. -/
def exhaustion (budget : Budget) : Fault :=
  (Fault.search
    (.exhausted budget.limit budget.target budget.produced budget.requested)).reported

/-- Pay for one attempt. -/
def spend (budget : Budget) : Except Fault Budget :=
  if budget.limit ≤ (budget.spent : Int) then
    .error budget.exhaustion
  else
    .ok { budget with spent := budget.spent + 1 }

theorem spend_eq_ok_iff {budget paid : Budget} :
    budget.spend = .ok paid ↔
      (budget.spent : Int) < budget.limit ∧ { budget with spent := budget.spent + 1 } = paid := by
  unfold spend
  split
  next spentUp => exact iff_of_false nofun fun left => absurd left.1 (Int.not_lt.mpr spentUp)
  next notSpentUp => rw [Except.ok.injEq, and_iff_right (Int.not_le.mp notSpentUp)]

theorem spend_eq_error_iff {budget : Budget} {fault : Fault} :
    budget.spend = .error fault ↔
      budget.limit ≤ (budget.spent : Int) ∧ budget.exhaustion = fault := by
  unfold spend
  split
  next spentUp => rw [Except.error.injEq, and_iff_right spentUp]
  next notSpentUp => exact iff_of_false nofun fun spentUp => absurd spentUp.1 notSpentUp

end Budget

/-- What a run of steps leaves behind: the candidates it met, the budget after it,
and why it broke off if it could not go on. -/
structure Harvest where
  candidates : List Candidate
  budget : Budget
  failure : Option Fault

/-- Pay a number of times, up to the end of the budget. -/
def spendTimes : Nat → Budget → Harvest
  | 0, budget => ⟨[], budget, none⟩
  | times + 1, budget =>
      match budget.spend with
      | .ok paid => spendTimes times paid
      | .error fault => ⟨[], budget, some fault⟩

/-- Run the steps from one with the given index on, `remaining` of them at most.
A run that wants a number of candidates stops with the last of them. -/
def harvestFrom
    (steps : Steps) :
    (index remaining : Nat) → (wanted : Option Nat) → Budget → Harvest
  | _, _, some 0, budget => ⟨[], budget, none⟩
  | _, 0, _, budget => ⟨[], budget, none⟩
  | index, remaining + 1, wanted, budget =>
      match budget.spend with
      | .error fault => ⟨[], budget, some fault⟩
      | .ok paid =>
          match steps.proposal index with
          | none => harvestFrom steps (index + 1) remaining wanted paid
          | some candidate =>
              let later :=
                harvestFrom steps (index + 1) remaining (wanted.map (· - 1)) paid
              ⟨candidate :: later.candidates, later.budget, later.failure⟩

/-- Run a family on a budget. A run that wants no candidate does nothing. -/
def harvest
    (pattern : Pattern)
    (bound : Int)
    (target : Number)
    (wanted : Option Nat)
    (budget : Budget) :
    Harvest :=
  if wanted == some 0 then
    ⟨[], budget, none⟩
  else
    match pattern.steps bound target with
    | .ok steps => harvestFrom steps 0 steps.count wanted budget
    | .error fault => ⟨[], budget, some fault⟩

end FormulaGrid.Variant
