import FormulaGrid.Proofs.Variant.Cost

/-!
Contract: what a run of steps leaves behind.

Owns:
- how a run of steps ends (`Harvest.Ending`): with the last candidate wanted, with the last
  step, or because a step could not be paid for;
- what it leaves behind (`Harvest.After`): the candidates of the steps that were paid for, each
  step for one attempt;
- every run ends so (`after_harvestFrom`), and with enough attempts a run that wants all
  candidates ends with the last step (`harvestFrom_of_affordable`).

The induction is on the steps that are left.
-/

namespace FormulaGrid.Variant

/-- Why a run of steps ends, some of which it has taken: it has the candidates wanted, or no
step is left, or the next step cannot be paid for. -/
inductive Harvest.Ending
    (remaining : Nat)
    (wanted : Option Nat)
    (run : Harvest)
    (taken : Nat) :
    Prop where
  | satisfied
      (enough : wanted = some run.candidates.length)
      (noFailure : run.failure = none)
  | drained
      (last : taken = remaining)
      (tooFew : wanted ≠ some run.candidates.length)
      (noFailure : run.failure = none)
  | exhausted
      (before : taken < remaining)
      (spentUp : run.budget.limit ≤ (run.budget.spent : Int))
      (failure : run.failure = some run.budget.exhaustion)

/-- What a run of steps leaves behind that has paid for some of them. -/
structure Harvest.After
    (steps : Steps)
    (index remaining : Nat)
    (wanted : Option Nat)
    (budget : Budget)
    (run : Harvest)
    (taken : Nat) :
    Prop where
  within : taken ≤ remaining
  candidates : run.candidates = steps.candidates index taken
  paid : run.budget = { budget with spent := budget.spent + taken }
  affordable : 0 < taken → (run.budget.spent : Int) ≤ budget.limit
  ending : Harvest.Ending remaining wanted run taken

section

variable {steps : Steps} {index remaining taken : Nat} {wanted : Option Nat} {budget : Budget}
  {run : Harvest}

/-- A run that takes no step. -/
theorem Harvest.After.here
    (failure : Option Fault)
    (ending : Harvest.Ending remaining wanted ⟨[], budget, failure⟩ 0) :
    Harvest.After steps index remaining wanted budget ⟨[], budget, failure⟩ 0 :=
  ⟨Nat.zero_le _, rfl, rfl, fun positive => absurd positive (Nat.lt_irrefl 0), ending⟩

/-- A run behind a paid step is a run that begins with this step. If the step proposes a
candidate, one more is wanted. -/
theorem Harvest.After.succ
    {later : Option Nat}
    (after : Harvest.After steps (index + 1) remaining later
      { budget with spent := budget.spent + 1 } run taken)
    (affordable : ((budget.spent + 1 : Nat) : Int) ≤ budget.limit)
    (same : later = some run.candidates.length ↔
      wanted = some ((steps.proposal index).toList.length + run.candidates.length)) :
    Harvest.After steps index (remaining + 1) wanted budget
      { run with candidates := (steps.proposal index).toList ++ run.candidates } (taken + 1) where
  within := Nat.succ_le_succ after.within
  candidates := by
    rw [Steps.candidates_succ, after.candidates]
  paid := by
    have total : budget.spent + 1 + taken = budget.spent + (taken + 1) := by omega
    rw [after.paid, ← total]
  affordable _ := by
    rcases Nat.eq_zero_or_pos taken with none | positive
    · have paid := after.paid
      rw [none] at paid
      rw [paid]
      exact affordable
    · exact after.affordable positive
  ending := by
    rw [← List.length_append] at same
    cases after.ending with
    | satisfied enough noFailure => exact .satisfied (same.mp enough) noFailure
    | drained last tooFew noFailure =>
        exact .drained (congrArg (· + 1) last) (mt same.mpr tooFew) noFailure
    | exhausted before spentUp failure =>
        exact .exhausted (Nat.succ_lt_succ before) spentUp failure

end

/-- A run that wants more pays for its first step before it looks at what that proposes. -/
theorem harvestFrom_succ
    (steps : Steps)
    (index remaining : Nat)
    {wanted : Option Nat}
    (budget : Budget)
    (notEnough : wanted ≠ some 0) :
    harvestFrom steps index (remaining + 1) wanted budget =
      match budget.spend with
      | .error fault => ⟨[], budget, some fault⟩
      | .ok paid =>
          match steps.proposal index with
          | none => harvestFrom steps (index + 1) remaining wanted paid
          | some candidate =>
              let later := harvestFrom steps (index + 1) remaining (wanted.map (· - 1)) paid
              ⟨candidate :: later.candidates, later.budget, later.failure⟩ := by
  rcases wanted with _ | _ | more
  · rfl
  · exact absurd rfl notEnough
  · rfl

theorem harvestFrom_zero
    (steps : Steps)
    (index : Nat)
    (wanted : Option Nat)
    (budget : Budget) :
    harvestFrom steps index 0 wanted budget = ⟨[], budget, none⟩ := by
  rcases wanted with _ | _ | more <;> rfl

theorem harvestFrom_satisfied
    (steps : Steps)
    (index remaining : Nat)
    (budget : Budget) :
    harvestFrom steps index remaining (some 0) budget = ⟨[], budget, none⟩ := by
  unfold harvestFrom
  rfl

/-- A run has no more candidates than it wants. -/
theorem length_harvestFrom_le
    (steps : Steps)
    (index remaining most : Nat)
    (budget : Budget) :
    (harvestFrom steps index remaining (some most) budget).candidates.length ≤ most := by
  induction remaining generalizing index most budget with
  | zero =>
      rw [harvestFrom_zero]
      exact Nat.zero_le most
  | succ remaining inductionHypothesis =>
      cases most with
      | zero =>
          rw [harvestFrom_satisfied]
          exact Nat.le_refl 0
      | succ most =>
          rw [harvestFrom_succ steps index remaining budget (by simp)]
          cases budget.spend with
          | error cause => exact Nat.zero_le _
          | ok paid =>
              dsimp only
              cases steps.proposal index with
              | none => exact inductionHypothesis (index + 1) (most + 1) paid
              | some candidate => exact Nat.succ_le_succ (inductionHypothesis (index + 1) most paid)

/-- Every run of steps leaves behind the candidates of the steps that it has paid for. -/
theorem after_harvestFrom
    (steps : Steps)
    (index remaining : Nat)
    (wanted : Option Nat)
    (budget : Budget) :
    ∃ taken, Harvest.After steps index remaining wanted budget
      (harvestFrom steps index remaining wanted budget) taken := by
  induction remaining generalizing index wanted budget with
  | zero =>
      rw [harvestFrom_zero]
      refine ⟨0, .here none ?_⟩
      by_cases enough : wanted = some 0
      · exact .satisfied enough rfl
      · exact .drained rfl enough rfl
  | succ remaining inductionHypothesis =>
      by_cases enough : wanted = some 0
      · subst enough
        rw [harvestFrom_satisfied]
        exact ⟨0, .here none (.satisfied rfl rfl)⟩
      · rw [harvestFrom_succ steps index remaining budget enough]
        unfold Budget.spend
        by_cases spentUp : budget.limit ≤ (budget.spent : Int)
        · rw [if_pos spentUp]
          exact ⟨0, .here _ (.exhausted (Nat.succ_pos _) spentUp rfl)⟩
        · rw [if_neg spentUp]
          dsimp only
          have affordable : ((budget.spent + 1 : Nat) : Int) ≤ budget.limit := by omega
          cases proposed : steps.proposal index with
          | none =>
              obtain ⟨taken, after⟩ := inductionHypothesis (index + 1) wanted
                { budget with spent := budget.spent + 1 }
              have same (length : Nat) : wanted = some length ↔
                  wanted = some ((steps.proposal index).toList.length + length) := by
                simp [proposed]
              have whole := after.succ affordable (same _)
              rw [proposed] at whole
              exact ⟨taken + 1, whole⟩
          | some candidate =>
              obtain ⟨taken, after⟩ := inductionHypothesis (index + 1) (wanted.map (· - 1))
                { budget with spent := budget.spent + 1 }
              have same (length : Nat) : wanted.map (· - 1) = some length ↔
                  wanted = some ((steps.proposal index).toList.length + length) := by
                rw [proposed]
                rcases wanted with _ | _ | more
                · simp
                · exact absurd rfl enough
                · simp [Nat.add_comm]
              have whole := after.succ affordable (same _)
              rw [proposed] at whole
              exact ⟨taken + 1, whole⟩

/-- One run behind another, which goes on only if the first has found what it wanted. -/
def Harvest.goOn (first : Nat) (run rest : Harvest) : Harvest :=
  if run.failure = none ∧ run.candidates.length = first then
    ⟨run.candidates ++ rest.candidates, rest.budget, rest.failure⟩
  else
    run

theorem Harvest.goOn_cons (first : Nat) (candidate : Candidate) (run rest : Harvest) :
    Harvest.goOn (first + 1) ⟨candidate :: run.candidates, run.budget, run.failure⟩ rest =
      ⟨candidate :: (run.goOn first rest).candidates, (run.goOn first rest).budget,
        (run.goOn first rest).failure⟩ := by
  unfold goOn
  by_cases goesOn : run.failure = none ∧ run.candidates.length = first
  · simp [goesOn]
  · simp [goesOn]

/-- A run may stop after a number of candidates and go on later. -/
theorem harvestFrom_add
    (steps : Steps)
    (index remaining first : Nat)
    (more : Option Nat)
    (budget : Budget) :
    ∃ taken,
      (harvestFrom steps index remaining (some first) budget).budget.spent =
          budget.spent + taken ∧
        harvestFrom steps index remaining (more.map (first + ·)) budget =
          (harvestFrom steps index remaining (some first) budget).goOn first
            (harvestFrom steps (index + taken) (remaining - taken) more
              (harvestFrom steps index remaining (some first) budget).budget) := by
  induction remaining generalizing index first budget with
  | zero =>
      refine ⟨0, by rw [harvestFrom_zero]; rfl, ?_⟩
      simp only [harvestFrom_zero, Nat.zero_sub]
      unfold Harvest.goOn
      split <;> rfl
  | succ remaining inductionHypothesis =>
      cases first with
      | zero =>
          refine ⟨0, by rw [harvestFrom_satisfied]; rfl, ?_⟩
          rw [harvestFrom_satisfied]
          simp [Harvest.goOn]
      | succ first =>
          have wantsMore : more.map (first + 1 + ·) ≠ some 0 := by
            cases more <;> simp
          rw [harvestFrom_succ steps index remaining budget wantsMore,
            harvestFrom_succ steps index remaining budget (by simp : some (first + 1) ≠ some 0)]
          cases paying : budget.spend with
          | error cause => exact ⟨0, rfl, rfl⟩
          | ok paid =>
              obtain ⟨-, isPaid⟩ := Budget.spend_eq_ok_iff.mp paying
              have oneMore : paid.spent = budget.spent + 1 := by rw [← isPaid]
              -- What follows the paid step is a run of the same kind, one step further on.
              have shifted (taken : Nat) : index + 1 + taken = index + (taken + 1) ∧
                  remaining - taken = remaining + 1 - (taken + 1) ∧
                  paid.spent + taken = budget.spent + (taken + 1) := by
                omega
              dsimp only
              cases steps.proposal index with
              | none =>
                  obtain ⟨taken, spent, parts⟩ := inductionHypothesis (index + 1) (first + 1) paid
                  obtain ⟨sameIndex, sameRemaining, sameSpent⟩ := shifted taken
                  rw [sameIndex, sameRemaining] at parts
                  exact ⟨taken + 1, spent.trans sameSpent, parts⟩
              | some candidate =>
                  obtain ⟨taken, spent, parts⟩ := inductionHypothesis (index + 1) first paid
                  obtain ⟨sameIndex, sameRemaining, sameSpent⟩ := shifted taken
                  rw [sameIndex, sameRemaining] at parts
                  refine ⟨taken + 1, spent.trans sameSpent, ?_⟩
                  have fewer : (more.map (first + 1 + ·)).map (· - 1) = more.map (first + ·) := by
                    cases more with
                    | none => rfl
                    | some count =>
                        simp only [Option.map_some, Option.some.injEq]
                        omega
                  have same : (some (first + 1)).map (· - 1) = some first := rfl
                  rw [fewer, same, parts, Harvest.goOn_cons]

/-- With enough attempts all candidates are there, and each step has cost one attempt. -/
theorem harvestFrom_of_affordable
    (steps : Steps)
    (index remaining : Nat)
    {budget : Budget}
    (affordable : ((budget.spent + remaining : Nat) : Int) ≤ budget.limit) :
    harvestFrom steps index remaining none budget =
      ⟨steps.candidates index remaining,
        { budget with spent := budget.spent + remaining }, none⟩ := by
  obtain ⟨taken, after⟩ := after_harvestFrom steps index remaining none budget
  have spent := after.paid
  have candidates := after.candidates
  cases after.ending with
  | satisfied enough => cases enough
  | drained last _ noFailure =>
      subst last
      rw [← spent, ← candidates, ← noFailure]
  | exhausted before spentUp =>
      rw [spent] at spentUp
      dsimp only at spentUp
      omega

end FormulaGrid.Variant
