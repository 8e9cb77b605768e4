import FormulaGrid.Proofs.Variant.Harvest

/-!
Contract: a budget is shared by all that draw on it, and balances.

Owns:
- a family that draws on a budget and may stop and go on at will (`Course`), and what a draw does
  to it (`Course.Drawn`);
- the account of a budget (`Account`): what has been spent on it directly, and the families that
  draw on it; what uses of it lead to (`Account.after`);
- the account balances after every sequence of uses (`account_balances`).

One use keeps the account balanced (`Balanced.perform`). The induction is on the uses.
-/

namespace FormulaGrid.Variant

/-! ## Families that draw on a budget -/

/-- Where a family stands: it may go on, has nothing further to propose, or has failed. -/
inductive Stage where
  | underway
  | drained
  | broken (fault : Fault)

/-- A family that draws on a budget: how many of its steps have been paid for, and what it has
proposed with them. -/
structure Course where
  pattern : Pattern
  bound : Int
  target : Number
  paid : Nat
  yielded : List Candidate
  stage : Stage

namespace Course

def fresh (pattern : Pattern) (bound : Int) (target : Number) : Course :=
  ⟨pattern, bound, target, 0, [], .underway⟩

def steps (course : Course) : Except Fault Steps :=
  course.pattern.steps course.bound course.target

/-- The family after a run of its next steps on a budget. -/
def behind (course : Course) (wanted : Option Nat) (budget : Budget) (run : Harvest) : Course :=
  { course with
    paid := course.paid + (run.budget.spent - budget.spent)
    yielded := course.yielded ++ run.candidates
    stage :=
      match run.failure with
      | some fault => .broken fault
      | none => if wanted = some run.candidates.length then .underway else .drained }

/-- Let a family go on until it has proposed so many candidates more. A family that has ended
does nothing. -/
def draw (wanted : Option Nat) (budget : Budget) (course : Course) : Course × Budget :=
  match course.stage with
  | .underway =>
      if wanted = some 0 then
        (course, budget)
      else
        match course.steps with
        | .error fault => ({ course with stage := .broken fault }, budget)
        | .ok steps =>
            let run := harvestFrom steps course.paid (steps.count - course.paid) wanted budget
            (course.behind wanted budget run, run.budget)
  | _ => (course, budget)

/-- A family underway whose steps exist is run on the budget. -/
theorem draw_of_steps
    {course : Course}
    {steps : Steps}
    (underway : course.stage = .underway)
    (formed : course.steps = .ok steps)
    (wanted : Option Nat)
    (budget : Budget) :
    course.draw wanted budget =
      let run := harvestFrom steps course.paid (steps.count - course.paid) wanted budget
      (course.behind wanted budget run, run.budget) := by
  unfold draw
  rw [underway, formed]
  dsimp only
  split
  next enough =>
    obtain ⟨pattern, bound, target, paid, yielded, stage⟩ := course
    cases underway
    rw [enough, harvestFrom_satisfied]
    simp [behind]
  next => rfl

/-- A family that has ended does nothing. -/
theorem draw_of_ended
    {course : Course}
    (ended : course.stage ≠ .underway)
    (wanted : Option Nat)
    (budget : Budget) :
    course.draw wanted budget = (course, budget) := by
  unfold draw
  split
  next underway => exact absurd underway ended
  next => rfl

/-- What a draw does: nothing, or the steps of the family do not exist, or some of its next steps
are paid for, and it stops before a candidate, with its last step, or at a step that cannot be
paid for. -/
inductive Drawn (course : Course) (budget : Budget) : Course × Budget → Prop where
  | idle : Drawn course budget (course, budget)
  | unformed
      {fault : Fault}
      (underway : course.stage = .underway)
      (formed : course.steps = .error fault) :
      Drawn course budget ({ course with stage := .broken fault }, budget)
  | ran
      {steps : Steps}
      {taken : Nat}
      {stage : Stage}
      (underway : course.stage = .underway)
      (formed : course.steps = .ok steps)
      (within : taken ≤ steps.count - course.paid)
      (affordable : 0 < taken → ((budget.spent + taken : Nat) : Int) ≤ budget.limit)
      (ends : stage = .underway ∨
        stage = .drained ∧ taken = steps.count - course.paid ∨
        stage = .broken budget.exhaustion ∧
          budget.limit ≤ ((budget.spent + taken : Nat) : Int)) :
      Drawn course budget
        ({ course with
            paid := course.paid + taken
            yielded := course.yielded ++ steps.candidates course.paid taken
            stage := stage },
          { budget with spent := budget.spent + taken })

theorem drawn_draw (wanted : Option Nat) (budget : Budget) (course : Course) :
    course.Drawn budget (course.draw wanted budget) := by
  by_cases underway : course.stage = .underway
  · cases formed : course.steps with
    | error fault =>
        unfold draw
        rw [underway, formed]
        dsimp only
        split
        · exact .idle
        · exact .unformed underway formed
    | ok steps =>
        rw [draw_of_steps underway formed]
        obtain ⟨taken, after⟩ :=
          after_harvestFrom steps course.paid (steps.count - course.paid) wanted budget
        generalize harvestFrom steps course.paid (steps.count - course.paid) wanted budget = run
          at after
        obtain ⟨candidates, later, failure⟩ := run
        obtain ⟨within, rfl, rfl, affordable, ending⟩ := after
        dsimp only [behind]
        rw [Nat.add_sub_cancel_left]
        refine .ran underway formed within affordable ?_
        cases ending with
        | satisfied enough noFailure =>
            cases noFailure
            exact .inl (if_pos enough)
        | drained last tooFew noFailure =>
            cases noFailure
            exact .inr (.inl ⟨if_neg tooFew, last⟩)
        | exhausted before spentUp isFailure =>
            dsimp only at isFailure
            rw [isFailure]
            exact .inr (.inr ⟨rfl, spentUp⟩)
  · rw [draw_of_ended underway]
    exact .idle

/-- A family that is drawn on at once is run as a whole. -/
theorem draw_fresh
    (pattern : Pattern)
    (bound : Int)
    (target : Number)
    (wanted : Option Nat)
    (budget : Budget) :
    let run := harvest pattern bound target wanted budget
    let drawn := (fresh pattern bound target).draw wanted budget
    drawn.2 = run.budget ∧ drawn.1.yielded = run.candidates ∧
      ∀ fault, drawn.1.stage = .broken fault ↔ run.failure = some fault := by
  unfold harvest draw fresh steps
  dsimp only
  by_cases enough : wanted = some 0
  · simp [enough]
  · rw [if_neg enough, if_neg (mt beq_iff_eq.mp enough)]
    cases pattern.steps bound target with
    | error fault => simp
    | ok steps =>
        refine ⟨rfl, rfl, fun fault => ?_⟩
        dsimp only [behind, Nat.sub_zero]
        split
        next failed => simp [failed]
        next notFailed =>
          rw [notFailed]
          split <;> simp

/-- A run in two parts leaves behind what the second part leaves behind the first. -/
theorem behind_goOn
    {first : Nat}
    {more : Option Nat}
    {budget : Budget}
    {run rest : Harvest}
    (course : Course)
    (goesOn : run.failure = none ∧ run.candidates.length = first)
    (paid : budget.spent ≤ run.budget.spent)
    (paidOn : run.budget.spent ≤ rest.budget.spent) :
    course.behind (more.map (first + ·)) budget (run.goOn first rest) =
      (course.behind (some first) budget run).behind more run.budget rest := by
  obtain ⟨noFailure, rfl⟩ := goesOn
  have total : course.paid + (rest.budget.spent - budget.spent) =
      course.paid + (run.budget.spent - budget.spent) +
        (rest.budget.spent - run.budget.spent) := by
    omega
  have sameEnd : more.map (run.candidates.length + ·) =
        some (run.candidates ++ rest.candidates).length ↔
      more = some rest.candidates.length := by
    rw [List.length_append]
    cases more <;> simp
  unfold behind Harvest.goOn
  rw [if_pos ⟨noFailure, rfl⟩]
  dsimp only
  rw [total, List.append_assoc]
  cases rest.failure <;> simp only [sameEnd]

/-- A run that ends with too few candidates ends so too if it wants more. -/
theorem behind_of_ended
    {first : Nat}
    {run : Harvest}
    (course : Course)
    (more : Option Nat)
    (budget : Budget)
    (atMost : run.candidates.length ≤ first)
    (ends : ¬ (run.failure = none ∧ run.candidates.length = first)) :
    (course.behind (some first) budget run).stage ≠ .underway ∧
      course.behind (more.map (first + ·)) budget run =
        course.behind (some first) budget run := by
  unfold behind
  cases failure : run.failure with
  | some fault => exact ⟨nofun, rfl⟩
  | none =>
      have tooFew : run.candidates.length < first :=
        Nat.lt_of_le_of_ne atMost fun enough => ends ⟨failure, enough⟩
      have notEnough : some first ≠ some run.candidates.length := by
        simp [tooFew.ne']
      have stillNotEnough : more.map (first + ·) ≠ some run.candidates.length := by
        cases more with
        | none => exact nofun
        | some count =>
            simp only [Option.map_some, ne_eq, Option.some.injEq]
            omega
      dsimp only
      rw [if_neg notEnough, if_neg stillNotEnough]
      exact ⟨nofun, rfl⟩

/-- A family that is drawn on may stop after any number of candidates and go on later. -/
theorem draw_add (first : Nat) (more : Option Nat) (budget : Budget) (course : Course) :
    course.draw (more.map (first + ·)) budget =
      (course.draw (some first) budget).1.draw more (course.draw (some first) budget).2 := by
  by_cases underway : course.stage = .underway
  · cases formed : course.steps with
    | error fault =>
        -- The first draw fails if it wants anything. Then the second does nothing.
        unfold draw
        rw [underway, formed]
        cases first with
        | zero =>
            cases more <;> simp [underway, formed]
        | succ first =>
            cases more <;> simp
    | ok steps =>
        obtain ⟨taken, spent, parts⟩ :=
          harvestFrom_add steps course.paid (steps.count - course.paid) first more budget
        have atMost :=
          length_harvestFrom_le steps course.paid (steps.count - course.paid) first budget
        rw [draw_of_steps underway formed, draw_of_steps underway formed, parts]
        generalize harvestFrom steps course.paid (steps.count - course.paid) (some first) budget =
          run at spent atMost
        dsimp only
        by_cases goesOn : run.failure = none ∧ run.candidates.length = first
        · have stillUnderway : (course.behind (some first) budget run).stage = .underway := by
            unfold behind
            rw [goesOn.1, goesOn.2]
            simp
          have sameSteps : (course.behind (some first) budget run).steps = .ok steps := formed
          have paid : (course.behind (some first) budget run).paid = course.paid + taken := by
            show course.paid + (run.budget.spent - budget.spent) = _
            rw [spent, Nat.add_sub_cancel_left]
          rw [draw_of_steps stillUnderway sameSteps, paid, ← Nat.sub_sub]
          obtain ⟨further, after⟩ := after_harvestFrom steps (course.paid + taken)
            (steps.count - course.paid - taken) more run.budget
          have paidOn : run.budget.spent ≤ (harvestFrom steps (course.paid + taken)
              (steps.count - course.paid - taken) more run.budget).budget.spent := by
            rw [after.paid]
            exact Nat.le_add_right _ _
          have paidFirst : budget.spent ≤ run.budget.spent := by omega
          rw [course.behind_goOn goesOn paidFirst paidOn, Harvest.goOn, if_pos goesOn]
        · obtain ⟨ended, same⟩ := course.behind_of_ended more budget atMost goesOn
          rw [draw_of_ended ended, Harvest.goOn, if_neg goesOn, same]
  · rw [draw_of_ended underway, draw_of_ended underway, draw_of_ended underway]

/-- A draw leaves the steps of a family as they are. -/
theorem steps_draw (wanted : Option Nat) (budget : Budget) (course : Course) :
    (course.draw wanted budget).1.steps = course.steps := by
  have drew := drawn_draw wanted budget course
  generalize course.draw wanted budget = outcome at drew ⊢
  cases drew <;> rfl

/-- A family that is drawn on without end has ended. -/
theorem draw_none_ended (budget : Budget) (course : Course) :
    (course.draw none budget).1.stage ≠ .underway := by
  by_cases underway : course.stage = .underway
  · cases formed : course.steps with
    | error fault =>
        unfold draw
        rw [underway, formed]
        simp
    | ok steps =>
        rw [draw_of_steps underway formed]
        dsimp only [behind]
        split
        · exact nofun
        · rw [if_neg nofun]
          exact nofun
  · rw [draw_of_ended underway]
    exact underway

/-- What a family has done on a budget: it has proposed what the steps it has paid for propose,
all of them if it is drained, and if it has failed, its steps do not exist or the budget has been
spent up. -/
structure Orderly (budget : Budget) (course : Course) : Prop where
  proposed : ∀ steps, course.steps = .ok steps →
    course.paid ≤ steps.count ∧ course.yielded = steps.candidates 0 course.paid ∧
      (course.stage = .drained → course.paid = steps.count)
  unformed : ∀ fault, course.steps = .error fault →
    course.paid = 0 ∧ course.yielded = [] ∧ course.stage ≠ .drained
  broken : ∀ fault, course.stage = .broken fault →
    course.steps = .error fault ∨
      fault = budget.exhaustion ∧ budget.limit ≤ (budget.spent : Int)

theorem orderly_fresh (pattern : Pattern) (bound : Int) (target : Number) (budget : Budget) :
    (fresh pattern bound target).Orderly budget where
  proposed _ _ := ⟨Nat.zero_le _, rfl, nofun⟩
  unformed _ _ := ⟨rfl, rfl, nofun⟩
  broken _ isBroken := nomatch isBroken

/-- What others spend does not matter to a family. -/
theorem Orderly.mono
    {budget : Budget}
    {course : Course}
    (orderly : course.Orderly budget)
    (more : Nat) :
    course.Orderly { budget with spent := budget.spent + more } where
  proposed := orderly.proposed
  unformed := orderly.unformed
  broken fault isBroken := by
    refine (orderly.broken fault isBroken).imp_right fun failed => ⟨failed.1, ?_⟩
    have spentUp := failed.2
    dsimp only
    omega

/-- A draw pays on the budget for the steps that the family takes, and for nothing else. -/
structure Draws (budget : Budget) (course : Course) (drawn : Course × Budget) (taken : Nat) :
    Prop where
  paid : drawn.1.paid = course.paid + taken
  spent : drawn.2 = { budget with spent := budget.spent + taken }
  affordable : 0 < taken → (drawn.2.spent : Int) ≤ budget.limit
  orderly : drawn.1.Orderly drawn.2

theorem Orderly.draw
    {budget : Budget}
    {course : Course}
    (orderly : course.Orderly budget)
    (wanted : Option Nat) :
    ∃ taken, course.Draws budget (course.draw wanted budget) taken := by
  have drew := drawn_draw wanted budget course
  generalize course.draw wanted budget = outcome at drew ⊢
  cases drew with
  | idle =>
      exact ⟨0, rfl, rfl, fun positive => absurd positive (Nat.lt_irrefl 0), orderly⟩
  | unformed underway formed =>
      refine ⟨0, rfl, rfl, fun positive => absurd positive (Nat.lt_irrefl 0), ?_, ?_, ?_⟩
      · intro steps formed'
        cases formed.symm.trans formed'
      · intro fault formed'
        obtain ⟨paid, yielded, -⟩ := orderly.unformed fault formed'
        exact ⟨paid, yielded, nofun⟩
      · intro fault same
        cases same
        exact .inl formed
  | @ran steps taken stage underway formed within affordable ends =>
      obtain ⟨atMost, yielded, -⟩ := orderly.proposed steps formed
      refine ⟨taken, rfl, rfl, affordable, ?_, ?_, ?_⟩
      · intro other formed'
        cases formed.symm.trans formed'
        refine ⟨by dsimp only; omega, ?_, ?_⟩
        · dsimp only
          rw [Steps.candidates_add, yielded, Nat.zero_add]
        · intro drained
          rcases ends with rfl | ⟨-, last⟩ | ⟨rfl, -⟩
          · cases drained
          · dsimp only
            omega
          · cases drained
      · intro fault formed'
        cases formed.symm.trans formed'
      · intro fault isBroken
        rcases ends with rfl | ⟨rfl, -⟩ | ⟨rfl, spentUp⟩
        · cases isBroken
        · cases isBroken
        · cases isBroken
          exact .inr ⟨rfl, spentUp⟩

end Course

/-! ## Accounts -/

/-- A budget, what has been spent on it directly, and the families that draw on it. -/
structure Account where
  budget : Budget
  direct : Nat
  courses : List Course

/-- What can be done with a budget: pay for an attempt, set a family up, or draw on the budget
with one of the families until it has proposed so many candidates more. -/
inductive Use where
  | spend
  | setUp (pattern : Pattern) (bound : Int) (target : Number)
  | draw (place : Nat) (wanted : Option Nat)

namespace Account

def fresh (limit : Int) (target : Number) (requested produced : Int) : Account :=
  ⟨.fresh limit target requested produced, 0, []⟩

def perform (account : Account) : Use → Account
  | .spend =>
      match account.budget.spend with
      | .ok paid => { account with budget := paid, direct := account.direct + 1 }
      | .error _ => account
  | .setUp pattern bound target =>
      { account with courses := account.courses ++ [.fresh pattern bound target] }
  | .draw place wanted =>
      match account.courses[place]? with
      | none => account
      | some course =>
          let drawn := course.draw wanted account.budget
          { account with budget := drawn.2, courses := account.courses.set place drawn.1 }

/-- The account after uses of it, one after the other. -/
def after (account : Account) (uses : List Use) : Account :=
  uses.foldl perform account

/-- How many steps the families have paid for. -/
def drawn (account : Account) : Nat :=
  (account.courses.map Course.paid).sum

theorem sum_paid_set
    {courses : List Course}
    {place : Nat}
    {course : Course}
    (found : courses[place]? = some course)
    (other : Course) :
    ((courses.set place other).map Course.paid).sum + course.paid =
      (courses.map Course.paid).sum + other.paid := by
  induction courses generalizing place with
  | nil => cases found
  | cons first others inductionHypothesis =>
      cases place with
      | zero =>
          cases found
          simp only [List.set_cons_zero, List.map_cons, List.sum_cons]
          omega
      | succ place =>
          have rest := inductionHypothesis found
          simp only [List.set_cons_succ, List.map_cons, List.sum_cons]
          omega

/-- The account balances: nothing but the attempts spent has changed in its budget, these are
those spent directly and those that the families have paid for, and they keep to the limit. -/
structure Balanced
    (limit : Int)
    (target : Number)
    (requested produced : Int)
    (account : Account) :
    Prop where
  budget : account.budget =
    { Budget.fresh limit target requested produced with spent := account.budget.spent }
  atMost : (account.budget.spent : Int) ≤ max 0 limit
  balance : account.budget.spent = account.direct + account.drawn
  orderly : ∀ course ∈ account.courses, course.Orderly account.budget

section

variable {limit : Int} {target : Number} {requested produced : Int} {account : Account}

theorem balanced_fresh :
    (fresh limit target requested produced).Balanced limit target requested produced where
  budget := rfl
  atMost := le_max_left _ _
  balance := rfl
  orderly := List.forall_mem_nil _

theorem Balanced.limit_eq (balanced : account.Balanced limit target requested produced) :
    account.budget.limit = limit := by
  rw [balanced.budget]
  rfl

/-- One use keeps the account balanced, and takes nothing back. -/
theorem Balanced.perform
    (balanced : account.Balanced limit target requested produced)
    (use : Use) :
    (account.perform use).Balanced limit target requested produced ∧
      account.budget.spent ≤ (account.perform use).budget.spent := by
  have sameLimit := balanced.limit_eq
  cases use with
  | spend =>
      unfold Account.perform
      dsimp only
      cases paying : account.budget.spend with
      | error cause => exact ⟨balanced, Nat.le_refl _⟩
      | ok paid =>
          obtain ⟨left, rfl⟩ := Budget.spend_eq_ok_iff.mp paying
          refine ⟨⟨?_, ?_, ?_, ?_⟩, Nat.le_succ _⟩
          · dsimp only
            rw [balanced.budget]
          · dsimp only
            omega
          · have balance := balanced.balance
            unfold drawn at balance ⊢
            dsimp only
            omega
          · intro course member
            exact (balanced.orderly course member).mono 1
  | setUp pattern bound target =>
      refine ⟨⟨balanced.budget, balanced.atMost, ?_, ?_⟩, Nat.le_refl _⟩
      · have balance := balanced.balance
        unfold drawn at balance ⊢
        simpa [Account.perform, Course.fresh] using balance
      · intro course member
        rcases List.mem_append.mp member with earlier | last
        · exact balanced.orderly course earlier
        · rw [List.mem_singleton.mp last]
          exact Course.orderly_fresh pattern bound target _
  | draw place wanted =>
      unfold Account.perform
      dsimp only
      cases found : account.courses[place]? with
      | none => exact ⟨balanced, Nat.le_refl _⟩
      | some course =>
          have member := List.mem_of_getElem? found
          obtain ⟨taken, draws⟩ := (balanced.orderly course member).draw wanted
          have spent := draws.spent
          have paid := draws.paid
          have affordable := draws.affordable
          have drawnOrderly := draws.orderly
          dsimp only
          generalize course.draw wanted account.budget = outcome at spent paid affordable drawnOrderly
          obtain ⟨later, budget⟩ := outcome
          dsimp only at spent paid affordable drawnOrderly ⊢
          subst spent
          refine ⟨⟨?_, ?_, ?_, ?_⟩, Nat.le_add_right _ _⟩
          · dsimp only
            rw [balanced.budget]
          · have atMost := balanced.atMost
            dsimp only at affordable ⊢
            omega
          · have balance := balanced.balance
            have total := sum_paid_set found later
            unfold drawn at balance ⊢
            dsimp only
            omega
          · intro other isOther
            rcases List.mem_or_eq_of_mem_set isOther with earlier | rfl
            · exact (balanced.orderly other earlier).mono taken
            · exact drawnOrderly

/-- So do all uses. -/
theorem Balanced.after
    (balanced : account.Balanced limit target requested produced)
    (uses : List Use) :
    (account.after uses).Balanced limit target requested produced ∧
      account.budget.spent ≤ (account.after uses).budget.spent := by
  induction uses generalizing account with
  | nil => exact ⟨balanced, Nat.le_refl _⟩
  | cons use others inductionHypothesis =>
      obtain ⟨next, grows⟩ := balanced.perform use
      obtain ⟨last, growsOn⟩ := inductionHypothesis next
      exact ⟨last, grows.trans growsOn⟩

/-- A family for a finite number that is drawn on without end is drained, unless the budget is
spent up. -/
theorem Balanced.exists_drained
    {place : Nat}
    {course : Course}
    {value : Float}
    (balanced : account.Balanced limit target requested produced)
    (found : account.courses[place]? = some course)
    (converted : course.target.toFloat? = some value)
    (finite : value.isFinite = true) :
    ∃ drawn, (account.perform (.draw place none)).courses[place]? = some drawn ∧
      (drawn.stage = .drained ∨
        ((account.perform (.draw place none)).budget.spent : Int) = max 0 limit) := by
  have next := (balanced.perform (.draw place none)).1
  have within : place < account.courses.length := (List.getElem?_eq_some_iff.mp found).1
  have isDrawn : (account.perform (.draw place none)).courses[place]? =
      some (course.draw none account.budget).1 := by
    unfold Account.perform
    dsimp only
    rw [found]
    exact List.getElem?_set_self within
  refine ⟨_, isDrawn, ?_⟩
  have orderly := next.orderly _ (List.mem_of_getElem? isDrawn)
  cases stage : (course.draw none account.budget).1.stage with
  | underway => exact absurd stage (course.draw_none_ended account.budget)
  | drained => exact .inl rfl
  | broken fault =>
      rcases orderly.broken fault stage with unformed | ⟨-, spentUp⟩
      · obtain ⟨steps, formed⟩ := exists_steps_of_finite converted finite course.pattern
        rw [Course.steps_draw] at unformed
        cases unformed.symm.trans formed
      · have atMost := next.atMost
        rw [next.limit_eq] at spentUp
        exact .inr (by omega)

end

/-- A family that has ended stays as it is, whatever is done. -/
theorem getElem?_perform_of_ended
    {account : Account}
    {place : Nat}
    {course : Course}
    (found : account.courses[place]? = some course)
    (ended : course.stage ≠ .underway)
    (use : Use) :
    (account.perform use).courses[place]? = some course := by
  have within : place < account.courses.length := (List.getElem?_eq_some_iff.mp found).1
  cases use with
  | spend =>
      unfold perform
      dsimp only
      cases account.budget.spend <;> exact found
  | setUp pattern bound target =>
      show (account.courses ++ _)[place]? = _
      rw [List.getElem?_append_left within, found]
  | draw other wanted =>
      unfold perform
      dsimp only
      cases drawing : account.courses[other]? with
      | none => exact found
      | some drawn =>
          dsimp only
          by_cases same : other = place
          · subst same
            cases found.symm.trans drawing
            rw [Course.draw_of_ended ended, List.getElem?_set_self within]
          · rw [List.getElem?_set_ne same, found]

theorem getElem?_after_of_ended
    {account : Account}
    {place : Nat}
    {course : Course}
    (found : account.courses[place]? = some course)
    (ended : course.stage ≠ .underway)
    (uses : List Use) :
    (account.after uses).courses[place]? = some course := by
  induction uses generalizing account with
  | nil => exact found
  | cons use others inductionHypothesis =>
      exact inductionHypothesis (getElem?_perform_of_ended found ended use)

/-- Two draws on the same family are one draw for the candidates of both. -/
theorem perform_draw_add (account : Account) (place first : Nat) (more : Option Nat) :
    account.perform (.draw place (more.map (first + ·))) =
      (account.perform (.draw place (some first))).perform (.draw place more) := by
  unfold perform
  dsimp only
  cases found : account.courses[place]? with
  | none =>
      dsimp only
      rw [found]
  | some course =>
      have within : place < account.courses.length := (List.getElem?_eq_some_iff.mp found).1
      dsimp only
      rw [List.getElem?_set_self within, Course.draw_add]
      dsimp only
      rw [List.set_set]

end Account

/-- The account of a budget balances, whatever is done with it: attempts that are paid for
directly, and families for any targets that draw on it in turns and stop after any number of
candidates. What is spent keeps to the limit and never goes back. It is what has been paid for
directly and by the families, where each family has proposed just what the steps propose that it
has paid for. A family that is run in one go is drawn on once, and a draw of many candidates is
the same as many draws of one, so each candidate has been paid for before it appears. A family
that is drained without a failure has paid what it costs. One for a finite target has steps, and
drawn on without end it is drained, unless the budget is spent up. A direct payment adds one to
what has been spent, and to what has been paid for directly, if there is something left. A payment
that fails changes nothing, and the family that it fails for proposes nothing further. -/
theorem account_balances
    (limit : Int)
    (target : Number)
    (requested produced : Int)
    (uses : List Use) :
    let account := (Account.fresh limit target requested produced).after uses
    (account.budget.spent : Int) ≤ max 0 limit ∧
      account.budget.spent = account.direct + (account.courses.map Course.paid).sum ∧
      (∀ course ∈ account.courses,
        course.yielded.length ≤ course.paid ∧
          (∀ steps, course.steps = .ok steps →
            course.yielded = (List.range course.paid).filterMap steps.proposal) ∧
          (∀ value, course.target.toFloat? = some value → value.isFinite = true →
            ∃ steps, course.steps = .ok steps) ∧
          (course.stage = .drained →
            course.paid = course.pattern.cost course.bound course.target) ∧
          ∀ fault, course.stage = .broken fault →
            course.steps = .error fault ∨
              fault = account.budget.exhaustion ∧
                (account.budget.spent : Int) = max 0 limit) ∧
      (∀ paid, account.budget.spend = .ok paid →
        (account.budget.spent : Int) < limit ∧
          paid = { account.budget with spent := account.budget.spent + 1 } ∧
          account.perform .spend =
            { account with budget := paid, direct := account.direct + 1 }) ∧
      (∀ cause, account.budget.spend = .error cause →
        (account.budget.spent : Int) = max 0 limit ∧ cause = account.budget.exhaustion ∧
          account.perform .spend = account) ∧
      (∀ (pattern : Pattern) (bound : Int) (number : Number) (wanted : Option Nat),
        let run := harvest pattern bound number wanted account.budget
        let drawn := (Course.fresh pattern bound number).draw wanted account.budget
        drawn.2 = run.budget ∧ drawn.1.yielded = run.candidates ∧
          ∀ fault, drawn.1.stage = .broken fault ↔ run.failure = some fault) ∧
      (∀ (place first : Nat) (more : Option Nat),
        account.perform (.draw place (more.map (first + ·))) =
          (account.perform (.draw place (some first))).perform (.draw place more)) ∧
      (∀ (place : Nat) (course : Course) (value : Float),
        account.courses[place]? = some course → course.target.toFloat? = some value →
        value.isFinite = true →
        ∃ drawn, (account.perform (.draw place none)).courses[place]? = some drawn ∧
          (drawn.stage = .drained ∨
            ((account.perform (.draw place none)).budget.spent : Int) = max 0 limit)) ∧
      ∀ more : List Use,
        account.budget.spent ≤ (account.after more).budget.spent ∧
          ∀ (place : Nat) (course : Course) (fault : Fault),
            account.courses[place]? = some course → course.stage = .broken fault →
            (account.after more).courses[place]? = some course := by
  intro account
  have balanced : account.Balanced limit target requested produced :=
    (Account.balanced_fresh.after uses).1
  have atMost := balanced.atMost
  refine ⟨balanced.atMost, balanced.balance, ?_, ?_, ?_,
    fun pattern bound number wanted =>
      Course.draw_fresh pattern bound number wanted account.budget,
    account.perform_draw_add,
    fun place course value found converted finite =>
      balanced.exists_drained found converted finite, ?_⟩
  · intro course member
    have orderly := balanced.orderly course member
    refine ⟨?_, ?_, fun value converted finite =>
      exists_steps_of_finite converted finite course.pattern, ?_, ?_⟩
    · cases formed : course.steps with
      | error fault => simp [orderly.unformed fault formed]
      | ok steps =>
          rw [(orderly.proposed steps formed).2.1]
          exact steps.length_candidates_le 0 course.paid
    · intro steps formed
      rw [(orderly.proposed steps formed).2.1, List.range_eq_range']
      rfl
    · intro drained
      cases formed : course.steps with
      | error fault => exact absurd drained (orderly.unformed fault formed).2.2
      | ok steps =>
          rw [(orderly.proposed steps formed).2.2 drained, count_of_steps formed]
    · intro fault isBroken
      refine (orderly.broken fault isBroken).imp_right fun failed => ⟨failed.1, ?_⟩
      have spentUp := failed.2
      rw [balanced.limit_eq] at spentUp
      omega
  · intro paid paying
    obtain ⟨left, rfl⟩ := Budget.spend_eq_ok_iff.mp paying
    refine ⟨balanced.limit_eq ▸ left, rfl, ?_⟩
    unfold Account.perform
    dsimp only
    rw [paying]
  · intro cause failed
    obtain ⟨spentUp, rfl⟩ := Budget.spend_eq_error_iff.mp failed
    rw [balanced.limit_eq] at spentUp
    refine ⟨by omega, rfl, ?_⟩
    unfold Account.perform
    dsimp only
    rw [failed]
  · intro more
    refine ⟨(balanced.after more).2, ?_⟩
    intro place course fault found isBroken
    exact Account.getElem?_after_of_ended found (by rw [isBroken]; exact nofun) more

/-- Twelve is taken apart into its products, with a pause, and then into its sums, for which only
one attempt is left. Nothing further is paid for. -/
theorem account_balances_interleaved :
    let account := (Account.fresh 4 (.int 12) 9 7).after
      [.setUp .product factorialRatioBound (.int 12), .draw 0 (some 1), .spend,
        .setUp .sum factorialRatioBound (.int 12), .draw 0 none, .draw 1 none]
    (∃ course, account.courses[0]? = some course ∧ course.stage = .drained ∧
        course.paid = Pattern.product.cost factorialRatioBound (.int 12) ∧
        ∃ steps, course.steps = .ok steps) ∧
      (∃ course fault, account.courses[1]? = some course ∧ course.stage = .broken fault ∧
        (account.budget.spent : Int) = max 0 4 ∧
        (account.after [.draw 1 none]).courses[1]? = some course) ∧
      ∃ cause, account.budget.spend = .error cause ∧ account.perform .spend = account := by
  intro account
  obtain ⟨-, -, each, -, refuses, -, -, -, later⟩ := account_balances 4 (.int 12) 9 7
    [.setUp .product factorialRatioBound (.int 12), .draw 0 (some 1), .spend,
      .setUp .sum factorialRatioBound (.int 12), .draw 0 none, .draw 1 none]
  have first : (account.courses[0]?.any fun course =>
      course.stage matches .drained && course.pattern == .product &&
        course.bound == factorialRatioBound && course.target == .int 12) = true := by
    decide +kernel
  have second : (account.courses[1]?.any fun course =>
      course.stage matches .broken _ && course.steps.toOption.isSome) = true := by
    decide +kernel
  rw [Option.any_eq_true] at first second
  obtain ⟨products, isFirst, holds⟩ := first
  obtain ⟨sums, isSecond, fails⟩ := second
  refine ⟨?_, ?_, ?_⟩
  · cases stage : products.stage with
    | drained =>
        simp only [stage, Bool.and_eq_true, beq_iff_eq] at holds
        obtain ⟨-, -, formed, drained, -⟩ := each products (List.mem_of_getElem? isFirst)
        have cost := drained stage
        rw [holds.1.1.2, holds.1.2, holds.2] at cost
        have converted : products.target.toFloat? = some (Float.ofInt 12) := by
          rw [holds.2]
          decide +kernel
        exact ⟨products, isFirst, stage, cost, formed _ converted (by decide +kernel)⟩
    | underway => simp [stage] at holds
    | broken fault => simp [stage] at holds
  · cases stage : sums.stage with
    | broken fault =>
        rcases (each sums (List.mem_of_getElem? isSecond)).2.2.2.2 fault stage with
          unformed | ⟨-, spentUp⟩
        · simp [unformed, Except.toOption] at fails
        · exact ⟨sums, fault, isSecond, stage, spentUp,
            (later [.draw 1 none]).2 1 sums fault isSecond stage⟩
    | underway => simp [stage] at fails
    | drained => simp [stage] at fails
  · have spentUp : account.budget.limit ≤ (account.budget.spent : Int) := by decide +kernel
    have failed := Budget.spend_eq_error_iff.mpr ⟨spentUp, rfl⟩
    exact ⟨_, failed, (refuses _ failed).2.2⟩

end FormulaGrid.Variant
