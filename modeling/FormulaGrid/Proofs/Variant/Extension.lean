import FormulaGrid.Proofs.Variant.Refinement

/-!
Contract: asking for more only extends the answer of a search.

Owns:
- a progress that goes on from an earlier one (`Progress.GoesOn`), as every consideration does;
- the run for fewer notations beside the run for more of them (`StopsEarlier`), in the pool
  (`exists_searchPool_fewer`) and in the steps of the families (`exists_searchSteps_fewer`);
- what an answered search consists of (`search_eq_ok_iff`);
- fewer notations and more attempts leave an answered request answered, with the first
  expressions of its answer (`synthesize_extends`).

Both runs take the same way until the one for fewer notations stops. What a consideration does
depends neither on the count that is wanted nor on the attempts that are left.
-/

namespace FormulaGrid.Variant

variable {functions : Elementary} {goal : Goal}

/-- The same goal with another count. -/
def Goal.wanting (goal : Goal) (count : Nat) : Goal :=
  { goal with count := count }

/-! ## One consideration -/

namespace Progress

/-- The later progress has accepted what the earlier one has, and then perhaps more. -/
structure GoesOn (earlier later : Progress) : Prop where
  accepted : earlier.accepted <+: later.accepted
  rejected : earlier.rejected ≤ later.rejected

theorem GoesOn.refl (progress : Progress) : progress.GoesOn progress :=
  ⟨List.prefix_refl _, Nat.le_refl _⟩

theorem GoesOn.trans
    {first second third : Progress}
    (earlier : first.GoesOn second)
    (later : second.GoesOn third) :
    first.GoesOn third :=
  ⟨earlier.accepted.trans later.accepted, Nat.le_trans earlier.rejected later.rejected⟩

/-- Whether a goal is reached depends on its count alone. -/
theorem reached_wanting_iff {progress : Progress} {count : Nat} :
    progress.reached (goal.wanting count) = true ↔ progress.accepted.length = count :=
  beq_iff_eq

/-- A consideration goes on from the progress, by one expression at most. -/
theorem goesOn_of_consider
    {text : String}
    {expression : Except Fault Expression}
    {progress next : Progress}
    (considered : progress.consider functions goal text expression = .ok next) :
    progress.GoesOn next ∧ next.accepted.length ≤ progress.accepted.length + 1 := by
  unfold consider at considered
  split at considered
  next =>
    cases considered
    exact ⟨⟨List.prefix_refl _, Nat.le_succ _⟩, Nat.le_succ _⟩
  next =>
    obtain ⟨agrees, -, behind⟩ := exists_of_bind_eq_ok considered
    cases agrees with
    | false =>
        cases behind
        exact ⟨⟨List.prefix_refl _, Nat.le_succ _⟩, Nat.le_succ _⟩
    | true =>
        obtain ⟨made, -, same⟩ := exists_of_bind_eq_ok behind
        cases same
        exact ⟨⟨List.prefix_append _ _, Nat.le_refl _⟩, by simp⟩

end Progress

/-! ## The pool -/

theorem goesOn_of_searchPool
    {pool : List Expression}
    {progress found : Progress}
    (searched : searchPool functions goal pool progress = .ok found) :
    progress.GoesOn found := by
  induction pool generalizing progress with
  | nil =>
      cases searched
      exact .refl _
  | cons expression others inductionHypothesis =>
      unfold searchPool at searched
      split at searched
      next =>
        cases searched
        exact .refl _
      next =>
        obtain ⟨next, considered, behind⟩ := exists_of_bind_eq_ok searched
        exact (Progress.goesOn_of_consider considered).1.trans (inductionHypothesis behind)

/-- A search of the pool for fewer notations stops when it has them, or ends as the search for
more does. -/
theorem exists_searchPool_fewer
    {pool : List Expression}
    {progress later : Progress}
    {fewer : Nat}
    (searched : searchPool functions goal pool progress = .ok later)
    (room : progress.accepted.length ≤ fewer)
    (atMost : fewer ≤ goal.count) :
    ∃ earlier,
      searchPool functions (goal.wanting fewer) pool progress = .ok earlier ∧
        earlier.accepted.length ≤ fewer ∧
        earlier.GoesOn later ∧
        (earlier.accepted.length < fewer ∨ fewer = goal.count → earlier = later) := by
  induction pool generalizing progress with
  | nil =>
      cases searched
      exact ⟨_, rfl, room, .refl _, fun _ => rfl⟩
  | cons expression others inductionHypothesis =>
      by_cases enough : progress.accepted.length = fewer
      · have stopped : searchPool functions (goal.wanting fewer) (expression :: others) progress =
            .ok progress := by
          unfold searchPool
          rw [if_pos (Progress.reached_wanting_iff.mpr enough)]
        refine ⟨progress, stopped, room, goesOn_of_searchPool searched, ?_⟩
        rintro (less | rfl)
        · exact absurd enough (Nat.ne_of_lt less)
        · exact Except.ok.inj (stopped.symm.trans searched)
      · unfold searchPool at searched ⊢
        rw [if_neg (Progress.not_reached_of_lt (by omega))] at searched
        rw [if_neg (mt Progress.reached_wanting_iff.mp enough)]
        obtain ⟨next, considered, behind⟩ := exists_of_bind_eq_ok searched
        have oneMore := (Progress.goesOn_of_consider considered).2
        obtain ⟨earlier, found, stops⟩ := inductionHypothesis behind (by omega)
        exact ⟨earlier, (bind_of_ok considered _).trans found, stops⟩

/-! ## The steps -/

/-- A run has stopped with fewer notations, where another one has gone on. With the same count
the two are the same. -/
structure StopsEarlier
    (fewer count : Nat)
    (earlier later : Budget × Progress) :
    Prop where
  enough : earlier.2.accepted.length = fewer
  goesOn : earlier.2.GoesOn later.2
  spent : earlier.1.spent ≤ later.1.spent
  same : fewer = count → earlier.2 = later.2 ∧ earlier.1.spent = later.1.spent

/-- What a run leaves behind goes on from what it started with. -/
theorem goesOn_of_searchSteps
    {steps : Steps}
    {index remaining : Nat}
    {budget : Budget}
    {progress : Progress}
    {found : Budget × Progress}
    (searched : searchSteps functions goal steps index remaining budget progress = .ok found) :
    progress.GoesOn found.2 ∧ budget.spent ≤ found.1.spent := by
  induction remaining generalizing index budget progress with
  | zero =>
      cases searched
      exact ⟨.refl _, Nat.le_refl _⟩
  | succ remaining inductionHypothesis =>
      unfold searchSteps at searched
      split at searched
      next => cases searched
      next paid isPaid =>
        obtain ⟨-, rfl⟩ := Budget.spend_eq_ok_iff.mp isPaid
        split at searched
        next =>
          obtain ⟨goesOn, spent⟩ := inductionHypothesis searched
          exact ⟨goesOn, Nat.le_of_succ_le spent⟩
        next candidate _ =>
          obtain ⟨next, considered, behind⟩ := exists_of_bind_eq_ok searched
          have first := (Progress.goesOn_of_consider considered).1
          dsimp only at behind
          split at behind
          next =>
            cases behind
            exact ⟨first, Nat.le_succ _⟩
          next =>
            obtain ⟨goesOn, spent⟩ := inductionHypothesis behind
            exact ⟨first.trans goesOn, Nat.le_of_succ_le spent⟩

/-- Beside a run that finds enough, a run for fewer notations stops no later, if it may spend
as much. -/
theorem exists_searchSteps_fewer
    {steps : Steps}
    {index remaining fewer : Nat}
    {budget other : Budget}
    {progress : Progress}
    {later : Budget × Progress}
    (searched : searchSteps functions goal steps index remaining budget progress = .ok later)
    (room : progress.accepted.length < fewer)
    (atMost : fewer ≤ goal.count)
    (enough : fewer ≤ later.2.accepted.length)
    (spent : other.spent = budget.spent)
    (limit : budget.limit ≤ other.limit) :
    ∃ earlier,
      searchSteps functions (goal.wanting fewer) steps index remaining other progress =
          .ok earlier ∧
        StopsEarlier fewer goal.count earlier later := by
  induction remaining generalizing index budget other progress with
  | zero =>
      cases searched
      exact absurd room (Nat.not_lt.mpr enough)
  | succ remaining inductionHypothesis =>
      unfold searchSteps Budget.spend at searched ⊢
      by_cases spentUp : budget.limit ≤ (budget.spent : Int)
      · rw [if_pos spentUp] at searched
        cases searched
      · rw [if_neg spentUp] at searched
        rw [if_neg (by omega)]
        dsimp only at searched ⊢
        cases proposed : steps.proposal index with
        | none =>
            rw [proposed] at searched
            exact inductionHypothesis searched room (congrArg (· + 1) spent) limit
        | some candidate =>
            rw [proposed] at searched
            obtain ⟨next, considered, behind⟩ := exists_of_bind_eq_ok searched
            have oneMore := (Progress.goesOn_of_consider considered).2
            have sameStep : progress.consider functions (goal.wanting fewer) candidate.text
                (Expression.synthesize candidate.text (some candidate.pattern.label)) = .ok next :=
              considered
            dsimp only at behind ⊢
            rw [bind_of_ok sameStep]
            by_cases stops : next.accepted.length = fewer
            · rw [if_pos (Progress.reached_wanting_iff.mpr stops)]
              refine ⟨_, rfl, ?_⟩
              split at behind
              next =>
                cases behind
                exact ⟨stops, .refl next, Nat.le_of_eq (congrArg (· + 1) spent),
                  fun _ => ⟨rfl, congrArg (· + 1) spent⟩⟩
              next notReached =>
                obtain ⟨goesOn, more⟩ := goesOn_of_searchSteps behind
                refine ⟨stops, goesOn, ?_, fun same => ?_⟩
                · exact Nat.le_trans (Nat.le_of_eq (congrArg (· + 1) spent)) more
                · exact absurd (beq_iff_eq.mpr (stops.trans same)) notReached
            · rw [if_neg (mt Progress.reached_wanting_iff.mp stops)]
              rw [if_neg (Progress.not_reached_of_lt (by omega))] at behind
              exact inductionHypothesis behind (by omega) (congrArg (· + 1) spent) limit

/-! ## Searches -/

/-- An answered search has found enough in the pool, or else in the steps of the families. -/
inductive Stages
    (functions : Elementary)
    (goal : Goal)
    (includeAdvanced : Bool)
    (attempts : Nat) :
    Synthesis → Prop where
  | pool
      {catalogued : Progress}
      (pooled : searchPool functions goal
        (standardCatalog.poolForTarget (.float goal.target) includeAdvanced) Progress.start =
          .ok catalogued)
      (reached : catalogued.accepted.length = goal.count) :
      Stages functions goal includeAdvanced attempts
        ⟨goal.target, catalogued.accepted, catalogued.accepted.length, 0, catalogued.rejected⟩
  | families
      {catalogued : Progress}
      {steps : Steps}
      {found : Budget × Progress}
      (pooled : searchPool functions goal
        (standardCatalog.poolForTarget (.float goal.target) includeAdvanced) Progress.start =
          .ok catalogued)
      (notYet : catalogued.accepted.length ≠ goal.count)
      (formed : stepsOf factorialRatioBound (.float goal.target) Pattern.all = .ok steps)
      (searched : searchSteps functions goal steps 0 steps.count
        ⟨attempts, .float goal.target, goal.count, 0, catalogued.accepted.length⟩ catalogued =
          .ok found)
      (reached : found.2.accepted.length = goal.count) :
      Stages functions goal includeAdvanced attempts
        ⟨goal.target, found.2.accepted, catalogued.accepted.length, found.1.spent,
          found.2.rejected⟩

/-- A search is answered just with what its stages lead to. -/
theorem search_eq_ok_iff
    {includeAdvanced : Bool}
    {attempts : Nat}
    {synthesis : Synthesis} :
    search functions goal includeAdvanced attempts = .ok synthesis ↔
      Stages functions goal includeAdvanced attempts synthesis := by
  unfold search
  constructor
  · intro answered
    obtain ⟨catalogued, pooled, behind⟩ := exists_of_bind_eq_ok answered
    dsimp only at behind
    by_cases reached : catalogued.reached goal = true
    · rw [if_pos reached] at behind
      obtain ⟨found, same, stops⟩ := exists_of_bind_eq_ok behind
      cases same
      dsimp only at stops
      rw [if_pos reached] at stops
      cases stops
      exact .pool pooled (beq_iff_eq.mp reached)
    · rw [if_neg reached] at behind
      obtain ⟨steps, formed, run⟩ := exists_of_bind_eq_ok behind
      obtain ⟨found, searched, stops⟩ := exists_of_bind_eq_ok run
      split at stops
      next enough =>
        cases stops
        exact .families pooled (mt beq_iff_eq.mpr reached) formed searched
          (beq_iff_eq.mp enough)
      next => cases stops
  · intro stages
    cases stages with
    | @pool catalogued pooled length =>
        have reached : catalogued.reached goal = true := beq_iff_eq.mpr length
        rw [bind_of_ok pooled]
        dsimp only
        rw [if_pos reached, pure_bind]
        dsimp only
        rw [if_pos reached]
        rfl
    | @families catalogued steps found pooled notYet formed searched length =>
        have notReached : ¬ catalogued.reached goal = true := mt beq_iff_eq.mp notYet
        have reached : found.2.reached goal = true := beq_iff_eq.mpr length
        rw [bind_of_ok pooled]
        dsimp only
        rw [if_neg notReached, bind_of_ok formed, bind_of_ok searched, if_pos reached]
        rfl

/-- Fewer notations and more attempts leave a search answered. Its answer begins the other. -/
theorem exists_search_fewer
    {includeAdvanced : Bool}
    {attempts more : Nat}
    {synthesis : Synthesis}
    {fewer : Nat}
    (stages : Stages functions goal includeAdvanced attempts synthesis)
    (atMost : fewer ≤ goal.count)
    (affordable : attempts ≤ more) :
    ∃ shorter,
      Stages functions (goal.wanting fewer) includeAdvanced more shorter ∧
        shorter.expressions = synthesis.expressions.take fewer ∧
        shorter.attempts ≤ synthesis.attempts ∧
        shorter.rejected ≤ synthesis.rejected ∧
        (fewer = goal.count → shorter = synthesis) := by
  cases stages with
  | @pool catalogued pooled reached =>
      obtain ⟨earlier, found, most, goesOn, same⟩ :=
        exists_searchPool_fewer pooled (Nat.zero_le _) atMost
      have enough : earlier.accepted.length = fewer := by
        refine most.eq_or_lt.resolve_right fun less => ?_
        have length := congrArg (·.accepted.length) (same (.inl less))
        omega
      refine ⟨_, .pool found enough, ?_, Nat.le_refl _, goesOn.rejected, fun all => ?_⟩
      · exact enough ▸ List.prefix_iff_eq_take.mp goesOn.accepted
      · cases same (.inr all)
        rfl
  | @families catalogued steps later pooled notYet formed searched reached =>
      obtain ⟨earlier, found, most, goesOn, same⟩ :=
        exists_searchPool_fewer pooled (Nat.zero_le _) atMost
      have behind := (goesOn_of_searchSteps searched).1
      by_cases enough : earlier.accepted.length = fewer
      · -- The pool has given enough, so nothing is paid for.
        have whole := goesOn.trans behind
        refine ⟨_, .pool found enough, ?_, Nat.zero_le _, whole.rejected, fun all => ?_⟩
        · exact enough ▸ List.prefix_iff_eq_take.mp whole.accepted
        · have length := congrArg (·.accepted.length) (same (.inr all))
          omega
      · have less : earlier.accepted.length < fewer := Nat.lt_of_le_of_ne most enough
        cases same (.inl less)
        obtain ⟨stopped, run, stops⟩ : ∃ stopped,
            searchSteps functions (goal.wanting fewer) steps 0 steps.count
                ⟨more, .float goal.target, fewer, 0, catalogued.accepted.length⟩ catalogued =
                .ok stopped ∧
              StopsEarlier fewer goal.count stopped later :=
          exists_searchSteps_fewer searched less atMost (atMost.trans reached.ge) rfl
            (Int.ofNat_le.mpr affordable)
        refine ⟨_, .families found enough formed run stops.enough, ?_, stops.spent,
          stops.goesOn.rejected, fun all => ?_⟩
        · exact stops.enough ▸ List.prefix_iff_eq_take.mp stops.goesOn.accepted
        · obtain ⟨found, spent⟩ := stops.same all
          rw [found, spent]
          rfl

/-- Asking for more only extends the answer. If a request is answered, so is the same one for
fewer notations with as many attempts or more. Its expressions are the first ones of that
answer, and it takes no more attempts and turns no more proposals down. With the same count,
the whole answer does not depend on the attempts that are left over. -/
theorem synthesize_extends
    (functions : Elementary)
    (target : Datum)
    (request : Request)
    (synthesis : Synthesis)
    (answered : synthesize functions target request = .ok synthesis)
    (count attempts : Int)
    (positive : 1 ≤ count)
    (atMost : count ≤ request.count)
    (affordable : request.attempts ≤ attempts) :
    ∃ shorter,
      synthesize functions target { request with count := count, attempts := attempts } =
          .ok shorter ∧
        shorter.expressions = synthesis.expressions.take count.toNat ∧
        shorter.attempts ≤ synthesis.attempts ∧
        shorter.rejected ≤ synthesis.rejected ∧
        (count = request.count → shorter = synthesis) := by
  obtain ⟨float, isTarget, -⟩ := exists_of_bind_eq_ok answered
  obtain ⟨counted, usable⟩ := usable_of_synthesize isTarget answered
  rw [synthesize_eq_search functions isTarget counted usable] at answered
  have affordableSteps : request.attempts.toNat ≤ attempts.toNat :=
    Int.toNat_le_toNat affordable
  obtain ⟨shorter, stages, taken, cheaper, fewer, same⟩ :=
    exists_search_fewer (search_eq_ok_iff.mp answered) (Int.toNat_le_toNat atMost)
      affordableSteps
  refine ⟨shorter, ?_, taken, cheaper, fewer, fun all => same (congrArg Int.toNat all)⟩
  rw [synthesize_eq_search functions isTarget positive (usable.trans affordable)]
  exact search_eq_ok_iff.mpr stages

/-- One notation of three is the first of two that are found with fewer attempts. -/
theorem synthesize_extends_three :
    ∃ synthesis shorter : Synthesis,
      synthesize sampleLibrary (.int 3) { count := 2, attempts := 50 } = .ok synthesis ∧
        synthesize sampleLibrary (.int 3) { count := 1, attempts := 60 } = .ok shorter ∧
        shorter.expressions = synthesis.expressions.take 1 := by
  have succeeds : (synthesize sampleLibrary (.int 3)
      { count := 2, attempts := 50 }).toOption.isSome = true := by
    decide +kernel
  cases outcome : synthesize sampleLibrary (.int 3) { count := 2, attempts := 50 } with
  | ok synthesis =>
      obtain ⟨shorter, found, taken, -⟩ :=
        synthesize_extends sampleLibrary (.int 3) { count := 2, attempts := 50 } synthesis outcome
          1 60 (by decide) (by decide) (by decide)
      exact ⟨synthesis, shorter, rfl, found, taken⟩
  | error fault =>
      rw [outcome] at succeeds
      cases succeeds

end FormulaGrid.Variant
