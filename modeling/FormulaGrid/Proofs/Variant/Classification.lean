import FormulaGrid.Proofs.Variant.Cost
import FormulaGrid.Proofs.Variant.Refinement

/-!
Contract: which requests are answered, and why the others are not.

Owns:
- the first step with which the notations suffice (`Goal.IsFirstSufficient`);
- the test of a text of the catalog or of a family is never interrupted
  (`yields_search_documented`), and a request has the faults of requests only
  (`yields_synthesize_float`);
- what a search with too few notations says (`Goal.shortfall`), and that its fault is that, or
  that it cannot be written (`Goal.IsFailure.eq_search`, `eq_overlong_of_synthesize`);
- the classification of requests by that step, the number of steps and the attempts
  (`synthesize_classified`);
- the zero cell is no notation, although it may be verified, and a count that is too long to
  be written is not named by the fault of a search (`synthesize_zeroCell_not_counted`).
-/

namespace FormulaGrid.Variant

section

variable (functions : Elementary) (goal : Goal) (includeAdvanced : Bool) (steps : Steps)

/-- The step with which there are as many different notations as wanted, those of the pool
being counted first. It is zero if the pool has enough. -/
structure Goal.IsFirstSufficient (first : Nat) : Prop where
  within : first ≤ steps.count
  enough : goal.count ≤ goal.foundAfter functions includeAdvanced steps first
  notBefore : ∀ fewer < first,
    goal.foundAfter functions includeAdvanced steps fewer < goal.count

/-- What a search with too few notations says: there are too few in all if the attempts pay
for all steps, and else the attempts are used up. -/
def Goal.shortfall (attempts : Nat) : SearchFault :=
  let found := goal.foundAfter functions includeAdvanced steps (min attempts steps.count)
  if steps.count ≤ attempts then
    .insufficient (.float goal.target) found goal.count
  else
    .exhausted attempts (.float goal.target) found goal.count

end

section

variable {functions : Elementary} {goal : Goal} {includeAdvanced : Bool} {steps : Steps}

section

variable {attempts : Nat}

@[simp]
theorem Goal.requested_shortfall :
    (goal.shortfall functions includeAdvanced steps attempts).requested = goal.count := by
  unfold Goal.shortfall
  dsimp only
  split <;> rfl

@[simp]
theorem Goal.produced_shortfall :
    (goal.shortfall functions includeAdvanced steps attempts).produced =
      goal.foundAfter functions includeAdvanced steps (min attempts steps.count) := by
  unfold Goal.shortfall
  dsimp only
  split <;> rfl

/-- The shortfall tells of too few notations just if the attempts pay for all steps. -/
theorem Goal.shortfall_insufficient_iff :
    (∃ produced requested, goal.shortfall functions includeAdvanced steps attempts =
      .insufficient (.float goal.target) produced requested) ↔ steps.count ≤ attempts := by
  unfold Goal.shortfall
  by_cases all : steps.count ≤ attempts <;> simp [all]

/-- It tells of attempts that are used up just if they do not. -/
theorem Goal.shortfall_exhausted_iff :
    (∃ limit produced requested, goal.shortfall functions includeAdvanced steps attempts =
      .exhausted limit (.float goal.target) produced requested) ↔ ¬ steps.count ≤ attempts := by
  unfold Goal.shortfall
  by_cases all : steps.count ≤ attempts <;> simp [all]

end

theorem Goal.IsAnswer.isFirstSufficient
    {attempts : Nat}
    {synthesis : Synthesis}
    (answer : goal.IsAnswer functions includeAdvanced steps attempts synthesis) :
    goal.IsFirstSufficient functions includeAdvanced steps synthesis.attempts :=
  ⟨answer.within, answer.enough, answer.notBefore⟩

/-- With fewer notations than wanted after some steps, the first sufficient step comes
later. -/
theorem Goal.IsFirstSufficient.lt_of_tooFew
    {first paid : Nat}
    (isFirst : goal.IsFirstSufficient functions includeAdvanced steps first)
    (tooFew : goal.foundAfter functions includeAdvanced steps paid < goal.count) :
    paid < first := by
  by_contra atMost
  have more : goal.foundAfter functions includeAdvanced steps first ≤ _ :=
    Goal.foundAfter_mono includeAdvanced steps (Nat.not_lt.mp atMost)
  exact absurd (Nat.lt_of_le_of_lt (Nat.le_trans isFirst.enough more) tooFew) (Nat.lt_irrefl _)

section

variable {attempts : Nat} {fault : Fault}
  (failure : goal.IsFailure functions includeAdvanced steps attempts fault)

include failure

/-- A failure has found too few notations with the steps that were paid for. -/
theorem Goal.IsFailure.tooFew :
    goal.foundAfter functions includeAdvanced steps (min attempts steps.count) < goal.count := by
  cases failure with
  | insufficient all tooFew => rwa [Nat.min_eq_right all]
  | exhausted unaffordable tooFew => rwa [Nat.min_eq_left (Nat.le_of_lt unaffordable)]

/-- A failure has neither enough notations in the pool nor a sufficient step that it could
pay for. -/
theorem Goal.IsFailure.not_answered :
    ¬ (goal.count ≤ goal.foundAfter functions includeAdvanced steps 0 ∨
      ∃ first, goal.IsFirstSufficient functions includeAdvanced steps first ∧
        first ≤ attempts) := by
  rintro (enough | ⟨first, isFirst, inTime⟩)
  · have more : goal.foundAfter functions includeAdvanced steps 0 ≤ _ :=
      Goal.foundAfter_mono includeAdvanced steps (Nat.zero_le (min attempts steps.count))
    exact absurd failure.tooFew (Nat.not_lt.mpr (Nat.le_trans enough more))
  · exact absurd (isFirst.lt_of_tooFew failure.tooFew)
      (Nat.not_lt.mpr (Nat.le_min.mpr ⟨inTime, isFirst.within⟩))

/-- So there are too few notations in all just if it could pay for all steps. -/
theorem Goal.IsFailure.insufficient_iff :
    ((¬ ∃ first, goal.IsFirstSufficient functions includeAdvanced steps first) ∧
        ¬ goal.count ≤ goal.foundAfter functions includeAdvanced steps 0 ∧
        steps.count ≤ attempts) ↔
      steps.count ≤ attempts := by
  refine ⟨fun short => short.2.2, fun all =>
    ⟨?_, fun enough => failure.not_answered (.inl enough), all⟩⟩
  rintro ⟨first, isFirst⟩
  exact failure.not_answered (.inr ⟨first, isFirst, Nat.le_trans isFirst.within all⟩)

/-- The fault of a failure is that of the shortfall, as it is reported. -/
theorem Goal.IsFailure.fault_eq :
    fault = (Fault.search (goal.shortfall functions includeAdvanced steps attempts)).reported := by
  unfold Goal.shortfall
  cases failure with
  | insufficient all tooFew => rw [if_pos all, Nat.min_eq_right all]
  | exhausted unaffordable tooFew =>
      rw [if_neg (Nat.not_le.mpr unaffordable), Nat.min_eq_left (Nat.le_of_lt unaffordable)]

/-- If the number of steps and the count that is wanted can be written, so can all integers
of the shortfall: the attempts are among them only if they are fewer than the steps, and what
has been found is less than what is wanted. -/
theorem Goal.IsFailure.eq_search
    (stepsWritable : Numeral.isWritable steps.count = true)
    (countWritable : Numeral.isWritable goal.count = true) :
    fault = .search (goal.shortfall functions includeAdvanced steps attempts) := by
  have tooFew := failure.tooFew
  refine failure.fault_eq.trans (Fault.reported_of_writable fun value member => ?_)
  rw [isWritable_iff, Int.natAbs_natCast] at stepsWritable countWritable
  rw [isWritable_iff]
  unfold Fault.integers Goal.shortfall at member
  dsimp only at member
  split at member
  next all =>
    rcases List.mem_pair.mp member with rfl | rfl
    · exact Nat.lt_trans tooFew countWritable
    · exact countWritable
  next unaffordable =>
    rcases List.mem_cons.mp member with rfl | member
    · exact Nat.lt_trans (Nat.not_le.mp unaffordable) stepsWritable
    · rcases List.mem_pair.mp member with rfl | rfl
      · exact Nat.lt_trans tooFew countWritable
      · exact countWritable

/-- If the count that is wanted cannot be written, that is the fault in place of the
shortfall, which names it in any case. -/
theorem Goal.IsFailure.eq_overlong
    (overlong : ¬ Numeral.isWritable goal.count = true) :
    fault = .argument .overlongInteger := by
  refine failure.fault_eq.trans (if_neg fun writable => overlong ?_)
  refine List.all_eq_true.mp writable _ ?_
  unfold Fault.integers Goal.shortfall
  dsimp only
  split <;> simp [SearchFault.integers]

end

theorem shortSuperscripts_of_mem_pool
    {target : Number}
    {expression : Expression}
    (member : expression ∈ standardCatalog.poolForTarget target includeAdvanced) :
    ShortSuperscripts expression.text.toList := by
  have entry : expression ∈ standardCatalog.entries := by
    unfold Catalog.poolForTarget Catalog.identityPool at member
    unfold Catalog.entries
    grind
  have brief : ∀ entry ∈ standardCatalog.entries,
      entry.text.toList.length ≤ longestSuperscript := by
    decide
  exact .of_length_le (brief expression entry)

/-- The test of a text with short superscripts has an outcome. -/
theorem yields_verify
    (documented : functions.Documented)
    {tolerance : Number}
    (usable : tolerance.IsTolerance)
    {text : String}
    (short : ShortSuperscripts text.toList)
    (float : Float) :
    Yields (fun _ => True) (fun _ => False) (verify functions text (.float float) tolerance) := by
  have converted : (Number.float float).toFloat? = some float := rfl
  have evaluates := yields_evaluate documented short
  unfold verify
  cases evaluated : evaluate functions text with
  | ok value =>
      rw [check_of_value usable converted evaluated]
      trivial
  | error fault =>
      rw [evaluated] at evaluates
      obtain ⟨cause, rfl⟩ := evaluates
      rw [check_of_fault usable evaluated]
      trivial

/-- With a double as the tolerance, this may be refused. -/
theorem yields_verify_float
    (documented : functions.Documented)
    (tolerance : Float)
    {text : String}
    (short : ShortSuperscripts text.toList)
    (float : Float) :
    Yields (fun _ => True) (fun fault => fault = .argument (.unfitTolerance (.float tolerance)))
      (verify functions text (.float float) (.float tolerance)) := by
  by_cases usable : (Number.float tolerance).IsTolerance
  · exact (yields_verify documented usable short float).mono (fun _ => id) nofun
  · rw [verify_of_refused (requireTolerance_of_not_isTolerance usable)]
    rfl

/-- The texts that a search tests are those of the catalog and of the steps, and an
expression can be made for each of them. So what its tests yield is what it yields. -/
theorem yields_search_of_verify
    {Allowed : Fault → Prop}
    (formed : stepsOf factorialRatioBound (.float goal.target) Pattern.all = .ok steps)
    (proposals : steps.All IsProposal)
    (verifies : ∀ text : String, ShortSuperscripts text.toList →
      Yields (fun _ => True) Allowed
        (verify functions text (.float goal.target) goal.tolerance))
    (attempts : Nat) :
    Yields (goal.IsAnswer functions includeAdvanced steps attempts)
      (fun fault => Allowed fault ∨ goal.IsFailure functions includeAdvanced steps attempts fault)
      (search functions goal includeAdvanced attempts) := by
  apply yields_search_tracks formed
  · intro expression member
    exact verifies expression.text (shortSuperscripts_of_mem_pool member)
  · intro index candidate proposed
    exact verifies candidate.text
      ((proposals index candidate proposed).shortSuperscripts (by decide))
  · intro index candidate proposed nonzero note
    obtain ⟨made, same, named⟩ :=
      (proposals index candidate proposed).exists_synthesize nonzero note
    rw [same]
    exact named

/-- With a documented library and a usable tolerance there are no other faults. -/
theorem yields_search_documented
    (documented : functions.Documented)
    (usable : goal.tolerance.IsTolerance)
    (formed : stepsOf factorialRatioBound (.float goal.target) Pattern.all = .ok steps)
    (proposals : steps.All IsProposal)
    (attempts : Nat) :
    Yields (goal.IsAnswer functions includeAdvanced steps attempts)
      (goal.IsFailure functions includeAdvanced steps attempts)
      (search functions goal includeAdvanced attempts) := by
  have run : Yields (goal.IsAnswer functions includeAdvanced steps attempts) _
      (search functions goal includeAdvanced attempts) :=
    yields_search_of_verify formed proposals
      (fun text short => yields_verify documented usable short goal.target) attempts
  exact run.mono (fun _ => id) fun _ failure => failure.resolve_left id

end

/-- The fault refuses an argument, or says why a search has no answer. -/
def IsRequestFault (fault : Fault) : Prop :=
  (∃ cause : ArgumentFault, fault = .argument cause) ∨ ∃ cause : SearchFault, fault = .search cause

theorem isRequestFault_argument (cause : ArgumentFault) :
    IsRequestFault (Fault.argument cause).reported :=
  .inl ((Fault.argument cause).reported_cases.elim (⟨_, ·⟩) (⟨_, ·⟩))

theorem isRequestFault_search (cause : SearchFault) :
    IsRequestFault (Fault.search cause).reported :=
  (Fault.search cause).reported_cases.elim (fun same => .inr ⟨_, same⟩) fun same => .inl ⟨_, same⟩

/-- A request with a double as its tolerance has no other faults, whatever it asks for. -/
theorem yields_synthesize_float
    {functions : Elementary}
    (documented : functions.Documented)
    {target : Datum}
    {float : Float}
    (isTarget : requireTarget target = .ok float)
    {request : Request}
    {tolerance : Float}
    (isFloat : request.tolerance = .float tolerance) :
    Yields (fun _ => True) IsRequestFault (synthesize functions target request) := by
  by_cases counted : 1 ≤ request.count
  case neg =>
    unfold synthesize requireCount
    rw [isTarget, if_pos (Int.not_le.mp counted)]
    exact isRequestFault_argument _
  case pos =>
  by_cases affordable : 1 ≤ request.attempts
  case neg =>
    unfold synthesize requireCount
    rw [isTarget, if_neg (Int.not_lt.mpr counted)]
    dsimp only [bind, Except.bind]
    rw [if_pos (Int.not_le.mp affordable)]
    exact isRequestFault_argument _
  case pos =>
  have finite : (request.goal float).target.isFinite = true :=
    isFinite_of_requireTarget isTarget
  obtain ⟨steps, formed, proposals, -⟩ := exists_steps finite
  have verifies (text : String) (short : ShortSuperscripts text.toList) :
      Yields (fun _ => True)
        (fun fault => fault = .argument (.unfitTolerance (.float tolerance)))
        (verify functions text (.float (request.goal float).target)
          (request.goal float).tolerance) := by
    show Yields _ _ (verify functions text (.float float) request.tolerance)
    rw [isFloat]
    exact yields_verify_float documented tolerance short float
  have run : Yields (fun _ => True) _ (search functions (request.goal float)
      request.includeAdvanced request.attempts.toNat) :=
    (yields_search_of_verify formed proposals verifies request.attempts.toNat).imp
      fun _ _ => trivial
  rw [synthesize_eq_search functions isTarget counted affordable]
  refine run.mono (fun _ => id) fun fault => ?_
  rintro (refused | failure)
  · exact .inl ⟨_, refused⟩
  · rw [failure.fault_eq]
    exact isRequestFault_search _

/-- A request for too many notations to write down how many has no other fault than that. -/
theorem eq_overlong_of_synthesize
    {functions : Elementary}
    (documented : functions.Documented)
    {target : Datum}
    {float : Float}
    (isTarget : requireTarget target = .ok float)
    (request : Request)
    (usable : request.tolerance.IsTolerance)
    (counted : 1 ≤ request.count)
    (affordable : 1 ≤ request.attempts)
    (overlong : ¬ Numeral.isWritable request.count = true)
    {fault : Fault}
    (failed : synthesize functions target request = .error fault) :
    fault = .argument .overlongInteger := by
  have finite : (request.goal float).target.isFinite = true :=
    isFinite_of_requireTarget isTarget
  obtain ⟨steps, formed, proposals, -⟩ := exists_steps finite
  have run : Yields _
      ((request.goal float).IsFailure functions request.includeAdvanced steps
        request.attempts.toNat) _ :=
    yields_search_documented documented usable formed proposals request.attempts.toNat
  rw [synthesize_eq_search functions isTarget counted affordable] at failed
  rw [failed] at run
  have wanted : (((request.goal float).count : Nat) : Int) = request.count :=
    Int.toNat_of_nonneg (by omega)
  rw [← wanted] at overlong
  exact run.eq_overlong overlong

/-- Which requests are answered, and why the others are not. Let the notations be the
different verified texts other than the zero cell, those of the catalog first and then those
that the steps propose. A request is answered if the catalog has as many notations as
wanted, or if the step with which there are as many comes within the attempts. There are
too few notations if there is no such step and the attempts pay for all steps. Otherwise the
attempts are used up. Either fault names the count that was requested and the notations
found with the steps that were paid for, which are fewer. A count with too many digits for a
numeral cannot be named: where either fault would, that is the fault. -/
theorem synthesize_classified
    (functions : Elementary)
    (documented : functions.Documented)
    (target : Datum)
    (float : Float)
    (isTarget : requireTarget target = .ok float)
    (request : Request)
    (usable : request.tolerance.IsTolerance)
    (counted : 1 ≤ request.count)
    (affordable : 1 ≤ request.attempts) :
    ∃ steps : Steps,
      stepsOf factorialRatioBound (.float float) Pattern.all = .ok steps ∧
        let goal := request.goal float
        let found := goal.foundAfter functions request.includeAdvanced steps
        let isFirst := goal.IsFirstSufficient functions request.includeAdvanced steps
        let answered := goal.count ≤ found 0 ∨ ∃ first, isFirst first ∧ first ≤ request.attempts
        let tooFew :=
          (¬ ∃ first, isFirst first) ∧ ¬ goal.count ≤ found 0 ∧ steps.count ≤ request.attempts
        ((∃ synthesis, synthesize functions target request = .ok synthesis) ↔ answered) ∧
          (Numeral.isWritable request.count = true →
            ((∃ produced requested, synthesize functions target request =
              .error (.search (.insufficient (.float float) produced requested))) ↔ tooFew) ∧
            ((∃ limit produced requested, synthesize functions target request =
              .error (.search (.exhausted limit (.float float) produced requested))) ↔
                ¬ answered ∧ ¬ tooFew) ∧
            ∀ fault, synthesize functions target request = .error fault →
              ∃ cause : SearchFault, fault = .search cause ∧
                cause.requested = request.count ∧
                cause.produced = found (min request.attempts.toNat steps.count) ∧
                cause.produced < request.count) ∧
          (¬ Numeral.isWritable request.count = true →
            ∀ fault, synthesize functions target request = .error fault →
              fault = .argument .overlongInteger) := by
  have finite : (request.goal float).target.isFinite = true :=
    isFinite_of_requireTarget isTarget
  obtain ⟨steps, formed, proposals, -⟩ := exists_steps finite
  refine ⟨steps, formed, ?_⟩
  have run : Yields
      ((request.goal float).IsAnswer functions request.includeAdvanced steps
        request.attempts.toNat)
      ((request.goal float).IsFailure functions request.includeAdvanced steps
        request.attempts.toNat) _ :=
    yields_search_documented documented usable formed proposals request.attempts.toNat
  have wanted : (((request.goal float).count : Nat) : Int) = request.count :=
    Int.toNat_of_nonneg (by omega)
  have paid : ((request.attempts.toNat : Nat) : Int) = request.attempts :=
    Int.toNat_of_nonneg (by omega)
  have tooLong (overlong : ¬ Numeral.isWritable request.count = true) (fault : Fault) :
      synthesize functions target request = .error fault → fault = .argument .overlongInteger :=
    eq_overlong_of_synthesize documented isTarget request usable counted affordable overlong
  rw [synthesize_eq_search functions isTarget counted affordable] at tooLong ⊢
  dsimp only
  cases outcome : search functions (request.goal float) request.includeAdvanced
      request.attempts.toNat with
  | ok synthesis =>
      rw [outcome] at run
      have isFirst := run.isFirstSufficient
      have within := run.affordable
      refine ⟨iff_of_true ⟨synthesis, rfl⟩ (.inr ⟨_, isFirst, by omega⟩), fun _ =>
        ⟨iff_of_false ?_ fun tooFew => tooFew.1 ⟨_, isFirst⟩,
          iff_of_false ?_ fun other => other.1 (.inr ⟨_, isFirst, by omega⟩), nofun⟩,
        outcome ▸ tooLong⟩
      · rintro ⟨produced, requested, same⟩
        cases same
      · rintro ⟨limit, produced, requested, same⟩
        cases same
  | error fault =>
      rw [outcome] at run
      have notAnswered := run.not_answered
      have tooFew := run.insufficient_iff
      rw [← paid]
      simp only [Int.ofNat_le, tooFew, Except.error.injEq]
      refine ⟨iff_of_false nofun notAnswered, fun writable => ?_, fun overlong other same =>
        tooLong overlong other (outcome.trans (congrArg Except.error same))⟩
      rw [← wanted] at writable
      cases run.eq_search (isWritable_count_of_stepsOf formed) writable
      simp only [Fault.search.injEq]
      refine ⟨Goal.shortfall_insufficient_iff,
        Goal.shortfall_exhausted_iff.trans (and_iff_right notAnswered).symm, ?_⟩
      rintro _ rfl
      refine ⟨_, rfl, Goal.requested_shortfall.trans wanted, Goal.produced_shortfall, ?_⟩
      rw [Goal.produced_shortfall, ← wanted]
      exact Int.ofNat_lt.mpr run.tooFew

/-- A library that is exact at the arguments of the formulas for zero, and whose first power
of a number is this number. -/
def exactLibrary : Elementary where
  sin _ := .ok 0.0
  cos argument := .ok (if argument == circleConstant / 2.0 then 0.0 else 1.0)
  tan _ := .ok 0.0
  exp _ := .ok 1.0
  ln argument := .ok (if argument == 1.0 then 0.0 else 1.0)
  log2 _ := .ok 0.0
  log10 _ := .ok 0.0
  pow base exponent := .ok (if exponent == 1.0 then base else 1.0)

theorem exactLibrary_documented : exactLibrary.Documented where
  sin _ _ := ⟨_, rfl⟩
  cos _ _ := ⟨_, rfl⟩
  tan _ _ := ⟨_, rfl⟩
  log10 _ _ _ := ⟨_, rfl⟩
  ln _ _ _ := ⟨_, rfl⟩
  lnZero := sampleLibrary_documented.lnZero
  root _ _ _ _ _ _ := ⟨_, rfl⟩

/-- A request with one attempt is answered just if its first step is sufficient. It is not,
so the fault names the 15 notations requested and fewer that have been found. -/
theorem synthesize_classified_zero :
    ∃ steps : Steps,
      requireTarget (.float 0.0) = .ok 0.0 ∧
        exactLibrary.Documented ∧
        defaultTolerance.IsTolerance ∧
        Numeral.isWritable 15 = true ∧
        stepsOf factorialRatioBound (.float 0.0) Pattern.all = .ok steps ∧
        ((∃ synthesis, synthesize exactLibrary (.float 0.0) { count := 15, attempts := 1 } =
            .ok synthesis) ↔
          15 ≤ (Request.goal { count := 15, attempts := 1 } 0.0).foundAfter exactLibrary true
              steps 0 ∨
            ∃ first, (Request.goal { count := 15, attempts := 1 } 0.0).IsFirstSufficient
              exactLibrary true steps first ∧ (first : Int) ≤ 1) ∧
        ∃ cause : SearchFault,
          synthesize exactLibrary (.float 0.0) { count := 15, attempts := 1 } =
              .error (.search cause) ∧
            cause.requested = 15 ∧ cause.produced < 15 := by
  have isTarget : requireTarget (.float 0.0) = .ok 0.0 := by rfl
  have writable : Numeral.isWritable 15 = true := by decide
  obtain ⟨steps, formed, classified, named, -⟩ :=
    synthesize_classified exactLibrary exactLibrary_documented (.float 0.0) 0.0 isTarget
      { count := 15, attempts := 1 } isTolerance_defaultTolerance (by decide) (by decide)
  refine ⟨steps, isTarget, exactLibrary_documented, isTolerance_defaultTolerance, writable,
    formed, classified, ?_⟩
  obtain ⟨-, -, names⟩ := named writable
  have fails : (synthesize exactLibrary (.float 0.0) { count := 15, attempts := 1 }).toBool =
      false := by
    decide +kernel
  cases outcome : synthesize exactLibrary (.float 0.0) { count := 15, attempts := 1 } with
  | ok synthesis =>
      rw [outcome] at fails
      cases fails
  | error fault =>
      obtain ⟨cause, rfl, requested, -, fewer⟩ := names fault outcome
      exact ⟨cause, rfl, requested, fewer⟩

/-! ## The zero cell -/

/-- The different verified texts, the zero cell among them. -/
def Goal.verifiedTexts (functions : Elementary) (goal : Goal) (texts : List String) :
    List String :=
  (texts.filter (goal.verifies functions)).eraseDups

/-- The zero cell does not count, although it is verified. For the target zero the catalog
has 14 notations, and the zero cell is the first candidate: with it there are 15 different
verified texts after one step. Still one attempt is not enough for 15 notations. A count of
4301 digits cannot be written into the fault of a search, so there is another in its place. -/
theorem synthesize_zeroCell_not_counted :
    ∃ steps : Steps,
      stepsOf factorialRatioBound (.float 0.0) Pattern.all = .ok steps ∧
        (let goal : Goal := ⟨0.0, defaultTolerance, 15⟩
        (goal.verifiedTexts exactLibrary (goal.consideredAfter true steps 0)).length < 15 ∧
          15 ≤ (goal.verifiedTexts exactLibrary (goal.consideredAfter true steps 1)).length ∧
          ∃ target, synthesize exactLibrary (.float 0.0) { count := 15, attempts := 1 } =
            .error (.search (.exhausted 1 target 14 15))) ∧
        synthesize exactLibrary (.float 0.0)
            { count := 10 ^ Numeral.longest, attempts := 1 } =
          .error (.argument .overlongInteger) := by
  obtain ⟨steps, formed, -⟩ := exists_steps isFinite_zero
  have firstStep : (stepsOf factorialRatioBound (.float 0.0) Pattern.all).toOption.map
      (fun steps => steps.texts 0 1) = some ["0"] := by
    decide +kernel
  rw [formed] at firstStep
  have proposed : steps.texts 0 1 = ["0"] := Option.some.inj firstStep
  refine ⟨steps, formed, ⟨?_, ?_, ?_⟩, ?_⟩
  · rw [Goal.consideredAfter_zero]
    decide +kernel
  · unfold Goal.consideredAfter
    rw [proposed]
    decide +kernel
  · have exhausted : (match synthesize exactLibrary (.float 0.0) { count := 15, attempts := 1 } with
        | .error (.search (.exhausted 1 _ 14 15)) => true
        | _ => false) = true := by
      decide +kernel
    cases outcome : synthesize exactLibrary (.float 0.0) { count := 15, attempts := 1 } with
    | ok synthesis => rw [outcome] at exhausted; cases exhausted
    | error fault =>
        rw [outcome] at exhausted
        split at exhausted
        next same => cases same; exact ⟨_, rfl⟩
        next => cases exhausted
  · have isTarget : requireTarget (.float 0.0) = .ok 0.0 := by rfl
    have counted : (1 : Int) ≤ 10 ^ Numeral.longest := by decide +kernel
    have overlong : ¬ Numeral.isWritable (10 ^ Numeral.longest) = true := by decide +kernel
    have fails : (synthesize exactLibrary (.float 0.0)
        { count := 10 ^ Numeral.longest, attempts := 1 }).toBool = false := by
      decide +kernel
    cases outcome : synthesize exactLibrary (.float 0.0)
        { count := 10 ^ Numeral.longest, attempts := 1 } with
    | ok synthesis =>
        rw [outcome] at fails
        cases fails
    | error fault =>
        rw [eq_overlong_of_synthesize exactLibrary_documented isTarget
          { count := 10 ^ Numeral.longest, attempts := 1 } isTolerance_defaultTolerance counted
          (by decide) overlong outcome]

end FormulaGrid.Variant
