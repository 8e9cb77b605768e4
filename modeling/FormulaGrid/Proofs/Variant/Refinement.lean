import FormulaGrid.Proofs.Formula.Safety
import FormulaGrid.Proofs.Variant.Run

/-!
Contract: a search that is answered has found the first notations of its specification.

Owns:
- the texts that a search has considered when it has paid for some steps
  (`Goal.consideredAfter`);
- the two outcomes of a search, an answer (`Goal.IsAnswer`) or a fault that says why there is
  none (`Goal.IsFailure`), and that there is no third (`yields_search_tracks`);
- the answer to a request is the prefix of what there is to be found in the catalog and in
  all families (`synthesize_refines`).

The stages of the search and its early end are in the outcome only; the specification is a
filter over one list of texts.
-/

namespace FormulaGrid.Variant

section

variable (functions : Elementary) (goal : Goal)

/-- The texts of the pool, and those that the first steps propose. -/
def Goal.consideredAfter
    (includeAdvanced : Bool)
    (steps : Steps)
    (paid : Nat) :
    List String :=
  Expression.texts (standardCatalog.poolForTarget (.float goal.target) includeAdvanced) ++
    steps.texts 0 paid

/-- How many different notations there are among these texts. -/
def Goal.foundAfter (includeAdvanced : Bool) (steps : Steps) (paid : Nat) : Nat :=
  goal.findings functions (goal.consideredAfter includeAdvanced steps paid)

/-- An answer: the first notations there are to be found, as many as wanted, after no more
steps than these take. -/
structure Goal.IsAnswer
    (includeAdvanced : Bool)
    (steps : Steps)
    (attempts : Nat)
    (synthesis : Synthesis) :
    Prop where
  within : synthesis.attempts ≤ steps.count
  affordable : synthesis.attempts ≤ attempts
  notBefore : ∀ fewer < synthesis.attempts,
    goal.foundAfter functions includeAdvanced steps fewer < goal.count
  enough : goal.count ≤ goal.foundAfter functions includeAdvanced steps synthesis.attempts
  texts : Expression.texts synthesis.expressions =
    (goal.finds functions
      (goal.consideredAfter includeAdvanced steps synthesis.attempts)).take goal.count

/-- A failure: the steps or the attempts have come to an end with too few notations. -/
inductive Goal.IsFailure
    (includeAdvanced : Bool)
    (steps : Steps)
    (attempts : Nat) :
    Fault → Prop where
  | insufficient
      (affordable : steps.count ≤ attempts)
      (tooFew : goal.foundAfter functions includeAdvanced steps steps.count < goal.count) :
      IsFailure includeAdvanced steps attempts
        (Fault.search (.insufficient (.float goal.target)
          (goal.foundAfter functions includeAdvanced steps steps.count) goal.count)).reported
  | exhausted
      (unaffordable : attempts < steps.count)
      (tooFew : goal.foundAfter functions includeAdvanced steps attempts < goal.count) :
      IsFailure includeAdvanced steps attempts
        (Fault.search (.exhausted attempts (.float goal.target)
          (goal.foundAfter functions includeAdvanced steps attempts) goal.count)).reported

end

section

variable {functions : Elementary} {goal : Goal}

theorem Goal.consideredAfter_zero (includeAdvanced : Bool) (steps : Steps) :
    goal.consideredAfter includeAdvanced steps 0 =
      Expression.texts (standardCatalog.poolForTarget (.float goal.target) includeAdvanced) :=
  List.append_nil _

theorem Goal.consideredAfter_prefix
    (includeAdvanced : Bool)
    (steps : Steps)
    {fewer paid : Nat}
    (atMost : fewer ≤ paid) :
    goal.consideredAfter includeAdvanced steps fewer <+:
      goal.consideredAfter includeAdvanced steps paid :=
  (List.prefix_append_right_inj _).mpr (steps.texts_prefix 0 atMost)

theorem Goal.foundAfter_mono
    (includeAdvanced : Bool)
    (steps : Steps)
    {fewer paid : Nat}
    (atMost : fewer ≤ paid) :
    goal.foundAfter functions includeAdvanced steps fewer ≤
      goal.foundAfter functions includeAdvanced steps paid :=
  Goal.length_finds_mono (Goal.consideredAfter_prefix includeAdvanced steps atMost)

theorem Goal.IsAnswer.length_expressions
    {includeAdvanced : Bool}
    {steps : Steps}
    {attempts : Nat}
    {synthesis : Synthesis}
    (answer : goal.IsAnswer functions includeAdvanced steps attempts synthesis) :
    synthesis.expressions.length = goal.count := by
  have lengths := congrArg List.length answer.texts
  rw [Expression.texts, List.length_map, List.length_take] at lengths
  exact lengths.trans (Nat.min_eq_left answer.enough)

/-- The notations of an answer are different. -/
theorem Goal.IsAnswer.nodup_texts
    {includeAdvanced : Bool}
    {steps : Steps}
    {attempts : Nat}
    {synthesis : Synthesis}
    (answer : goal.IsAnswer functions includeAdvanced steps attempts synthesis) :
    (Expression.texts synthesis.expressions).Nodup := by
  rw [answer.texts]
  exact (Goal.nodup_finds _).sublist (List.take_sublist _ _)

/-- The specification may look at all steps. The answer is settled by those paid for. -/
theorem Goal.IsAnswer.texts_eq_of_all
    {includeAdvanced : Bool}
    {steps : Steps}
    {attempts : Nat}
    {synthesis : Synthesis}
    (answer : goal.IsAnswer functions includeAdvanced steps attempts synthesis) :
    Expression.texts synthesis.expressions =
      (goal.finds functions
        (goal.consideredAfter includeAdvanced steps steps.count)).take goal.count := by
  obtain ⟨more, same⟩ : goal.consideredAfter includeAdvanced steps _ <+: _ :=
    Goal.consideredAfter_prefix includeAdvanced steps answer.within
  obtain ⟨rest, longer⟩ : goal.finds functions _ <+: _ :=
    Goal.finds_append (goal.consideredAfter includeAdvanced steps synthesis.attempts) more
  rw [answer.texts, ← same, ← longer]
  exact (List.take_append_of_le_length answer.enough).symm

/-- Each expression of an answer is a notation. -/
theorem Goal.IsAnswer.accepts
    {includeAdvanced : Bool}
    {steps : Steps}
    {attempts : Nat}
    {synthesis : Synthesis}
    (answer : goal.IsAnswer functions includeAdvanced steps attempts synthesis)
    {expression : Expression}
    (member : expression ∈ synthesis.expressions) :
    expression.text ≠ zeroCell ∧ goal.Accepts functions expression.text := by
  have inTexts : expression.text ∈ Expression.texts synthesis.expressions :=
    List.mem_map_of_mem member
  rw [answer.texts] at inTexts
  exact (Goal.mem_finds.mp (List.mem_of_mem_take inTexts)).2

/-- What has been found with as many notations as wanted begins what there is to be found
among more texts. -/
theorem Goal.eq_take_finds
    {found : List String}
    {considered longer : List String}
    (tracked : found = goal.finds functions considered)
    (exactly : (goal.finds functions considered).length = goal.count)
    (within : considered <+: longer) :
    found = (goal.finds functions longer).take goal.count := by
  obtain ⟨more, rfl⟩ := within
  rw [tracked, ← exactly]
  exact List.prefix_iff_eq_take.mp (Goal.finds_append considered more)

section

variable {includeAdvanced : Bool} {steps : Steps} {attempts taken : Nat} {produced : Int}
  {progress : Progress}

/-- A pool that has enough notations is an answer. No step is paid for. -/
theorem Goal.isAnswer_of_pool
    {considered : List String}
    (tracks : progress.Tracks functions goal considered)
    (within : considered <+:
      Expression.texts (standardCatalog.poolForTarget (.float goal.target) includeAdvanced))
    (reached : progress.reached goal = true) :
    goal.IsAnswer functions includeAdvanced steps attempts
      ⟨goal.target, progress.accepted, progress.accepted.length, 0, progress.rejected⟩ := by
  have exactly := tracks.reached_iff.mp reached
  have whole : goal.consideredAfter includeAdvanced steps 0 = _ :=
    Goal.consideredAfter_zero includeAdvanced steps
  refine ⟨Nat.zero_le _, Nat.zero_le _, fun _ less => absurd less (Nat.not_lt_zero _), ?_, ?_⟩
  · show goal.count ≤ goal.foundAfter functions includeAdvanced steps 0
    rw [Goal.foundAfter, whole, ← exactly]
    exact Goal.length_finds_mono within
  · show Expression.texts progress.accepted = _
    rw [whole]
    exact Goal.eq_take_finds tracks.accepted exactly within

/-- So is what a run has found that stops with enough notations. -/
theorem EndsAfter.isAnswer
    {budget : Budget}
    (ends : EndsAfter functions goal steps 0 steps.count
      (Expression.texts (standardCatalog.poolForTarget (.float goal.target) includeAdvanced))
      ⟨attempts, .float goal.target, goal.count, 0, produced⟩ (budget, progress) taken)
    (reached : progress.reached goal = true)
    (fromCatalog : Nat) :
    goal.IsAnswer functions includeAdvanced steps attempts
      ⟨goal.target, progress.accepted, fromCatalog, budget.spent, progress.rejected⟩ := by
  have exactly := ends.tracks.reached_iff.mp reached
  have spent : budget.spent = taken := ends.spent.trans (Nat.zero_add _)
  have affordable : budget.spent ≤ attempts := Int.ofNat_le.mp ends.affordable
  subst spent
  exact ⟨ends.within, affordable, ends.notBefore, exactly.ge,
    Goal.eq_take_finds ends.tracks.accepted exactly (List.prefix_refl _)⟩

/-- A run that stops with fewer notations has taken all steps. -/
theorem EndsAfter.isFailure
    {budget : Budget}
    (ends : EndsAfter functions goal steps 0 steps.count
      (Expression.texts (standardCatalog.poolForTarget (.float goal.target) includeAdvanced))
      ⟨attempts, .float goal.target, goal.count, 0, produced⟩ (budget, progress) taken)
    (notReached : ¬ progress.reached goal = true) :
    goal.IsFailure functions includeAdvanced steps attempts
      (Fault.search
        (.insufficient (.float goal.target) progress.accepted.length goal.count)).reported := by
  obtain ⟨last, few⟩ := ends.stops.resolve_left (mt ends.tracks.reached_iff.mpr notReached)
  have spent : budget.spent = taken := ends.spent.trans (Nat.zero_add _)
  have affordable : budget.spent ≤ attempts := Int.ofNat_le.mp ends.affordable
  have length : progress.accepted.length = _ := ends.tracks.length_accepted
  rw [length]
  rw [last] at spent few ⊢
  exact .insufficient (spent ▸ affordable) few

/-- A run that the budget ends has used the attempts up. -/
theorem RunsOutAfter.isFailure
    {fault : Fault}
    (runsOut : RunsOutAfter functions goal steps 0 steps.count
      (Expression.texts (standardCatalog.poolForTarget (.float goal.target) includeAdvanced))
      ⟨attempts, .float goal.target, goal.count, 0, produced⟩ fault taken) :
    goal.IsFailure functions includeAdvanced steps attempts fault := by
  have spent : ((0 + taken : Nat) : Int) = attempts := runsOut.spent
  have same : taken = attempts := by omega
  subst same
  rw [runsOut.named]
  exact .exhausted runsOut.within (runsOut.notBefore taken (Nat.le_refl _))

end

/-- A search ends with an answer or with a failure. Other faults come from the test of a
text, or from the making of an expression. -/
theorem yields_search_tracks
    {Allowed : Fault → Prop}
    {includeAdvanced : Bool}
    {steps : Steps}
    (formed : stepsOf factorialRatioBound (.float goal.target) Pattern.all = .ok steps)
    (poolTestable : ∀ expression ∈
      standardCatalog.poolForTarget (.float goal.target) includeAdvanced,
      Yields (fun _ => True) Allowed
        (verify functions expression.text (.float goal.target) goal.tolerance))
    (testable : steps.All fun text => Yields (fun _ => True) Allowed
      (verify functions text (.float goal.target) goal.tolerance))
    (makes : steps.All fun text => text ≠ zeroCell → ∀ note,
      Yields (fun made => made.text = text) Allowed (Expression.synthesize text note))
    (attempts : Nat) :
    Yields (goal.IsAnswer functions includeAdvanced steps attempts)
      (fun fault => Allowed fault ∨ goal.IsFailure functions includeAdvanced steps attempts fault)
      (search functions goal includeAdvanced attempts) := by
  have pooled := yields_searchPool_tracks _ Progress.tracks_start (Nat.zero_le _) poolTestable
  unfold search
  refine Yields.bind (pooled.mono (fun _ => id) fun _ => .inl) ?_
  rintro catalogued ⟨ahead, within, tracks, atMost, stopped⟩
  rw [List.nil_append] at within stopped
  dsimp only
  cases reached : catalogued.reached goal with
  | true =>
      show Yields _ _ (if catalogued.reached goal = true then _ else _)
      rw [if_pos reached]
      exact Goal.isAnswer_of_pool tracks within reached
  | false =>
      have all := stopped.resolve_left (by rw [reached]; exact Bool.false_ne_true)
      subst all
      have tooFew : goal.findings functions (Expression.texts
          (standardCatalog.poolForTarget (.float goal.target) includeAdvanced)) < goal.count := by
        have notReached := mt tracks.reached_iff.mpr (by rw [reached]; exact Bool.false_ne_true)
        exact Nat.lt_of_le_of_ne atMost notReached
      rw [formed]
      show Yields _ _ (searchSteps functions goal steps 0 steps.count
        ⟨attempts, .float goal.target, goal.count, 0, catalogued.accepted.length⟩ catalogued >>= _)
      have run := yields_searchSteps_tracks testable makes 0 steps.count
        ⟨attempts, .float goal.target, goal.count, 0, catalogued.accepted.length⟩ tracks tooFew
        (congrArg Int.ofNat tracks.length_accepted) (Int.natCast_nonneg _)
      refine Yields.bind (run.mono (fun _ => id) ?_) ?_
      · rintro fault (allowed | ⟨taken, runsOut⟩)
        · exact .inl allowed
        · exact .inr runsOut.isFailure
      · rintro ⟨budget, progress⟩ ⟨taken, ends⟩
        show Yields _ _ (if progress.reached goal = true then _ else _)
        by_cases enough : progress.reached goal = true
        · rw [if_pos enough]
          exact ends.isAnswer enough catalogued.accepted.length
        · rw [if_neg enough]
          exact .inr (ends.isFailure enough)

/-- Whatever its other faults may be, a search that is answered has the answer of its
specification. -/
theorem isAnswer_of_search
    {includeAdvanced : Bool}
    {steps : Steps}
    (formed : stepsOf factorialRatioBound (.float goal.target) Pattern.all = .ok steps)
    {attempts : Nat}
    {synthesis : Synthesis}
    (answered : search functions goal includeAdvanced attempts = .ok synthesis) :
    goal.IsAnswer functions includeAdvanced steps attempts synthesis := by
  have anyTest (text : String) : Yields (fun _ => True) (fun _ => True)
      (verify functions text (.float goal.target) goal.tolerance) :=
    (yields_self _).imp fun _ _ => trivial
  have anyMaking (text : String) (_ : text ≠ zeroCell) (note : Option String) :
      Yields (fun made => made.text = text) (fun _ => True) (Expression.synthesize text note) :=
    (yields_self _).imp fun _ => text_of_synthesize
  have outcome : Yields (goal.IsAnswer functions includeAdvanced steps attempts) _
      (search functions goal includeAdvanced attempts) :=
    yields_search_tracks formed (fun expression _ => anyTest expression.text)
      (fun _ candidate _ => anyTest candidate.text)
      (fun _ candidate _ => anyMaking candidate.text) attempts
  exact outcome.of_ok answered

end

/-! ## Requests -/

/-- What is looked for when a request is made for a target. -/
def Request.goal (request : Request) (target : Float) : Goal :=
  ⟨target, request.tolerance, request.count.toNat⟩

theorem Request.goal_target (request : Request) (target : Float) :
    (request.goal target).target = target :=
  rfl

theorem isFinite_of_requireTarget
    {target : Datum}
    {float : Float}
    (isTarget : requireTarget target = .ok float) :
    float.isFinite = true := by
  unfold requireTarget at isTarget
  split at isTarget
  next =>
    split at isTarget
    next fits => cases isTarget; exact fits
    next => cases isTarget
  next =>
    split at isTarget
    next finite => cases isTarget; exact finite
    next => cases isTarget
  next => cases isTarget

theorem requireTarget_of_isFinite {target : Float} (finite : target.isFinite = true) :
    requireTarget (.float target) = .ok target :=
  if_pos finite

theorem requireTarget_of_not_isFinite {target : Float} (notFinite : ¬ target.isFinite = true) :
    requireTarget (.float target) = .error (.argument (.targetNotFinite (.float target))) :=
  if_neg notFinite

/-- A request that is not refused is a search. -/
theorem synthesize_eq_search
    (functions : Elementary)
    {target : Datum}
    {float : Float}
    (isTarget : requireTarget target = .ok float)
    {request : Request}
    (counted : 1 ≤ request.count)
    (affordable : 1 ≤ request.attempts) :
    synthesize functions target request =
      search functions (request.goal float) request.includeAdvanced request.attempts.toNat := by
  unfold synthesize requireCount
  rw [isTarget, if_neg (Int.not_lt.mpr counted)]
  dsimp only [bind, Except.bind]
  rw [if_neg (Int.not_lt.mpr affordable)]
  rfl

/-- An answered request has not been refused. -/
theorem usable_of_synthesize
    {functions : Elementary}
    {target : Datum}
    {float : Float}
    (isTarget : requireTarget target = .ok float)
    {request : Request}
    {synthesis : Synthesis}
    (answered : synthesize functions target request = .ok synthesis) :
    1 ≤ request.count ∧ 1 ≤ request.attempts := by
  unfold synthesize requireCount at answered
  rw [isTarget] at answered
  by_cases few : request.count < 1
  · rw [if_pos few] at answered
    cases answered
  · rw [if_neg few] at answered
    by_cases poor : request.attempts < 1
    · dsimp only [bind, Except.bind] at answered
      rw [if_pos poor] at answered
      cases answered
    · omega

/-- An answered request has as many notations as it asks for, and they are different. -/
theorem distinct_of_synthesize
    {functions : Elementary}
    {target : Datum}
    {float : Float}
    (isTarget : requireTarget target = .ok float)
    {request : Request}
    {synthesis : Synthesis}
    (answered : synthesize functions target request = .ok synthesis) :
    0 < synthesis.expressions.length ∧
      (synthesis.expressions.length : Int) = request.count ∧
      (Expression.texts synthesis.expressions).Nodup := by
  have finite : (request.goal float).target.isFinite = true :=
    isFinite_of_requireTarget isTarget
  obtain ⟨steps, formed, -, -⟩ := exists_steps finite
  obtain ⟨counted, affordable⟩ := usable_of_synthesize isTarget answered
  rw [synthesize_eq_search functions isTarget counted affordable] at answered
  have answer : (request.goal float).IsAnswer functions request.includeAdvanced steps
      request.attempts.toNat synthesis :=
    isAnswer_of_search formed answered
  have length : synthesis.expressions.length = request.count.toNat := answer.length_expressions
  exact ⟨by omega, by omega, answer.nodup_texts⟩

/-- A search equals its specification. The answer to a request consists of the first
notations, as many as requested, of the list that is left when from the texts of the pool
and of all candidates the zero cell, the texts that are not verified and all repetitions are
taken away. So they are different, verified and fit for a cell; and of every candidate that
may be accepted an expression can be made. -/
theorem synthesize_refines
    (functions : Elementary)
    (target : Datum)
    (float : Float)
    (isTarget : requireTarget target = .ok float)
    (request : Request)
    (synthesis : Synthesis)
    (answered : synthesize functions target request = .ok synthesis) :
    Expression.texts synthesis.expressions =
        ((request.goal float).finds functions
          (Expression.texts
              (standardCatalog.poolForTarget (.float float) request.includeAdvanced) ++
            (candidates (.float float)).map Candidate.text)).take request.count.toNat ∧
      (synthesis.expressions.length : Int) = request.count ∧
      (Expression.texts synthesis.expressions).Nodup ∧
      (∀ expression ∈ synthesis.expressions,
        verify functions expression.text (.float float) request.tolerance = .ok true ∧
          expression.text ≠ zeroCell ∧
          ∀ character ∈ expression.text.toList, Text.isBlank character = false) ∧
      ∀ candidate ∈ candidates (.float float),
        verify functions candidate.text (.float float) request.tolerance = .ok true →
        candidate.text ≠ zeroCell →
          ∃ made, Expression.synthesize candidate.text (some candidate.pattern.label) =
            .ok made := by
  have finite : (request.goal float).target.isFinite = true :=
    isFinite_of_requireTarget isTarget
  obtain ⟨steps, formed, proposals, all⟩ := exists_steps finite
  rw [Request.goal_target] at all
  obtain ⟨counted, affordable⟩ := usable_of_synthesize isTarget answered
  rw [synthesize_eq_search functions isTarget counted affordable] at answered
  have answer : (request.goal float).IsAnswer functions request.includeAdvanced steps
      request.attempts.toNat synthesis :=
    isAnswer_of_search formed answered
  have whole : (request.goal float).consideredAfter request.includeAdvanced steps steps.count =
      Expression.texts (standardCatalog.poolForTarget (.float float) request.includeAdvanced) ++
        (candidates (.float float)).map Candidate.text := by
    rw [← all]
    rfl
  have exactly := answer.texts_eq_of_all
  refine ⟨whole ▸ exactly, ?_, ?_, fun expression member => ?_,
    fun candidate member _ nonzero => ?_⟩
  · have length : synthesis.expressions.length = request.count.toNat := answer.length_expressions
    omega
  · rw [exactly]
    exact (Goal.nodup_finds _).sublist (List.take_sublist _ _)
  · obtain ⟨nonzero, verified⟩ := answer.accepts member
    refine ⟨verified, nonzero, fun character inText => ?_⟩
    have noBlank := expression.isCellText.2.1
    rw [List.any_eq_false] at noBlank
    exact Bool.eq_false_iff.mpr (noBlank character inText)
  · rw [← all] at member
    obtain ⟨made, same, -⟩ := (proposals.of_mem_candidates member).exists_synthesize nonzero
      (some candidate.pattern.label)
    exact ⟨made, same⟩

/-- Two notations of three are the first two candidates. -/
theorem synthesize_refines_three :
    ∃ synthesis : Synthesis,
      requireTarget (.int 3) = .ok 3.0 ∧
        synthesize sampleLibrary (.int 3) { count := 2 } = .ok synthesis ∧
        Expression.texts synthesis.expressions =
          ((Request.goal { count := 2 } 3.0).finds sampleLibrary
            (Expression.texts (standardCatalog.poolForTarget (.float 3.0) true) ++
              (candidates (.float 3.0)).map Candidate.text)).take 2 := by
  have isTarget : requireTarget (.int 3) = .ok 3.0 := by rfl
  have succeeds : (synthesize sampleLibrary (.int 3) { count := 2 }).toOption.isSome = true := by
    decide +kernel
  cases outcome : synthesize sampleLibrary (.int 3) { count := 2 } with
  | ok synthesis =>
      exact ⟨synthesis, isTarget, rfl,
        (synthesize_refines sampleLibrary (.int 3) 3.0 isTarget { count := 2 } synthesis
          outcome).1⟩
  | error fault =>
      rw [outcome] at succeeds
      cases succeeds

end FormulaGrid.Variant
