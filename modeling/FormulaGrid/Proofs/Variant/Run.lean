import FormulaGrid.Proofs.Variant.Candidates
import FormulaGrid.Proofs.Variant.Findings

/-!
Contract: what a search has found when it has paid for some steps.

Owns:
- the texts that steps propose (`Steps.texts`);
- a run that ends with a progress after some paid steps (`EndsAfter`) and one that the
  budget ends (`RunsOutAfter`);
- a run of steps ends in one of these ways (`yields_searchSteps_tracks`).

The induction is on the steps that are left. Its invariant is that the progress tracks the
texts considered so far, that these do not suffice, and that the budget knows how many
notations they have given.
-/

namespace FormulaGrid.Variant

/-- The texts that `count` steps propose, from the one with the given index on. -/
def Steps.texts (steps : Steps) (index count : Nat) : List String :=
  (steps.candidates index count).map Candidate.text

theorem Steps.texts_zero (steps : Steps) (index : Nat) : steps.texts index 0 = [] :=
  rfl

theorem Steps.texts_succ (steps : Steps) (index count : Nat) :
    steps.texts index (count + 1) =
      (steps.proposal index).toList.map Candidate.text ++ steps.texts (index + 1) count := by
  rw [texts, candidates_succ, List.map_append]
  rfl

theorem Steps.texts_prefix
    (steps : Steps)
    (index : Nat)
    {fewer count : Nat}
    (atMost : fewer ≤ count) :
    steps.texts index fewer <+: steps.texts index count :=
  (steps.candidates_prefix index atMost).map _

theorem Steps.texts_append_left
    (second : Steps)
    {first : Steps}
    {count : Nat}
    (atMost : count ≤ first.count) :
    (first.append second).texts 0 count = first.texts 0 count :=
  congrArg (List.map _) (candidates_append_left second atMost)

theorem Steps.texts_append_add (first second : Steps) (count : Nat) :
    (first.append second).texts 0 (first.count + count) =
      first.texts 0 first.count ++ second.texts 0 count := by
  unfold texts
  rw [candidates_append_add, List.map_append]

theorem Steps.texts_ofTexts (pattern : Pattern) (texts : List String) (count : Nat) :
    (Steps.ofTexts pattern texts).texts 0 count = texts.take count := by
  rw [Steps.texts, candidates_ofTexts, List.map_map]
  exact List.map_id _

section

variable (functions : Elementary) (goal : Goal)

/-- How many different notations of the target there are among texts. -/
def Goal.findings (texts : List String) : Nat :=
  (goal.finds functions texts).length

/-- A run that has ended after some paid steps: with the last notation wanted, and not
before, or with the last step and too few notations. -/
structure EndsAfter
    (steps : Steps)
    (index remaining : Nat)
    (considered : List String)
    (budget : Budget)
    (found : Budget × Progress)
    (taken : Nat) :
    Prop where
  within : taken ≤ remaining
  spent : found.1.spent = budget.spent + taken
  affordable : (found.1.spent : Int) ≤ budget.limit
  tracks : found.2.Tracks functions goal (considered ++ steps.texts index taken)
  notBefore : ∀ fewer < taken,
    goal.findings functions (considered ++ steps.texts index fewer) < goal.count
  stops : goal.findings functions (considered ++ steps.texts index taken) = goal.count ∨
    taken = remaining ∧
      goal.findings functions (considered ++ steps.texts index taken) < goal.count

/-- A run that could not pay for one step more, and had too few notations up to there. The
fault names them. -/
structure RunsOutAfter
    (steps : Steps)
    (index remaining : Nat)
    (considered : List String)
    (budget : Budget)
    (fault : Fault)
    (taken : Nat) :
    Prop where
  within : taken < remaining
  spent : ((budget.spent + taken : Nat) : Int) = budget.limit
  notBefore : ∀ fewer ≤ taken,
    goal.findings functions (considered ++ steps.texts index fewer) < goal.count
  named : fault = (Fault.search (.exhausted budget.limit budget.target
    (goal.findings functions (considered ++ steps.texts index taken)) budget.requested)).reported

end

section

variable {functions : Elementary} {goal : Goal} {steps : Steps} {index remaining taken : Nat}
  {considered : List String} {budget later : Budget}

/-- What is considered first is the proposal of the first step. -/
theorem considered_succ (count : Nat) :
    considered ++ steps.texts index (count + 1) =
      (considered ++ (steps.proposal index).toList.map Candidate.text) ++
        steps.texts (index + 1) count := by
  rw [Steps.texts_succ, List.append_assoc]

theorem notBefore_succ
    (tooFew : goal.findings functions considered < goal.count)
    {count : Nat}
    (notBefore : ∀ fewer < count,
      goal.findings functions
        ((considered ++ (steps.proposal index).toList.map Candidate.text) ++
          steps.texts (index + 1) fewer) < goal.count) :
    ∀ fewer < count + 1,
      goal.findings functions (considered ++ steps.texts index fewer) < goal.count := by
  intro fewer less
  cases fewer with
  | zero => rwa [Steps.texts_zero, List.append_nil]
  | succ fewer =>
      rw [considered_succ]
      exact notBefore fewer (Nat.lt_of_succ_lt_succ less)

/-- A run behind a paid step is a run that begins with this step. -/
theorem EndsAfter.succ
    {found : Budget × Progress}
    (ends : EndsAfter functions goal steps (index + 1) remaining
      (considered ++ (steps.proposal index).toList.map Candidate.text) later found taken)
    (tooFew : goal.findings functions considered < goal.count)
    (spent : later.spent = budget.spent + 1)
    (limit : later.limit = budget.limit) :
    EndsAfter functions goal steps index (remaining + 1) considered budget found (taken + 1) where
  within := Nat.succ_le_succ ends.within
  spent := by rw [ends.spent, spent]; omega
  affordable := limit ▸ ends.affordable
  tracks := by rw [considered_succ]; exact ends.tracks
  notBefore := notBefore_succ tooFew ends.notBefore
  stops := by
    rw [considered_succ]
    exact ends.stops.imp_right fun last => ⟨congrArg (· + 1) last.1, last.2⟩

theorem RunsOutAfter.succ
    {fault : Fault}
    (runsOut : RunsOutAfter functions goal steps (index + 1) remaining
      (considered ++ (steps.proposal index).toList.map Candidate.text) later fault taken)
    (tooFew : goal.findings functions considered < goal.count)
    (spent : later.spent = budget.spent + 1)
    (same : later.limit = budget.limit ∧ later.target = budget.target ∧
      later.requested = budget.requested) :
    RunsOutAfter functions goal steps index (remaining + 1) considered budget fault
      (taken + 1) where
  within := Nat.succ_lt_succ runsOut.within
  spent := by
    rw [← same.1, ← runsOut.spent, spent]
    congr 1
    omega
  notBefore fewer atMost :=
    notBefore_succ tooFew (fun fewer less => runsOut.notBefore fewer (Nat.le_of_lt_succ less))
      fewer (Nat.lt_succ_of_le atMost)
  named := by
    rw [considered_succ, ← same.1, ← same.2.1, ← same.2.2]
    exact runsOut.named

/-- So the outcome behind a paid step is that of a run that begins with it. -/
theorem yields_behind_step
    {Allowed : Fault → Prop}
    {outcome : Except Fault (Budget × Progress)}
    (behind : Yields
      (fun found => ∃ taken, EndsAfter functions goal steps (index + 1) remaining
        (considered ++ (steps.proposal index).toList.map Candidate.text) later found taken)
      (fun fault => Allowed fault ∨ ∃ taken,
        RunsOutAfter functions goal steps (index + 1) remaining
          (considered ++ (steps.proposal index).toList.map Candidate.text) later fault taken)
      outcome)
    (tooFew : goal.findings functions considered < goal.count)
    (spent : later.spent = budget.spent + 1)
    (same : later.limit = budget.limit ∧ later.target = budget.target ∧
      later.requested = budget.requested) :
    Yields
      (fun found => ∃ taken,
        EndsAfter functions goal steps index (remaining + 1) considered budget found taken)
      (fun fault => Allowed fault ∨ ∃ taken,
        RunsOutAfter functions goal steps index (remaining + 1) considered budget fault taken)
      outcome := by
  refine behind.mono ?_ ?_
  · rintro found ⟨taken, ends⟩
    exact ⟨taken + 1, ends.succ tooFew spent same.1⟩
  · rintro fault (allowed | ⟨taken, runsOut⟩)
    · exact .inl allowed
    · exact .inr ⟨taken + 1, runsOut.succ tooFew spent same⟩

end

section

variable {functions : Elementary} {goal : Goal}

/-- A run of steps ends after some of them, or runs out of budget. Other faults come from
the test of a proposal, or from the making of its expression. -/
theorem yields_searchSteps_tracks
    {Allowed : Fault → Prop}
    {steps : Steps}
    (testable : steps.All fun text => Yields (fun _ => True) Allowed
      (verify functions text (.float goal.target) goal.tolerance))
    (makes : steps.All fun text => text ≠ zeroCell → ∀ note,
      Yields (fun made => made.text = text) Allowed (Expression.synthesize text note))
    (index remaining : Nat)
    (budget : Budget)
    {considered : List String}
    {progress : Progress}
    (tracks : progress.Tracks functions goal considered)
    (tooFew : goal.findings functions considered < goal.count)
    (produced : budget.produced = goal.findings functions considered)
    (affordable : (budget.spent : Int) ≤ budget.limit) :
    Yields
      (fun found => ∃ taken,
        EndsAfter functions goal steps index remaining considered budget found taken)
      (fun fault => Allowed fault ∨ ∃ taken,
        RunsOutAfter functions goal steps index remaining considered budget fault taken)
      (searchSteps functions goal steps index remaining budget progress) := by
  have none : considered ++ steps.texts index 0 = considered := List.append_nil _
  induction remaining generalizing index budget considered progress with
  | zero =>
      exact ⟨0, Nat.le_refl 0, rfl, affordable, by rwa [none],
        fun _ less => absurd less (Nat.not_lt_zero _), .inr ⟨rfl, by rwa [none]⟩⟩
  | succ remaining inductionHypothesis =>
      unfold searchSteps Budget.spend
      by_cases spentUp : budget.limit ≤ (budget.spent : Int)
      · rw [if_pos spentUp]
        refine .inr ⟨0, Nat.succ_pos _, Int.le_antisymm affordable spentUp, ?_, ?_⟩
        · intro fewer atMost
          rwa [Nat.le_zero.mp atMost, none]
        · rw [none, ← produced]
          rfl
      · rw [if_neg spentUp]
        dsimp only
        have paidAffordable : ((budget.spent + 1 : Nat) : Int) ≤ budget.limit := by omega
        cases proposed : steps.proposal index with
        | none =>
            have same :
                considered ++ (steps.proposal index).toList.map Candidate.text = considered := by
              rw [proposed]
              exact List.append_nil _
            have rest := inductionHypothesis (index + 1)
              { budget with spent := budget.spent + 1 } tracks tooFew produced paidAffordable
              (List.append_nil _)
            rw [← same] at rest
            exact yields_behind_step rest tooFew rfl ⟨rfl, rfl, rfl⟩
        | some candidate =>
            have same :
                considered ++ (steps.proposal index).toList.map Candidate.text =
                  considered ++ [candidate.text] := by
              rw [proposed]
              rfl
            have considers := tracks.yields_consider (testable index candidate proposed)
              fun nonzero => makes index candidate proposed nonzero (some candidate.pattern.label)
            refine Yields.bind (considers.mono (fun _ => id) fun _ => .inl)
              fun next nextTracks => ?_
            have behind : (considered ++ [candidate.text]) ++ steps.texts (index + 1) 0 =
                considered ++ [candidate.text] :=
              List.append_nil _
            split
            next reached =>
              -- The run behind this step takes no further one.
              have ends : EndsAfter functions goal steps (index + 1) remaining
                  (considered ++ [candidate.text]) { budget with spent := budget.spent + 1 }
                  ({ budget with spent := budget.spent + 1, produced := next.accepted.length },
                    next) 0 :=
                ⟨Nat.zero_le _, rfl, paidAffordable, by rwa [behind],
                  fun _ less => absurd less (Nat.not_lt_zero _),
                  .inl (by rw [behind]; exact nextTracks.reached_iff.mp reached)⟩
              rw [← same] at ends
              exact ⟨1, ends.succ tooFew rfl rfl⟩
            next notReached =>
              have oneMore : (goal.finds functions (considered ++ [candidate.text])).length ≤ _ :=
                Goal.length_finds_concat_le considered candidate.text
              have stillTooFew :
                  goal.findings functions (considered ++ [candidate.text]) < goal.count := by
                rw [nextTracks.reached_iff] at notReached
                unfold Goal.findings at tooFew ⊢
                omega
              have rest := inductionHypothesis (index + 1)
                { budget with spent := budget.spent + 1, produced := next.accepted.length }
                nextTracks stillTooFew (congrArg Int.ofNat nextTracks.length_accepted)
                paidAffordable behind
              rw [← same] at rest
              exact yields_behind_step rest tooFew rfl ⟨rfl, rfl, rfl⟩

end

end FormulaGrid.Variant
