import FormulaGrid.Proofs.Variant.Run

/-!
Contract: what becomes of the notations that a search considers, one after the other.

Owns:
- a notation up for consideration (`Proposal`), and what becomes of it
  (`Progress.Considered`): it is turned down as a repetition or because it fails, or accepted;
- the consideration of several, none of them after the last one wanted (`Considers`): each is
  accepted or turned down (`Considers.total`), the accepted ones in their order
  (`Considers.exists_chosen`), and none comes too late (`Considers.notBefore`);
- if they are all different, none is turned down as a repetition (`Considers.of_distinct`);
- what the two loops of a search consider (`considers_of_searchPool`,
  `considers_of_searchSteps`).

All inductions over considerations are on `Considers`. The loops are opened only once.
-/

namespace FormulaGrid

namespace Variant

/-- A notation up for consideration: its text, and what is made of it if it is accepted. -/
structure Proposal where
  text : String
  expression : Except Fault Expression

/-- What is made of the notation has its text. -/
def Proposal.Named (proposal : Proposal) : Prop :=
  ∀ made, proposal.expression = .ok made → made.text = proposal.text

/-- A candidate is up for consideration. Its family becomes the note of the expression. -/
def Candidate.proposal (candidate : Candidate) : Proposal :=
  ⟨candidate.text, Expression.synthesize candidate.text (some candidate.pattern.label)⟩

theorem Candidate.named_proposal (candidate : Candidate) : candidate.proposal.Named :=
  fun _ => text_of_synthesize

end Variant

/-- A catalogued expression is up for consideration. -/
def Expression.proposal (expression : Expression) : Variant.Proposal :=
  ⟨expression.text, .ok expression⟩

theorem Expression.named_proposal (expression : Expression) : expression.proposal.Named := by
  intro made same
  cases same
  rfl

namespace Variant

section

variable (functions : Elementary) (goal : Goal)

/-- What becomes of a notation. -/
inductive Progress.Considered (proposal : Proposal) (progress : Progress) : Progress → Prop where
  | repeated
      (seen : proposal.text ∈ progress.seen) :
      Considered proposal progress
        ⟨progress.accepted, progress.seen, progress.rejected + 1⟩
  | failed
      (fresh : proposal.text ∉ progress.seen)
      (fails : goal.verifies functions proposal.text = false) :
      Considered proposal progress
        ⟨progress.accepted, proposal.text :: progress.seen, progress.rejected + 1⟩
  | accepted
      {made : Expression}
      (fresh : proposal.text ∉ progress.seen)
      (verified : goal.verifies functions proposal.text = true)
      (makes : proposal.expression = .ok made) :
      Considered proposal progress
        ⟨progress.accepted ++ [made], proposal.text :: progress.seen, progress.rejected⟩

/-- Notations are considered one after the other, each because there are not enough yet. -/
inductive Considers : Progress → List Proposal → Progress → Prop where
  | done (progress : Progress) : Considers progress [] progress
  | next
      {progress next later : Progress}
      {proposal : Proposal}
      {others : List Proposal}
      (notYet : ¬ progress.reached goal = true)
      (considered : progress.consider functions goal proposal.text proposal.expression = .ok next)
      (behind : Considers next others later) :
      Considers progress (proposal :: others) later

end

variable {functions : Elementary} {goal : Goal}

/-- A consideration ends in one of these ways. -/
theorem considered_of_consider
    {proposal : Proposal}
    {progress next : Progress}
    (considered : progress.consider functions goal proposal.text proposal.expression = .ok next) :
    progress.Considered functions goal proposal next := by
  unfold Progress.consider at considered
  split at considered
  next seen =>
    cases considered
    exact .repeated seen
  next fresh =>
    obtain ⟨agrees, verified, behind⟩ := exists_of_bind_eq_ok considered
    have isVerified : goal.verifies functions proposal.text = agrees := by
      unfold Goal.verifies
      rw [verified]
    cases agrees with
    | false =>
        cases behind
        exact .failed fresh isVerified
    | true =>
        obtain ⟨made, makes, same⟩ := exists_of_bind_eq_ok behind
        cases same
        exact .accepted fresh isVerified makes

namespace Considers

variable {progress later : Progress} {proposals : List Proposal}

/-- Each notation is either accepted or turned down. -/
theorem total (considers : Considers functions goal progress proposals later) :
    later.accepted.length + later.rejected =
      progress.accepted.length + progress.rejected + proposals.length := by
  induction considers with
  | done progress => rfl
  | next _ considered _ inductionHypothesis =>
      rw [inductionHypothesis, List.length_cons]
      cases considered_of_consider considered with
      | repeated => dsimp only; omega
      | failed => dsimp only; omega
      | accepted =>
          dsimp only
          rw [List.length_append, List.length_singleton]
          omega

/-- The accepted expressions are made of some of the notations, in their order. -/
theorem exists_chosen (considers : Considers functions goal progress proposals later) :
    ∃ (chosen : List Proposal) (made : List Expression),
      chosen.Sublist proposals ∧
        later.accepted = progress.accepted ++ made ∧
        chosen.map Proposal.expression = made.map .ok := by
  induction considers with
  | done progress => exact ⟨[], [], List.Sublist.refl _, (List.append_nil _).symm, rfl⟩
  | @next progress next later proposal others _ considered _ inductionHypothesis =>
      obtain ⟨chosen, made, among, accepted, makes⟩ := inductionHypothesis
      cases considered_of_consider considered with
      | repeated => exact ⟨chosen, made, among.cons _, accepted, makes⟩
      | failed => exact ⟨chosen, made, among.cons _, accepted, makes⟩
      | @accepted first _ _ isFirst =>
          refine ⟨proposal :: chosen, first :: made, among.cons_cons _, ?_, ?_⟩
          · rw [accepted, List.append_assoc, List.singleton_append]
          · rw [List.map_cons, List.map_cons, isFirst, makes]

/-- A progress that tracks what it has considered goes on to do so. -/
theorem tracks
    {before : List String}
    (considers : Considers functions goal progress proposals later)
    (named : ∀ proposal ∈ proposals, proposal.Named)
    (tracks : progress.Tracks functions goal before) :
    later.Tracks functions goal (before ++ proposals.map Proposal.text) := by
  induction considers generalizing before with
  | done progress => rwa [List.map_nil, List.append_nil]
  | @next progress next later proposal others _ considered _ inductionHypothesis =>
      obtain ⟨firstNamed, othersNamed⟩ := List.forall_mem_cons.mp named
      have anyTest : Yields (fun _ => True) (fun _ => True)
          (verify functions proposal.text (.float goal.target) goal.tolerance) :=
        (yields_self _).imp fun _ _ => trivial
      have makes (_ : proposal.text ≠ zeroCell) :
          Yields (fun made => made.text = proposal.text) (fun _ => True) proposal.expression :=
        (yields_self _).imp fun made => firstNamed made
      have rest := inductionHypothesis othersNamed
        ((tracks.yields_consider anyTest makes).of_ok considered)
      rwa [List.append_assoc] at rest

/-- Before each of the notations there were too few findings, and after the last there are not
too many. -/
theorem notBefore
    {before : List String}
    (considers : Considers functions goal progress proposals later)
    (named : ∀ proposal ∈ proposals, proposal.Named)
    (tracks : progress.Tracks functions goal before)
    (atMost : goal.findings functions before ≤ goal.count) :
    (∀ fewer < proposals.length,
      goal.findings functions (before ++ (proposals.take fewer).map Proposal.text) <
        goal.count) ∧
      goal.findings functions (before ++ proposals.map Proposal.text) ≤ goal.count := by
  induction considers generalizing before with
  | done progress =>
      refine ⟨fun fewer less => absurd less (Nat.not_lt_zero fewer), ?_⟩
      rwa [List.map_nil, List.append_nil]
  | @next progress next later proposal others notYet considered _ inductionHypothesis =>
      obtain ⟨firstNamed, othersNamed⟩ := List.forall_mem_cons.mp named
      have tooFew : goal.findings functions before < goal.count :=
        Nat.lt_of_le_of_ne atMost (mt tracks.reached_iff.mpr notYet)
      have oneMore : goal.findings functions (before ++ [proposal.text]) ≤ goal.count :=
        Nat.le_trans (Goal.length_finds_concat_le before proposal.text) tooFew
      have one : Considers functions goal progress [proposal] next :=
        .next notYet considered (.done next)
      have nextTracks :=
        one.tracks (List.forall_mem_singleton.mpr firstNamed) tracks
      obtain ⟨fewerThere, allThere⟩ := inductionHypothesis othersNamed nextTracks oneMore
      constructor
      · intro fewer less
        cases fewer with
        | zero => simpa using tooFew
        | succ fewer =>
            have rest := fewerThere fewer (Nat.lt_of_succ_lt_succ less)
            rwa [List.map_cons, List.map_nil, List.append_assoc] at rest
      · rwa [List.map_cons, List.map_nil, List.append_assoc] at allThere

/-- Different notations that are all new are turned down only because they fail. -/
theorem of_distinct
    (considers : Considers functions goal progress proposals later)
    (named : ∀ proposal ∈ proposals, proposal.Named)
    (distinct : (proposals.map Proposal.text).Nodup)
    (fresh : ∀ proposal ∈ proposals, proposal.text ∉ progress.seen) :
    Expression.texts later.accepted = Expression.texts progress.accepted ++
        (proposals.map Proposal.text).filter (goal.verifies functions) ∧
      later.rejected = progress.rejected +
        (proposals.map Proposal.text).countP (!goal.verifies functions ·) := by
  induction considers with
  | done progress => simp
  | @next progress next later proposal others _ considered _ inductionHypothesis =>
      obtain ⟨firstNamed, othersNamed⟩ := List.forall_mem_cons.mp named
      obtain ⟨firstFresh, othersFresh⟩ := List.forall_mem_cons.mp fresh
      obtain ⟨firstDistinct, othersDistinct⟩ := List.nodup_cons.mp distinct
      have stillFresh : ∀ other ∈ others, other.text ∉ proposal.text :: progress.seen := by
        intro other member inSeen
        rcases List.mem_cons.mp inSeen with same | earlier
        · exact firstDistinct (same ▸ List.mem_map_of_mem member)
        · exact othersFresh other member earlier
      cases considered_of_consider considered with
      | repeated seen => exact absurd seen firstFresh
      | failed _ fails =>
          obtain ⟨accepted, rejected⟩ := inductionHypothesis othersNamed othersDistinct stillFresh
          rw [accepted, rejected]
          simp [fails, Nat.add_assoc, Nat.add_comm 1]
      | @accepted made _ verified makes =>
          obtain ⟨accepted, rejected⟩ := inductionHypothesis othersNamed othersDistinct stillFresh
          rw [accepted, rejected]
          simp [verified, Expression.texts, firstNamed made makes]

end Considers

/-! ## The loops of a search -/

/-- A search of a pool considers its first entries, to the last one or to the last one wanted. -/
theorem considers_of_searchPool
    {pool : List Expression}
    {progress found : Progress}
    (searched : searchPool functions goal pool progress = .ok found) :
    ∃ entries, entries <+: pool ∧
      Considers functions goal progress (entries.map Expression.proposal) found ∧
      (found.reached goal = true ∨ entries = pool) := by
  induction pool generalizing progress with
  | nil =>
      cases searched
      exact ⟨[], List.prefix_refl _, .done _, .inr rfl⟩
  | cons expression others inductionHypothesis =>
      unfold searchPool at searched
      split at searched
      next reached =>
        cases searched
        exact ⟨[], List.nil_prefix, .done _, .inl reached⟩
      next notYet =>
        obtain ⟨next, considered, behind⟩ := exists_of_bind_eq_ok searched
        obtain ⟨entries, within, considers, stops⟩ := inductionHypothesis behind
        refine ⟨expression :: entries, List.prefix_cons_inj _ |>.mpr within,
          .next notYet considered considers, stops.imp_right fun all => ?_⟩
        rw [all]

/-- A run of steps considers the candidates of the steps that it pays for, to the last step or
to the last one wanted. -/
theorem considers_of_searchSteps
    {steps : Steps}
    {index remaining : Nat}
    {budget : Budget}
    {progress : Progress}
    {found : Budget × Progress}
    (notYet : ¬ progress.reached goal = true)
    (searched : searchSteps functions goal steps index remaining budget progress = .ok found) :
    ∃ taken ≤ remaining,
      found.1.spent = budget.spent + taken ∧
        Considers functions goal progress
          ((steps.candidates index taken).map Candidate.proposal) found.2 ∧
        (found.2.reached goal = true ∨ taken = remaining) := by
  induction remaining generalizing index budget progress with
  | zero =>
      cases searched
      exact ⟨0, Nat.le_refl 0, rfl, .done _, .inr rfl⟩
  | succ remaining inductionHypothesis =>
      unfold searchSteps at searched
      split at searched
      next => cases searched
      next paid isPaid =>
        obtain ⟨-, rfl⟩ := Budget.spend_eq_ok_iff.mp isPaid
        have counts (taken : Nat) :
            budget.spent + 1 + taken = budget.spent + (taken + 1) := by
          omega
        split at searched
        next proposed =>
          obtain ⟨taken, within, spent, considers, stops⟩ := inductionHypothesis notYet searched
          refine ⟨taken + 1, Nat.succ_le_succ within, spent.trans (counts taken), ?_,
            stops.imp_right (congrArg (· + 1))⟩
          rw [Steps.candidates_succ, proposed]
          exact considers
        next candidate proposed =>
          obtain ⟨next, considered, behind⟩ := exists_of_bind_eq_ok searched
          dsimp only at behind
          split at behind
          next reached =>
            cases behind
            refine ⟨1, Nat.succ_le_succ (Nat.zero_le _), rfl, ?_, .inl reached⟩
            rw [Steps.candidates_succ, proposed]
            exact .next notYet considered (.done next)
          next stillNotYet =>
            obtain ⟨taken, within, spent, considers, stops⟩ :=
              inductionHypothesis stillNotYet behind
            refine ⟨taken + 1, Nat.succ_le_succ within, spent.trans (counts taken), ?_,
              stops.imp_right (congrArg (· + 1))⟩
            rw [Steps.candidates_succ, proposed]
            exact .next notYet considered considers

end Variant

end FormulaGrid
