import FormulaGrid.Proofs.Variant.Considered
import FormulaGrid.Proofs.Variant.Extension
import FormulaGrid.Proofs.Variant.FactorPairs

/-!
Contract: the books of an answered search balance.

Owns:
- the divisors that the products try in vain within a number of attempts (`idleDivisors`): with
  the candidates they make up the attempts (`length_candidates_add_idleDivisors`);
- what an answered search has accepted and turned down, and what it has paid for
  (`synthesize_accounts`).

The books are kept by `Considers`; the attempts are those of the steps that propose nothing, and
only products have such steps.
-/

namespace FormulaGrid

theorem Catalog.poolForTarget_sublist
    (catalog : Catalog)
    (target : Number)
    (includeAdvanced : Bool) :
    (catalog.poolForTarget target includeAdvanced).Sublist catalog.entries := by
  have unity : catalog.unity.Sublist (catalog.unity ++ catalog.zero) :=
    List.sublist_append_left _ _
  have zero : catalog.zero.Sublist (catalog.unity ++ catalog.zero) :=
    List.sublist_append_right _ _
  unfold poolForTarget identityPool entries
  split
  next =>
    split
    next => exact unity.append (List.Sublist.refl _)
    next => exact unity.trans (List.sublist_append_left _ _)
  next =>
    split
    next => exact zero.trans (List.sublist_append_left _ _)
    next => exact List.nil_sublist _

/-- Only one and zero have a pool. -/
theorem Catalog.poolForTarget_eq_nil
    (catalog : Catalog)
    {target : Number}
    (notOne : target.equalsInt 1 = false)
    (notZero : target.equalsInt 0 = false)
    (includeAdvanced : Bool) :
    catalog.poolForTarget target includeAdvanced = [] := by
  unfold poolForTarget
  rw [notOne, notZero]
  rfl

namespace Variant

/-! ## Attempts that propose nothing -/

/-- How many attempts it takes before the first divisor of a target is tried. -/
def costBeforeProducts (bound : Int) (target : Number) : Nat :=
  Pattern.parametric.cost bound target + Pattern.factorialRatio.cost bound target +
    Pattern.neutral.cost bound target

/-- How many divisors are tried with so many attempts. -/
def divisorsTried (bound : Int) (target : Number) (attempts : Nat) : Nat :=
  min (attempts - costBeforeProducts bound target) (Pattern.product.cost bound target)

/-- The divisors that are tried in vain with so many attempts. They count up from two. -/
def idleDivisors (bound : Int) (target : Number) (attempts : Nat) : List Nat :=
  match target.whole? with
  | some whole =>
      (List.range' 2 (divisorsTried bound target attempts)).filter fun divisor =>
        ¬ divisor ∣ whole.natAbs
  | none => []

theorem idleDivisors_of_not_whole
    (bound : Int)
    {target : Number}
    (notWhole : target.whole? = none)
    (attempts : Nat) :
    idleDivisors bound target attempts = [] := by
  unfold idleDivisors
  rw [notWhole]

section

variable {bound : Int} {target : Number} {steps : Steps}

/-- Each step of the products proposes a candidate or tries a divisor in vain. -/
theorem length_candidates_product
    (formed : Pattern.product.steps bound target = .ok steps)
    (attempts : Nat) :
    (steps.candidates 0 (divisorsTried bound target attempts)).length +
        (idleDivisors bound target attempts).length =
      divisorsTried bound target attempts := by
  have count := count_of_steps formed
  unfold idleDivisors
  rcases productSteps_cases formed with
    ⟨notWhole, rfl⟩ | ⟨whole, isWhole, ⟨small, rfl⟩ | ⟨large, rfl⟩⟩
  · have none : divisorsTried bound target attempts = 0 := by
      rw [divisorsTried, ← count]
      exact Nat.min_zero _
    rw [notWhole, none]
    rfl
  · have none : divisorsTried bound target attempts = 0 := by
      rw [divisorsTried, ← count]
      exact Nat.min_zero _
    rw [isWhole, none]
    rfl
  · rw [isWhole, candidates_product, List.length_map]
    have parts : (List.range' 2 (divisorsTried bound target attempts)).length = _ :=
      List.length_eq_length_filter_add (decide <| · ∣ whole.natAbs)
    rw [List.length_range'] at parts
    simpa using parts.symm

/-- A family that always proposes something proposes as many candidates as it gets attempts. -/
theorem length_candidates_append
    {pattern : Pattern}
    {first : Steps}
    (second : Steps)
    (formed : pattern.steps bound target = .ok first)
    (notProduct : pattern ≠ .product)
    (attempts : Nat) :
    ((first.append second).candidates 0 attempts).length =
      min attempts (pattern.cost bound target) +
        (second.candidates 0 (attempts - pattern.cost bound target)).length := by
  rw [Steps.candidates_append, List.length_append,
    (proposing_of_steps formed notProduct).length_candidates (Nat.min_le_right _ _),
    count_of_steps formed]

/-- The attempts of all families are the candidates that they propose and the divisors that are
tried in vain. -/
theorem length_candidates_add_idleDivisors
    (formed : stepsOf bound target Pattern.all = .ok steps)
    {attempts : Nat}
    (atMost : attempts ≤ steps.count) :
    (steps.candidates 0 attempts).length + (idleDivisors bound target attempts).length =
      attempts := by
  have total := count_of_stepsOf formed
  obtain ⟨parametric, _, isParametric, behindParametric, rfl⟩ := exists_of_stepsOf_cons formed
  obtain ⟨ratio, _, isRatio, behindRatio, rfl⟩ := exists_of_stepsOf_cons behindParametric
  obtain ⟨neutral, _, isNeutral, behindNeutral, rfl⟩ := exists_of_stepsOf_cons behindRatio
  obtain ⟨product, _, isProduct, behindProduct, rfl⟩ := exists_of_stepsOf_cons behindNeutral
  obtain ⟨sum, _, isSum, behindSum, rfl⟩ := exists_of_stepsOf_cons behindProduct
  cases behindSum
  have tried := length_candidates_product isProduct attempts
  unfold divisorsTried costBeforeProducts at tried
  rw [total] at atMost
  simp only [Pattern.all, List.map_cons, List.map_nil, List.sum_cons, List.sum_nil] at atMost
  rw [length_candidates_append _ isParametric (by decide),
    length_candidates_append _ isRatio (by decide),
    length_candidates_append _ isNeutral (by decide), Steps.candidates_append, List.length_append,
    count_of_steps isProduct, length_candidates_append _ isSum (by decide), Nat.sub_sub, Nat.sub_sub]
  have nothing (count : Nat) : (Steps.none.candidates 0 count).length = 0 := by
    simp [Steps.none, Steps.candidates]
  rw [nothing]
  omega

end

/-! ## What is accepted and turned down -/

/-- The expression is the candidate, with its family as a note. -/
structure Candidate.Becomes (candidate : Candidate) (expression : Expression) : Prop where
  text : expression.text = candidate.text
  kind : expression.kind = .synthesized
  note : expression.note = some candidate.pattern.label

theorem Candidate.becomes_of_made
    {candidate : Candidate}
    {made : Expression}
    (makes : candidate.proposal.expression = .ok made) :
    candidate.Becomes made := by
  refine ⟨candidate.named_proposal made makes, ?_, ?_⟩
  all_goals
    unfold Candidate.proposal Expression.synthesize Expression.define at makes
    dsimp only at makes
    split at makes
    · cases makes
    · split at makes
      · cases makes
      · split at makes
        · cases makes
        · cases makes
          rfl

section

variable {functions : Elementary} {goal : Goal}

/-- What the pool has given: some of the first entries, in their order. The others of these have
been turned down, and none of them was one too many. -/
structure PoolBooks
    (functions : Elementary)
    (goal : Goal)
    (pool entries : List Expression)
    (catalogued : Progress) :
    Prop where
  within : entries <+: pool
  notBefore : ∀ fewer < entries.length,
    goal.findings functions (Expression.texts (entries.take fewer)) < goal.count
  stops : goal.findings functions (Expression.texts entries) = goal.count ∨ entries = pool
  accepted : catalogued.accepted.Sublist entries
  rejected : catalogued.rejected = entries.length - catalogued.accepted.length

theorem exists_poolBooks
    {pool : List Expression}
    {catalogued : Progress}
    (pooled : searchPool functions goal pool Progress.start = .ok catalogued) :
    ∃ entries, PoolBooks functions goal pool entries catalogued ∧
      (catalogued.reached goal = true ∨ entries = pool) := by
  obtain ⟨entries, within, considers, stops⟩ := considers_of_searchPool pooled
  have named : ∀ proposal ∈ entries.map Expression.proposal, proposal.Named := by
    intro proposal member
    obtain ⟨expression, -, rfl⟩ := List.mem_map.mp member
    exact expression.named_proposal
  have textsOf (some : List Expression) :
      (some.map Expression.proposal).map Proposal.text = Expression.texts some :=
    List.map_map
  obtain ⟨fewer, -⟩ := considers.notBefore named Progress.tracks_start (Nat.zero_le _)
  have tracks := considers.tracks named Progress.tracks_start
  rw [textsOf, List.nil_append] at tracks
  obtain ⟨chosen, made, among, accepted, makes⟩ := considers.exists_chosen
  obtain ⟨chosen, inOrder, rfl⟩ := List.sublist_map_iff.mp among
  have same : chosen = made := by
    rw [List.map_map] at makes
    exact List.map_injective_iff.mpr (fun _ _ => Except.ok.inj) makes
  subst same
  have total := considers.total
  rw [List.length_map] at total
  refine ⟨entries, ⟨within, ?_, ?_, ?_, ?_⟩, stops⟩
  · intro count less
    have tooFew := fewer count (by rwa [List.length_map])
    rwa [← List.map_take, textsOf, List.nil_append] at tooFew
  · exact stops.imp_left tracks.reached_iff.mp
  · rw [accepted]
    exact inOrder
  · simp only [Progress.start, List.length_nil] at total
    omega

/-- What the families have given: some of the candidates that have been paid for, in their order.
The others have been turned down. -/
theorem exists_made
    {steps : Steps}
    {budget : Budget}
    {catalogued : Progress}
    {found : Budget × Progress}
    (notYet : ¬ catalogued.reached goal = true)
    (searched : searchSteps functions goal steps 0 steps.count budget catalogued = .ok found) :
    ∃ taken made,
      found.1.spent = budget.spent + taken ∧
        found.2.accepted = catalogued.accepted ++ made ∧
        found.2.rejected =
          catalogued.rejected + ((steps.candidates 0 taken).length - made.length) ∧
        (taken = 0 → found.2 = catalogued) ∧
        ∃ chosen : List Candidate, chosen.Sublist (steps.candidates 0 taken) ∧
          List.Forall₂ Candidate.Becomes chosen made := by
  obtain ⟨taken, -, spent, considers, -⟩ := considers_of_searchSteps notYet searched
  obtain ⟨chosen, made, among, accepted, makes⟩ := considers.exists_chosen
  obtain ⟨chosen, inOrder, rfl⟩ := List.sublist_map_iff.mp among
  have total := considers.total
  rw [List.length_map, accepted, List.length_append] at total
  have atMost : made.length ≤ (steps.candidates 0 taken).length := by
    have lengths := congrArg List.length makes
    rw [List.length_map, List.length_map, List.length_map] at lengths
    exact lengths ▸ inOrder.length_le
  refine ⟨taken, made, spent, accepted, by omega, ?_, chosen, inOrder, ?_⟩
  · rintro rfl
    cases considers
    rfl
  · rw [List.map_map] at makes
    have pairs : List.Forall₂ Eq (chosen.map (Proposal.expression ∘ Candidate.proposal))
        (made.map .ok) :=
      makes ▸ List.forall₂_refl _
    rw [List.forall₂_map_left_iff, List.forall₂_map_right_iff] at pairs
    exact pairs.imp fun _ _ => Candidate.becomes_of_made

/-- What an answered search has taken from the entries of the pool that it has considered, and
what it has made of the candidates that it has paid for. -/
structure Books
    (functions : Elementary)
    (goal : Goal)
    (pool entries : List Expression)
    (examined : List Candidate)
    (synthesis : Synthesis) :
    Prop where
  within : entries <+: pool
  notBefore : ∀ fewer < entries.length,
    goal.findings functions (Expression.texts (entries.take fewer)) < goal.count
  stops : goal.findings functions (Expression.texts entries) = goal.count ∨ entries = pool
  catalogued : (synthesis.expressions.take synthesis.fromCatalog).Sublist entries
  made : ∃ chosen : List Candidate, chosen.Sublist examined ∧
    List.Forall₂ Candidate.Becomes chosen (synthesis.expressions.drop synthesis.fromCatalog)
  fromCatalog : synthesis.fromCatalog ≤ synthesis.expressions.length
  rejected : synthesis.rejected = (entries.length - synthesis.fromCatalog) +
    (examined.length - synthesis.synthesized)
  unpaid : synthesis.attempts = 0 ↔ synthesis.fromCatalog = goal.count

theorem Stages.target_eq
    {includeAdvanced : Bool}
    {attempts : Nat}
    {synthesis : Synthesis}
    (stages : Stages functions goal includeAdvanced attempts synthesis) :
    synthesis.target = goal.target := by
  cases stages <;> rfl

theorem exists_books
    {includeAdvanced : Bool}
    {attempts : Nat}
    {steps : Steps}
    {synthesis : Synthesis}
    (formed : stepsOf factorialRatioBound (.float goal.target) Pattern.all = .ok steps)
    (stages : Stages functions goal includeAdvanced attempts synthesis) :
    ∃ entries, Books functions goal
      (standardCatalog.poolForTarget (.float goal.target) includeAdvanced) entries
      (steps.candidates 0 synthesis.attempts) synthesis := by
  generalize poolIs : standardCatalog.poolForTarget (.float goal.target) includeAdvanced = pool
  cases stages with
  | @pool catalogued pooled length =>
      rw [poolIs] at pooled
      obtain ⟨entries, books, -⟩ := exists_poolBooks pooled
      refine ⟨entries, books.within, books.notBefore, books.stops, ?_, ⟨[], ?_⟩, ?_, ?_, ?_⟩
      · dsimp only
        rw [List.take_length]
        exact books.accepted
      · dsimp only
        rw [List.drop_length]
        exact ⟨List.nil_sublist _, .nil⟩
      · exact Nat.le_refl _
      · dsimp only [Synthesis.synthesized]
        have nothing : (steps.candidates 0 0).length = 0 := rfl
        rw [books.rejected, nothing, Nat.zero_sub, Nat.add_zero]
      · exact ⟨fun _ => length, fun _ => rfl⟩
  | @families catalogued others found pooled notYet alsoFormed searched length =>
      rw [poolIs] at pooled
      cases formed.symm.trans alsoFormed
      have notReached : ¬ catalogued.reached goal = true := mt beq_iff_eq.mp notYet
      obtain ⟨entries, books, -⟩ := exists_poolBooks pooled
      obtain ⟨taken, made, spent, accepted, rejected, idle, chosen, inOrder, becomes⟩ :=
        exists_made notReached searched
      have paid : found.1.spent = taken := spent.trans (Nat.zero_add taken)
      have synthesized : found.2.accepted.length - catalogued.accepted.length = made.length := by
        rw [accepted, List.length_append, Nat.add_sub_cancel_left]
      refine ⟨entries, books.within, books.notBefore, books.stops, ?_, ⟨chosen, ?_, ?_⟩, ?_, ?_, ?_⟩
      · dsimp only
        rw [accepted, List.take_left]
        exact books.accepted
      · dsimp only
        rwa [paid]
      · dsimp only
        rwa [accepted, List.drop_left]
      · dsimp only
        rw [accepted, List.length_append]
        exact Nat.le_add_right _ _
      · dsimp only [Synthesis.synthesized]
        rw [rejected, synthesized, books.rejected, paid]
      · dsimp only
        refine ⟨fun none => absurd ?_ notYet, fun enough => absurd enough notYet⟩
        rw [← idle (paid.symm.trans none), length]

end

/-- The books of an answered search balance. Its first expressions come from the catalog: they
are some of the entries for the target, in their order. The others are some of the candidates,
in their order, each with its family as a note. Together they are as many as requested. All else
that has been considered has been turned down. Attempts have been made for the candidates that
were considered and for the divisors that were tried in vain up to there, no more of them than
allowed, and none just if the catalog was enough. In both stages nothing has been considered
after the last expression. So without divisors, which only integers have, an attempt leads to an
expression or is turned down. -/
theorem synthesize_accounts
    (functions : Elementary)
    (target : Datum)
    (request : Request)
    (synthesis : Synthesis)
    (answered : synthesize functions target request = .ok synthesis) :
    let number : Number := .float synthesis.target
    let goal := request.goal synthesis.target
    let pool := standardCatalog.poolForTarget number request.includeAdvanced
    ∃ (entries : List Expression) (steps : Steps),
      (pool.Sublist standardCatalog.entries ∧ entries <+: pool ∧
        (∀ fewer < entries.length,
          goal.findings functions (Expression.texts (entries.take fewer)) < goal.count) ∧
        (goal.findings functions (Expression.texts entries) = goal.count ∨ entries = pool)) ∧
      (stepsOf factorialRatioBound number Pattern.all = .ok steps ∧
        ∀ fewer < synthesis.attempts,
          goal.foundAfter functions request.includeAdvanced steps fewer < goal.count) ∧
      (synthesis.expressions.take synthesis.fromCatalog).Sublist entries ∧
      (∃ chosen : List Candidate,
        chosen.Sublist (steps.candidates 0 synthesis.attempts) ∧
          List.Forall₂ Candidate.Becomes chosen
            (synthesis.expressions.drop synthesis.fromCatalog)) ∧
      synthesis.fromCatalog ≤ synthesis.expressions.length ∧
      ((synthesis.fromCatalog + synthesis.synthesized : Nat) : Int) = request.count ∧
      synthesis.rejected = (entries.length - synthesis.fromCatalog) +
        ((steps.candidates 0 synthesis.attempts).length - synthesis.synthesized) ∧
      synthesis.attempts = (steps.candidates 0 synthesis.attempts).length +
        (idleDivisors factorialRatioBound number synthesis.attempts).length ∧
      (synthesis.attempts : Int) ≤ request.attempts ∧
      (synthesis.attempts = 0 ↔ (synthesis.fromCatalog : Int) = request.count) ∧
      ((∀ whole : Int, number.equalsInt whole = false) →
        synthesis.attempts = synthesis.synthesized + synthesis.rejected) := by
  obtain ⟨float, isTarget, -⟩ := exists_of_bind_eq_ok answered
  obtain ⟨counted, usable⟩ := usable_of_synthesize isTarget answered
  rw [synthesize_eq_search functions isTarget counted usable] at answered
  have stages := search_eq_ok_iff.mp answered
  have sameTarget : synthesis.target = float := stages.target_eq
  subst sameTarget
  have finite : (request.goal synthesis.target).target.isFinite = true :=
    isFinite_of_requireTarget isTarget
  obtain ⟨steps, formed, -⟩ := exists_steps finite
  have answer : (request.goal synthesis.target).IsAnswer functions request.includeAdvanced steps
      request.attempts.toNat synthesis :=
    isAnswer_of_search formed answered
  obtain ⟨entries, books⟩ := exists_books formed stages
  have attempts := length_candidates_add_idleDivisors formed answer.within
  have length : synthesis.expressions.length = request.count.toNat := answer.length_expressions
  have affordable := answer.affordable
  have fromCatalog := books.fromCatalog
  have total : synthesis.fromCatalog + synthesis.synthesized = request.count.toNat := by
    unfold Synthesis.synthesized
    omega
  refine ⟨entries, steps, ⟨Catalog.poolForTarget_sublist _ _ _, books.within, books.notBefore,
    books.stops⟩, ⟨formed, answer.notBefore⟩, books.catalogued, books.made, fromCatalog, by omega,
    books.rejected, attempts.symm, by omega, ?_, ?_⟩
  · rw [books.unpaid]
    show _ = request.count.toNat ↔ _
    omega
  · intro notWhole
    have none := Number.whole?_eq_none_iff.mpr notWhole
    have noEntry : entries = [] := by
      have within := books.within
      rw [Request.goal_target,
        Catalog.poolForTarget_eq_nil _ (notWhole 1) (notWhole 0)] at within
      exact List.prefix_nil.mp within
    have noneCatalogued : synthesis.fromCatalog = 0 := by
      have lengths := books.catalogued.length_le
      rw [noEntry, List.length_take, List.length_nil] at lengths
      omega
    have madeOfExamined :
        synthesis.synthesized ≤ (steps.candidates 0 synthesis.attempts).length := by
      obtain ⟨chosen, inOrder, becomes⟩ := books.made
      calc
        synthesis.synthesized = chosen.length := by rw [becomes.length_eq, List.length_drop]; rfl
        _ ≤ (steps.candidates 0 synthesis.attempts).length := inOrder.length_le
    have rejected := books.rejected
    rw [Request.goal_target, idleDivisors_of_not_whole _ none, List.length_nil,
      Nat.add_zero] at attempts
    rw [noEntry, List.length_nil, Nat.zero_sub, Nat.zero_add, attempts] at rejected
    rw [attempts] at madeOfExamined
    omega

/-- The books of two searches under a tolerance that only exact notations meet. For one, all 28
entries of the catalog are considered, one of which is rounded, and three candidates besides. For
fifteen two of 16 candidates are rounded, and one of the two divisors is tried in vain. -/
theorem synthesize_accounts_fifteen :
    (∃ (synthesis : Synthesis) (entries : List Expression),
      synthesize roundedLibrary (.int 1) { count := 30, tolerance := .float 1e-17 } =
          .ok synthesis ∧
        (synthesis.expressions.take synthesis.fromCatalog).Sublist entries ∧
        entries.length = 28 ∧
        synthesis.fromCatalog = 27 ∧
        synthesis.synthesized = 3 ∧
        synthesis.attempts = 3 ∧
        synthesis.rejected = 1) ∧
      ∃ (synthesis : Synthesis) (steps : Steps),
        synthesize roundedLibrary (.int 15) { count := 14, tolerance := .float 1e-17 } =
            .ok synthesis ∧
          stepsOf factorialRatioBound (.float synthesis.target) Pattern.all = .ok steps ∧
          (steps.candidates 0 17).length = 16 ∧
          idleDivisors factorialRatioBound (.float synthesis.target) 17 = [2] ∧
          synthesis.fromCatalog = 0 ∧
          synthesis.synthesized = 14 ∧
          synthesis.attempts = 17 ∧
          synthesis.rejected = 2 := by
  have forOne : (synthesize roundedLibrary (.int 1)
      { count := 30, tolerance := .float 1e-17 }).toOption.map (fun synthesis =>
        (synthesis.fromCatalog, synthesis.synthesized, synthesis.attempts, synthesis.rejected)) =
      some (27, 3, 3, 1) := by
    decide +kernel
  have forFifteen : (synthesize roundedLibrary (.int 15)
      { count := 14, tolerance := .float 1e-17 }).toOption.map (fun synthesis =>
        (idleDivisors factorialRatioBound (.float synthesis.target) 17, synthesis.fromCatalog,
          synthesis.synthesized, synthesis.attempts, synthesis.rejected)) =
      some ([2], 0, 14, 17, 2) := by
    decide +kernel
  constructor
  · obtain ⟨synthesis, found, counts⟩ := Option.map_eq_some_iff.mp forOne
    have answered := eq_ok_of_toOption found
    simp only [Prod.mk.injEq] at counts
    obtain ⟨catalogued, synthesized, paid, turnedDown⟩ := counts
    obtain ⟨entries, steps, -, -, inOrder, -, -, -, rejected, attempts, -⟩ :=
      synthesize_accounts roundedLibrary (.int 1) { count := 30, tolerance := .float 1e-17 }
        synthesis answered
    exact ⟨synthesis, entries, answered, inOrder, by omega, catalogued, synthesized, paid,
      turnedDown⟩
  · obtain ⟨synthesis, found, counts⟩ := Option.map_eq_some_iff.mp forFifteen
    have answered := eq_ok_of_toOption found
    simp only [Prod.mk.injEq] at counts
    obtain ⟨idle, catalogued, synthesized, paid, turnedDown⟩ := counts
    obtain ⟨entries, steps, -, ⟨formed, -⟩, -, -, -, -, -, attempts, -⟩ :=
      synthesize_accounts roundedLibrary (.int 15) { count := 14, tolerance := .float 1e-17 }
        synthesis answered
    rw [paid, idle] at attempts
    exact ⟨synthesis, steps, answered, formed, (Nat.succ.inj attempts).symm, idle, catalogued,
      synthesized, paid, turnedDown⟩

end Variant

end FormulaGrid
