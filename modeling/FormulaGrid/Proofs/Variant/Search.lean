import FormulaGrid.Proofs.Agreement
import FormulaGrid.Proofs.Outcome
import FormulaGrid.Variant.Search

/-!
Contract: a search accepts only notations that agree with its target.

Owns:
- the progress that holds no other notations (`Progress.Verified`), which every stage of
  a search keeps;
- a search that ends well has found as many notations as wanted, all of them verified
  (`yields_synthesize`);
- a pool all of whose expressions agree is accepted as it is (`searchPool_complete`),
  and a search that wants no more ends well with it (`search_of_pool`).
-/

namespace FormulaGrid.Variant

variable (functions : Elementary) (goal : Goal)

/-- The text has been verified against the target of the search. -/
def Goal.Accepts (text : String) : Prop :=
  verify functions text (.float goal.target) goal.tolerance = .ok true

namespace Progress

/-- All accepted expressions have been verified. -/
def Verified (progress : Progress) : Prop :=
  ∀ expression ∈ progress.accepted, goal.Accepts functions expression.text

variable {functions goal}

theorem not_reached_of_lt {progress : Progress} (less : progress.accepted.length < goal.count) :
    ¬ progress.reached goal = true :=
  fun reached => absurd (beq_iff_eq.mp reached) (Nat.ne_of_lt less)

theorem yields_consider
    {text : String}
    {expression : Except Fault Expression}
    {progress : Progress}
    (verified : progress.Verified functions goal)
    (named : ∀ made, expression = .ok made → made.text = text) :
    Yields (Verified functions goal) (fun _ => True)
      (progress.consider functions goal text expression) := by
  unfold consider
  split
  next => exact verified
  next =>
    refine (yields_self _).bind fun agrees tested => ?_
    cases agrees with
    | false => exact verified
    | true =>
        refine (yields_self expression).bind fun made same => ?_
        intro accepted member
        rcases List.mem_append.mp member with earlier | last
        · exact verified accepted earlier
        · rw [List.mem_singleton.mp last, named made same]
          exact tested

end Progress

variable {functions goal}

theorem yields_searchPool
    (pool : List Expression)
    {progress : Progress}
    (verified : progress.Verified functions goal) :
    Yields (Progress.Verified functions goal) (fun _ => True)
      (searchPool functions goal pool progress) := by
  induction pool generalizing progress with
  | nil => exact verified
  | cons expression others inductionHypothesis =>
      unfold searchPool
      split
      next => exact verified
      next =>
        have named (made : Expression)
            (same : (.ok expression : Except Fault Expression) = .ok made) :
            made.text = expression.text := by
          cases same
          rfl
        exact (Progress.yields_consider verified named).bind fun _ => inductionHypothesis

theorem text_of_synthesize
    {text : String}
    {note : Option String}
    {made : Expression}
    (synthesized : Expression.synthesize text note = .ok made) :
    made.text = text := by
  unfold Expression.synthesize Expression.define at synthesized
  split at synthesized
  next => cases synthesized
  next =>
    split at synthesized
    next => cases synthesized
    next =>
      split at synthesized
      next => cases synthesized
      next =>
        cases synthesized
        rfl

theorem yields_searchSteps
    (steps : Steps)
    (index remaining : Nat)
    (budget : Budget)
    {progress : Progress}
    (verified : progress.Verified functions goal) :
    Yields (fun found => found.2.Verified functions goal) (fun _ => True)
      (searchSteps functions goal steps index remaining budget progress) := by
  induction remaining generalizing index budget progress with
  | zero => exact verified
  | succ remaining inductionHypothesis =>
      unfold searchSteps
      split
      next => trivial
      next paid _ =>
        split
        next => exact inductionHypothesis (index + 1) paid verified
        next candidate =>
          refine (Progress.yields_consider verified fun made => text_of_synthesize).bind
            fun next nextVerified => ?_
          dsimp only
          split
          next => exact nextVerified
          next => exact inductionHypothesis (index + 1) _ nextVerified

/-- A search that ends well has found as many notations as wanted, all verified. -/
theorem yields_search (includeAdvanced : Bool) (attempts : Nat) :
    Yields (fun synthesis => synthesis.expressions.length = goal.count ∧
        ∀ expression ∈ synthesis.expressions, goal.Accepts functions expression.text)
      (fun _ => True) (search functions goal includeAdvanced attempts) := by
  unfold search
  have nothing : Progress.start.Verified functions goal := List.forall_mem_nil _
  refine (yields_searchPool _ nothing).bind fun catalogued verified => ?_
  dsimp only
  have ends (found : Budget × Progress) (foundVerified : found.2.Verified functions goal) :
      Yields (fun synthesis : Synthesis => synthesis.expressions.length = goal.count ∧
          ∀ expression ∈ synthesis.expressions, goal.Accepts functions expression.text)
        (fun _ => True)
        (if found.2.reached goal then
          .ok ⟨goal.target, found.2.accepted, catalogued.accepted.length, found.1.spent,
            found.2.rejected⟩
        else
          .error (Fault.search (.insufficient (.float goal.target) found.2.accepted.length
            goal.count)).reported) := by
    split
    next reached => exact ⟨beq_iff_eq.mp reached, foundVerified⟩
    next => trivial
  split
  next => exact ends _ verified
  next =>
    refine (yields_self _).bind fun steps _ => ?_
    exact (yields_searchSteps steps 0 _ _ verified).bind ends

/-- A request that is answered is answered with at least one notation, and with
verified ones only. -/
theorem yields_synthesize
    {target : Datum}
    {float : Float}
    (isTarget : requireTarget target = .ok float)
    (request : Request) :
    Yields
      (fun synthesis => 0 < synthesis.expressions.length ∧
        ∀ expression ∈ synthesis.expressions,
          verify functions expression.text (.float float) request.tolerance = .ok true)
      (fun _ => True) (synthesize functions target request) := by
  unfold synthesize
  rw [isTarget]
  refine (yields_self (requireCount request.count)).bind fun _ counted => ?_
  split
  next => trivial
  next =>
    refine (yields_search request.includeAdvanced request.attempts.toNat).imp
      fun synthesis found => ⟨?_, found.2⟩
    have positive : 0 < request.count.toNat := by
      unfold requireCount at counted
      split at counted
      next => cases counted
      next => omega
    exact found.1 ▸ positive

/-! ## Pools that verify -/

/-- A pool of different texts that all agree is accepted as it is, if no more
notations are wanted. -/
theorem searchPool_complete
    (pool : List Expression)
    (progress : Progress)
    (agree : ∀ expression ∈ pool, goal.Accepts functions expression.text)
    (distinct : (Expression.texts pool).Nodup)
    (unseen : ∀ expression ∈ pool, expression.text ∉ progress.seen)
    (count : progress.accepted.length + pool.length = goal.count) :
    ∃ seen : List String,
      searchPool functions goal pool progress =
        .ok ⟨progress.accepted ++ pool, seen, progress.rejected⟩ := by
  induction pool generalizing progress with
  | nil => exact ⟨progress.seen, by rw [List.append_nil]; rfl⟩
  | cons expression others inductionHypothesis =>
      obtain ⟨firstAgrees, othersAgree⟩ := List.forall_mem_cons.mp agree
      obtain ⟨firstUnseen, othersUnseen⟩ := List.forall_mem_cons.mp unseen
      obtain ⟨firstDistinct, othersDistinct⟩ := List.nodup_cons.mp distinct
      have notReached : ¬ progress.reached goal = true := by
        rw [List.length_cons] at count
        exact Progress.not_reached_of_lt (by omega)
      have considered :
          progress.consider functions goal expression.text (.ok expression) =
            .ok ⟨progress.accepted ++ [expression], expression.text :: progress.seen,
              progress.rejected⟩ := by
        unfold Progress.consider
        rw [if_neg firstUnseen, firstAgrees]
        rfl
      have stillUnseen : ∀ other ∈ others, other.text ∉ expression.text :: progress.seen := by
        intro other member inSeen
        rcases List.mem_cons.mp inSeen with same | earlier
        · exact firstDistinct (same ▸ List.mem_map_of_mem member)
        · exact othersUnseen other member earlier
      have stillCounted :
          (progress.accepted ++ [expression]).length + others.length = goal.count := by
        rw [List.length_append, List.length_singleton, Nat.add_assoc, Nat.add_comm 1]
        exact count
      obtain ⟨seen, searched⟩ :=
        inductionHypothesis ⟨_, _, progress.rejected⟩ othersAgree othersDistinct stillUnseen
          stillCounted
      refine ⟨seen, ?_⟩
      rw [searchPool, if_neg notReached, considered]
      show searchPool functions goal others _ = _
      rw [searched, List.append_assoc]
      rfl

/-- A search that wants the pool of its target, and no more, is answered with it. -/
theorem search_of_pool
    {pool : List Expression}
    {includeAdvanced : Bool}
    (attempts : Nat)
    (isPool : standardCatalog.poolForTarget (.float goal.target) includeAdvanced = pool)
    (agree : ∀ expression ∈ pool, goal.Accepts functions expression.text)
    (distinct : (Expression.texts pool).Nodup)
    (count : pool.length = goal.count) :
    ∃ synthesis : Synthesis,
      search functions goal includeAdvanced attempts = .ok synthesis ∧
        synthesis.expressions = pool := by
  have unseen : ∀ expression ∈ pool, expression.text ∉ Progress.start.seen :=
    fun expression _ inSeen => expression.isCellText.2.2 (List.mem_singleton.mp inSeen)
  have starts : Progress.start.accepted.length + pool.length = goal.count :=
    (Nat.zero_add _).trans count
  obtain ⟨seen, searched⟩ :=
    searchPool_complete pool Progress.start agree distinct unseen starts
  have reached : (⟨pool, seen, 0⟩ : Progress).reached goal = true := beq_iff_eq.mpr count
  unfold search
  dsimp only
  rw [isPool, searched]
  dsimp only [Progress.start, List.nil_append, bind, Except.bind, pure, Except.pure]
  rw [if_pos reached, if_pos reached]
  exact ⟨_, rfl, rfl⟩

end FormulaGrid.Variant
