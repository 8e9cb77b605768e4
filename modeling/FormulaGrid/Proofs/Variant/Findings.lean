import FormulaGrid.Proofs.Variant.Search

/-!
Contract: what there is to be found among texts, and what a search has found of it.

Owns:
- the specification of a search: the texts that verify, without the zero cell and without
  repetitions, in their order (`Goal.finds`);
- the progress that has found exactly these among the texts it has considered
  (`Progress.Tracks`), and that one more consideration keeps it so;
- the same for the whole pool of the catalog (`yields_searchPool_tracks`).

Does not own: the order in which a search comes by the texts, nor its budget.
-/

namespace FormulaGrid.Variant

variable (functions : Elementary) (goal : Goal)

/-- The text is verified against the target. -/
def Goal.verifies (text : String) : Bool :=
  match verify functions text (.float goal.target) goal.tolerance with
  | .ok agrees => agrees
  | .error _ => false

/-- The test of a text: it is verified, and is not the zero cell. -/
def Goal.accepts (text : String) : Bool :=
  text != zeroCell && goal.verifies functions text

/-- What there is to be found among texts: those that pass the test, each at its first
place only. -/
def Goal.finds (texts : List String) : List String :=
  (texts.filter (goal.accepts functions)).eraseDups

variable {functions goal}

theorem Goal.accepts_iff (text : String) :
    goal.accepts functions text = true ↔ text ≠ zeroCell ∧ goal.Accepts functions text := by
  unfold Goal.accepts Goal.verifies Goal.Accepts
  cases verify functions text (.float goal.target) goal.tolerance with
  | error => simp
  | ok agrees => cases agrees <;> simp

/-- Without repetitions each item stands once. -/
theorem nodup_eraseDups : ∀ texts : List String, texts.eraseDups.Nodup
  | [] => List.nodup_nil
  | text :: others => by
      rw [List.eraseDups_cons]
      refine List.nodup_cons.mpr ⟨fun member => ?_, nodup_eraseDups _⟩
      have inOthers := List.mem_eraseDups.mp member
      simp at inOthers
termination_by texts => texts.length
decreasing_by exact Nat.lt_succ_of_le (List.length_filter_le _ _)

namespace Goal

theorem nodup_finds (texts : List String) : (goal.finds functions texts).Nodup :=
  nodup_eraseDups _

theorem mem_finds {text : String} {texts : List String} :
    text ∈ goal.finds functions texts ↔
      text ∈ texts ∧ text ≠ zeroCell ∧ goal.Accepts functions text := by
  rw [finds, List.mem_eraseDups, List.mem_filter, accepts_iff]

/-- Further texts add to what there is to be found behind it. -/
theorem finds_append (texts more : List String) :
    goal.finds functions texts <+: goal.finds functions (texts ++ more) := by
  rw [finds, finds, List.filter_append, List.eraseDups_append]
  exact List.prefix_append _ _

theorem length_finds_mono {texts longer : List String} (within : texts <+: longer) :
    (goal.finds functions texts).length ≤ (goal.finds functions longer).length := by
  obtain ⟨more, rfl⟩ := within
  exact (finds_append texts more).length_le

/-- A text that has been considered before, or does not pass the test, adds nothing. -/
theorem finds_concat_of_not
    {texts : List String}
    {text : String}
    (idle : text ∈ texts ∨ goal.accepts functions text = false) :
    goal.finds functions (texts ++ [text]) = goal.finds functions texts := by
  rw [finds, finds, List.filter_append, List.eraseDups_append]
  refine (congrArg (List.append _) ?_).trans (List.append_nil _)
  cases accepted : goal.accepts functions text with
  | false => simp [accepted]
  | true =>
      have before : text ∈ texts := idle.resolve_right (by simp [accepted])
      simp [accepted, List.removeAll, before]

/-- A new text that passes the test is found. -/
theorem finds_concat_of_accepts
    {texts : List String}
    {text : String}
    (fresh : text ∉ texts)
    (accepted : goal.accepts functions text = true) :
    goal.finds functions (texts ++ [text]) = goal.finds functions texts ++ [text] := by
  rw [finds, finds, List.filter_append, List.eraseDups_append]
  refine congrArg (List.append _) ?_
  simp [accepted, List.removeAll, fresh, List.eraseDups_cons]

/-- One more text is at most one more finding. -/
theorem length_finds_concat_le (texts : List String) (text : String) :
    (goal.finds functions (texts ++ [text])).length ≤ (goal.finds functions texts).length + 1 := by
  by_cases idle : text ∈ texts ∨ goal.accepts functions text = false
  · rw [finds_concat_of_not idle]
    exact Nat.le_succ _
  · rw [not_or, Bool.not_eq_false] at idle
    rw [finds_concat_of_accepts idle.1 idle.2, List.length_append, List.length_singleton]

end Goal

namespace Progress

variable (functions goal) in
/-- The progress has found what there is to be found among the texts it has considered.
It will consider neither these again nor the zero cell. -/
structure Tracks (considered : List String) (progress : Progress) : Prop where
  accepted : Expression.texts progress.accepted = goal.finds functions considered
  seen : ∀ text, text ∈ progress.seen ↔ text = zeroCell ∨ text ∈ considered

theorem tracks_start : start.Tracks functions goal [] :=
  ⟨rfl, fun text => by simp [start]⟩

theorem Tracks.length_accepted
    {considered : List String}
    {progress : Progress}
    (tracks : progress.Tracks functions goal considered) :
    progress.accepted.length = (goal.finds functions considered).length := by
  rw [← tracks.accepted, Expression.texts, List.length_map]

theorem Tracks.reached_iff
    {considered : List String}
    {progress : Progress}
    (tracks : progress.Tracks functions goal considered) :
    progress.reached goal = true ↔
      (goal.finds functions considered).length = goal.count := by
  rw [reached, beq_iff_eq, tracks.length_accepted]

/-- To consider one more text keeps the progress complete. A fault is one of the test of
the text, or of the making of its expression. -/
theorem Tracks.yields_consider
    {Allowed : Fault → Prop}
    {considered : List String}
    {progress : Progress}
    {text : String}
    {expression : Except Fault Expression}
    (tracks : progress.Tracks functions goal considered)
    (testable : Yields (fun _ => True) Allowed
      (verify functions text (.float goal.target) goal.tolerance))
    (makes : text ≠ zeroCell → Yields (fun made => made.text = text) Allowed expression) :
    Yields (Tracks functions goal (considered ++ [text])) Allowed
      (progress.consider functions goal text expression) := by
  have nowSeen : ∀ other, other ∈ text :: progress.seen ↔
      other = zeroCell ∨ other ∈ considered ++ [text] := by
    intro other
    rw [List.mem_cons, tracks.seen, List.mem_append, List.mem_singleton]
    grind
  unfold consider
  split
  next inSeen =>
    refine ⟨tracks.accepted.trans (Goal.finds_concat_of_not ?_).symm, fun other => ?_⟩
    · rcases (tracks.seen text).mp inSeen with zero | before
      · exact .inr (by rw [zero]; rfl)
      · exact .inl before
    · rw [← nowSeen other, List.mem_cons]
      exact ⟨.inr, fun either => either.elim (fun same => same ▸ inSeen) id⟩
  next unseen =>
    have fresh := mt (tracks.seen text).mpr unseen
    rw [not_or] at fresh
    have tested : Yields
        (fun agrees => verify functions text (.float goal.target) goal.tolerance = .ok agrees)
        Allowed (verify functions text (.float goal.target) goal.tolerance) := by
      cases outcome : verify functions text (.float goal.target) goal.tolerance with
      | ok agrees => rfl
      | error fault => rw [outcome] at testable; exact testable
    refine tested.bind fun agrees verified => ?_
    cases agrees with
    | false =>
        have rejected : goal.accepts functions text = false := by
          rw [Goal.accepts, Goal.verifies, verified, Bool.and_false]
        exact ⟨tracks.accepted.trans (Goal.finds_concat_of_not (.inr rejected)).symm, nowSeen⟩
    | true =>
        have accepted : goal.accepts functions text = true :=
          (Goal.accepts_iff text).mpr ⟨fresh.1, verified⟩
        refine (makes fresh.1).bind fun made named => ⟨?_, nowSeen⟩
        rw [Goal.finds_concat_of_accepts fresh.2 accepted, ← tracks.accepted, ← named,
          Expression.texts, List.map_append]
        rfl

end Progress

/-- Where a search of a pool stops: with the last notation wanted, or at the end. It has
found what there is to be found up to there. -/
theorem yields_searchPool_tracks
    {Allowed : Fault → Prop}
    (pool : List Expression)
    {considered : List String}
    {progress : Progress}
    (tracks : progress.Tracks functions goal considered)
    (room : (goal.finds functions considered).length ≤ goal.count)
    (testable : ∀ expression ∈ pool, Yields (fun _ => True) Allowed
      (verify functions expression.text (.float goal.target) goal.tolerance)) :
    Yields
      (fun found => ∃ ahead, ahead <+: considered ++ Expression.texts pool ∧
        found.Tracks functions goal ahead ∧
        (goal.finds functions ahead).length ≤ goal.count ∧
        (found.reached goal = true ∨ ahead = considered ++ Expression.texts pool))
      Allowed (searchPool functions goal pool progress) := by
  induction pool generalizing considered progress with
  | nil =>
      have whole : considered ++ Expression.texts [] = considered := List.append_nil _
      rw [whole]
      exact ⟨considered, List.prefix_refl _, tracks, room, .inr rfl⟩
  | cons expression others inductionHypothesis =>
      obtain ⟨firstTestable, othersTestable⟩ := List.forall_mem_cons.mp testable
      unfold searchPool
      split
      next reached =>
        exact ⟨considered, List.prefix_append _ _, tracks, room, .inl reached⟩
      next notReached =>
        rw [tracks.reached_iff] at notReached
        have makes (_ : expression.text ≠ zeroCell) :
            Yields (fun made => made.text = expression.text) Allowed (.ok expression) :=
          rfl
        refine (tracks.yields_consider firstTestable makes).bind fun next nextTracks => ?_
        have oneMore : (goal.finds functions (considered ++ [expression.text])).length ≤ _ :=
          Goal.length_finds_concat_le considered expression.text
        have split : considered ++ Expression.texts (expression :: others) =
            (considered ++ [expression.text]) ++ Expression.texts others := by
          rw [List.append_assoc]
          rfl
        rw [split]
        exact inductionHypothesis nextTracks (by omega) othersTestable

end FormulaGrid.Variant
