import FormulaGrid.Proofs.Formula.Cursor
import FormulaGrid.Proofs.Formula.Steps

/-!
Contract: walks that end as the readers of the grammar do.

Owns:
- the tokens ahead of a cursor, and the levels that it may still open;
- the walks that have one end, whatever more steps they have, and that is the end of a
  reading (`Walk.Settles`);
- how that goes through the steps that walks are made of: a look, a token that is taken
  or asked for, a construct, a deeper level, and one walk behind another.

Does not own: which walk settles as which reading.
-/

namespace FormulaGrid

open Grammar

namespace Cursor

/-- The tokens ahead. -/
def ahead (line : TokenLine) (cursor : Cursor) : List Token :=
  line.tokens.drop cursor.index

/-- The number of levels that may still be opened. -/
def levels (cursor : Cursor) : Nat :=
  deepestNesting - cursor.depth

end Cursor

/-! ## Walks that end -/

namespace Walk

variable {First Second Value : Type} {line : TokenLine} {steps : Nat} {start : Cursor}

/-- From the start, with so many steps or more, the walk has one end. It stands at an
entry, further on or at the start, and is the end of the reading: with its value, at the
tokens that it leaves and on the level of the start, or with its fault. -/
def Settles
    (line : TokenLine)
    (steps : Nat)
    (start : Cursor)
    (reading : Except Fault (Value × List Token))
    (walks : Nat → Walk Value) :
    Prop :=
  ∃ (outcome : Except Fault Value) (final : Cursor),
    (∀ more, steps ≤ more → walks more start = (outcome.mapError .fault, final)) ∧
      start.index ≤ final.index ∧
      final.index ≤ line.tokens.length ∧
      (reading = outcome.map fun value => (value, final.ahead line)) ∧
      ∀ value, outcome = .ok value → final.depth = start.depth

/-- A cursor that a walk has moved on from the start, on the same level. -/
structure Follows (line : TokenLine) (start middle : Cursor) : Prop where
  forward : start.index ≤ middle.index
  within : middle.index ≤ line.tokens.length
  level : middle.depth = start.depth

theorem Settles.bind
    {reading : Except Fault (First × List Token)}
    {first : Nat → Walk First}
    {goOn : First × List Token → Except Fault (Second × List Token)}
    {next : Nat → First → Walk Second}
    (settles : Settles line steps start reading first)
    (behind : ∀ value middle, Follows line start middle →
      reading = .ok (value, middle.ahead line) →
      Settles line steps middle (goOn (value, middle.ahead line)) fun more => next more value) :
    Settles line steps start (reading >>= goOn) fun more => first more >>= next more := by
  obtain ⟨outcome, middle, ran, forward, within, rfl, level⟩ := settles
  cases outcome with
  | error fault =>
      refine ⟨.error fault, middle, fun more enough => ?_, forward, within, rfl, nofun⟩
      show (first more >>= next more) start = _
      rw [bind_eq, ran more enough]
      rfl
  | ok value =>
      obtain ⟨outcome, final, ranOn, further, within, read, sameLevel⟩ :=
        behind value middle ⟨forward, within, level value rfl⟩ rfl
      refine ⟨outcome, final, fun more enough => ?_, Nat.le_trans forward further, within, read,
        fun result found => (sameLevel result found).trans (level value rfl)⟩
      show (first more >>= next more) start = _
      rw [bind_eq, ran more enough]
      exact ranOn more enough

/-- A walk that goes on from a later cursor. -/
theorem Settles.after
    {middle : Cursor}
    {reading : Except Fault (Value × List Token)}
    {walks later : Nat → Walk Value}
    (settles : Settles line steps middle reading later)
    (forward : start.index ≤ middle.index)
    (level : middle.depth = start.depth)
    (same : ∀ more, walks more start = later more middle) :
    Settles line steps start reading walks := by
  obtain ⟨outcome, final, ran, further, within, read, sameLevel⟩ := settles
  exact ⟨outcome, final, fun more enough => (same more).trans (ran more enough),
    Nat.le_trans forward further, within, read,
    fun value found => (sameLevel value found).trans level⟩

/-- Walks that settle within a step less. -/
theorem Settles.succ
    {reading : Except Fault (Value × List Token)}
    {walks later : Nat → Walk Value}
    (settles : Settles line steps start reading walks)
    (same : ∀ more, later (more + 1) = walks more) :
    Settles line (steps + 1) start reading later := by
  obtain ⟨outcome, final, ran, others⟩ := settles
  refine ⟨outcome, final, fun more enough => ?_, others⟩
  cases more with
  | zero => exact absurd enough (Nat.not_succ_le_zero steps)
  | succ fewer =>
      rw [same]
      exact ran fewer (Nat.le_of_succ_le_succ enough)

section Ends

variable {tokens : List Token} (within : start.index ≤ line.tokens.length)
  (ahead : start.ahead line = tokens)
include within ahead

theorem Settles.pure (value : Value) :
    Settles line steps start (.ok (value, tokens)) fun _ => return value :=
  ⟨.ok value, start, fun _ _ => rfl, Nat.le_refl _, within, by rw [← ahead]; rfl, fun _ _ => rfl⟩

omit ahead in
theorem Settles.fault (fault : Fault) :
    Settles line steps start (.error fault) fun _ => (throw (.fault fault) : Walk Value) :=
  ⟨.error fault, start, fun _ _ => rfl, Nat.le_refl _, within, rfl, nofun⟩

/-- A construct is settled where the cursor stands. -/
theorem settles_settle (outcome : Except Fault Value) :
    Settles line steps start (outcome.map fun value => (value, tokens))
      fun _ => settle outcome := by
  cases outcome with
  | error fault => exact .fault within fault
  | ok value => exact .pure within ahead value

/-- The fault of an entry that does not fit is that of the tokens ahead. -/
theorem settles_unexpected (wanted : Wanted) :
    Settles line steps start (.error (Grammar.unexpected line.finish wanted tokens))
      fun _ => (unexpected line wanted tokens.head? : Walk Value) := by
  have same : Grammar.unexpected line.finish wanted tokens =
      Grammar.unexpected line.finish wanted tokens.head?.toList := by
    cases tokens <;> rfl
  rw [same]
  exact .fault within _

end Ends

theorem Settles.settled
    {outcome : Except Fault First}
    {goOn : First → Except Fault (Second × List Token)}
    {next : Nat → First → Walk Second}
    (within : start.index ≤ line.tokens.length)
    (behind : ∀ value, Settles line steps start (goOn value) fun more => next more value) :
    Settles line steps start (outcome >>= goOn) fun more => settle outcome >>= next more := by
  cases outcome with
  | error fault => exact .after (.fault within fault) (Nat.le_refl _) rfl fun _ => rfl
  | ok value => exact .after (behind value) (Nat.le_refl _) rfl fun _ => rfl

theorem head?_ahead : (start.ahead line).head? = line.tokens[start.index]? :=
  List.head?_drop

/-- A look at the entry does not move the cursor. -/
theorem Settles.look
    {reading : Except Fault (Value × List Token)}
    {next : Nat → Option Token → Walk Value}
    (within : start.index ≤ line.tokens.length)
    (settles : Settles line steps start reading fun more => next more (start.ahead line).head?) :
    Settles line steps start reading fun more => current line >>= next more := by
  refine settles.after (Nat.le_refl _) rfl fun more => ?_
  rw [bind_eq, current_eq line within, head?_ahead]

/-- A token ahead is an entry, and behind it is what stands behind it. -/
theorem exists_of_ahead
    {token : Token}
    {others : List Token}
    (found : start.ahead line = token :: others) :
    line.tokens[start.index]? = some token ∧
      start.stepped.index ≤ line.tokens.length ∧
      start.stepped.ahead line = others := by
  have here : line.tokens[start.index]? = some token := by rw [← head?_ahead, found]; rfl
  refine ⟨here, (List.getElem?_eq_some_iff.mp here).1, ?_⟩
  show line.tokens.drop (start.index + 1) = others
  rw [← List.tail_drop]
  exact congrArg List.tail found

/-- A token ahead is taken. -/
theorem Settles.take
    {reading : Except Fault (Value × List Token)}
    {next : Nat → Option Token → Walk Value}
    {token : Token}
    {others : List Token}
    (found : start.ahead line = token :: others)
    (settles : Settles line steps start.stepped reading fun more => next more (some token)) :
    Settles line steps start reading fun more => advance line >>= next more := by
  refine settles.after (Nat.le_succ _) rfl fun more => ?_
  rw [bind_eq, advance_of_some line (exists_of_ahead found).1]

/-- Whatever entry it stands at, the cursor takes it or stays at the end. -/
theorem Settles.step
    {reading : Except Fault (Value × List Token)}
    {next : Nat → Option Token → Walk Value}
    (within : start.index ≤ line.tokens.length)
    (taken : ∀ token others, start.ahead line = token :: others →
      Settles line steps start.stepped reading fun more => next more (some token))
    (atEnd : start.ahead line = [] →
      Settles line steps start reading fun more => next more none) :
    Settles line steps start reading fun more => advance line >>= next more := by
  rcases found : start.ahead line with _ | ⟨token, others⟩
  · have last : start.index = line.tokens.length :=
      Nat.le_antisymm within (List.drop_eq_nil_iff.mp found)
    refine (atEnd found).after (Nat.le_refl _) rfl fun more => ?_
    rw [bind_eq, advance_of_end line last]
  · exact .take found (taken token others found)

/-- An entry that is asked for is taken, or is the fault. -/
theorem Settles.expect
    {fits : Lexeme → Bool}
    {wanted : Wanted}
    {reading : Except Fault (Value × List Token)}
    {next : Nat → Option Token → Walk Value}
    (within : start.index ≤ line.tokens.length)
    (fit : ∀ token others, start.ahead line = token :: others → fits token.lexeme = true →
      Settles line steps start.stepped reading fun more => next more (some token))
    (unfit : (∀ token others, start.ahead line = token :: others → fits token.lexeme = false) →
      reading = .error (Grammar.unexpected line.finish wanted (start.ahead line))) :
    Settles line steps start reading fun more => expect line fits wanted >>= next more := by
  have looked (more : Nat) : (Walk.expect line fits wanted >>= next more) start =
      ((if (start.ahead line).head?.any fun token => fits token.lexeme then
        advance line
      else
        unexpected line wanted (start.ahead line).head?) >>= next more) start := by
    rw [Walk.expect, bind_assoc, bind_eq, current_eq line within, head?_ahead]
  rcases found : start.ahead line with _ | ⟨token, others⟩
  · rw [unfit (by simp [found]), found]
    refine (Settles.fault within _).after (Nat.le_refl _) rfl fun more => ?_
    rw [looked, found]
    rfl
  · cases fitting : fits token.lexeme with
    | true =>
        refine (fit token others found fitting).after (Nat.le_succ _) rfl fun more => ?_
        rw [looked, found, if_pos (by simpa using fitting), bind_eq,
          advance_of_some line (exists_of_ahead found).1]
    | false =>
        rw [unfit (by simp [found, fitting]), found]
        refine (Settles.fault within _).after (Nat.le_refl _) rfl fun more => ?_
        rw [looked, found, if_neg (by simp [fitting])]
        rfl

/-- A walk one level deeper is a reading one level deeper, or as deep as that is not
allowed. -/
theorem Settles.nested
    {meaning : Interpretation Value}
    {inner : Nat → Walk Value}
    (pick : Level Value → Reader Value)
    (tooDeep : ∀ tokens, pick (Level.exhausted line.finish) tokens =
      .error (.formula (.nestedTooDeep (nextPosition line.finish tokens))))
    (within : start.index ≤ line.tokens.length)
    (settles : Settles line steps start.opened
      (plain (pick (Level.above meaning line.finish (start.opened.levels + 1))
        (start.ahead line))) inner) :
    Settles line steps start
      (plain (pick (Level.above meaning line.finish start.levels) (start.ahead line)))
      fun more => nested line (inner more) := by
  by_cases deep : deepestNesting < start.opened.depth
  · have none : start.levels = 0 := Nat.sub_eq_zero_of_le (Nat.le_of_lt_succ deep)
    have same : nextPosition line.finish line.tokens[start.index]?.toList =
        nextPosition line.finish (start.ahead line) := by
      rw [← head?_ahead]
      cases start.ahead line <;> rfl
    rw [none, Level.above, tooDeep, ← same]
    refine ⟨.error _, start.opened, fun more _ => ?_, Nat.le_refl _, within, rfl, nofun⟩
    have looked : current line start.opened = _ := current_eq line within
    show Walk.nested line (inner more) start = _
    rw [nested_eq, if_pos deep, bind_eq, looked]
    rfl
  · have one : start.levels = start.opened.levels + 1 := by
      simp only [Cursor.levels, Cursor.opened] at deep ⊢
      omega
    rw [one]
    obtain ⟨outcome, final, ran, forward, inside, read, level⟩ := settles
    refine ⟨outcome, final.closed, fun more enough => ?_, forward, inside, read,
      fun value found => ?_⟩
    · show Walk.nested line (inner more) start = _
      rw [nested_eq, if_neg deep, ran more enough]
    · exact congrArg (· - 1) (level value found)

end Walk

end FormulaGrid
