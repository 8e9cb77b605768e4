import FormulaGrid.Signature
import Mathlib.Algebra.BigOperators.Group.Finset.Basic
import Mathlib.Data.Nat.ModEq
import Mathlib.Tactic.Ring

/-!
Contract: the signature of a name in closed form.

Owns:
- the code sum of a name (`codeSum`), which is its seed (`nameSeed_eq_codeSum`);
- the state after some steps without any reduction (`unreduced`), which depends on the residue
  of the seed only (`unreduced_modEq`);
- the states of a seed are those numbers, each reduced once (`states_eq`);
- a signature has an entry for each state (`draw_eq`), so that it is known in closed form, is a
  prefix of every longer one, and is shared by all names whose code sums are congruent
  (`signature_closedForm`).

A seed is not reduced before the first step and may be of any size. The size of the pool need not
divide the modulus, so an entry depends on the reduced state and not on the number behind it.
-/

namespace FormulaGrid

/-! ## Seeds -/

/-- The sum of the codes of the characters. -/
def codeSum (name : String) : Nat :=
  (name.toList.map Char.toNat).sum

theorem nameSeed_eq_codeSum (name : String) : nameSeed name = codeSum name := by
  unfold nameSeed codeSum
  rw [List.sum_eq_foldl, List.foldl_map]

/-- The order of the characters does not matter. -/
theorem codeSum_eq_of_perm
    {name other : String}
    (permuted : name.toList.Perm other.toList) :
    codeSum name = codeSum other :=
  (permuted.map Char.toNat).sum_nat

/-! ## States -/

/-- The state after some steps, if no step reduced it. -/
def unreduced (seed steps : Nat) : Nat :=
  stateMultiplier ^ steps * seed +
    stateIncrement * ∑ power ∈ Finset.range steps, stateMultiplier ^ power

/-- The first of the steps may be made ahead. -/
theorem unreduced_step (seed steps : Nat) :
    unreduced (seed * stateMultiplier + stateIncrement) steps = unreduced seed (steps + 1) := by
  unfold unreduced
  rw [Finset.sum_range_succ]
  ring

/-- Congruent seeds have congruent states. -/
theorem unreduced_modEq
    {seed other : Nat}
    (congruent : seed ≡ other [MOD stateModulus])
    (steps : Nat) :
    unreduced seed steps ≡ unreduced other steps [MOD stateModulus] :=
  (congruent.mul_left _).add_right _

/-- A reduction at the first step makes no difference to a reduction at the end. -/
theorem unreduced_nextState_modEq (seed steps : Nat) :
    unreduced (nextState seed) steps ≡ unreduced seed (steps + 1) [MOD stateModulus] := by
  rw [← unreduced_step]
  exact unreduced_modEq (Nat.mod_modEq _ _) steps

/-- The states of a seed are reduced once each. -/
theorem states_eq (seed count : Nat) :
    states seed count =
      (List.range count).map fun index => unreduced seed (index + 1) % stateModulus := by
  induction count generalizing seed with
  | zero => rfl
  | succ count inductionHypothesis =>
      have first : nextState seed = unreduced seed 1 % stateModulus := by
        rw [← unreduced_step]
        unfold nextState unreduced
        simp
      rw [states, inductionHypothesis, List.range_succ_eq_map, List.map_cons, List.map_map, ← first]
      refine congrArg (nextState seed :: ·) (List.map_congr_left fun index _ => ?_)
      exact unreduced_nextState_modEq seed (index + 1)

/-- Congruent seeds have the same states. -/
theorem states_congr
    {seed other : Nat}
    (congruent : seed ≡ other [MOD stateModulus])
    (count : Nat) :
    states seed count = states other count := by
  rw [states_eq, states_eq]
  exact List.map_congr_left fun index _ => unreduced_modEq congruent (index + 1)

/-- Fewer states are the first of more. -/
theorem states_initial
    (seed : Nat)
    {fewer more : Nat}
    (atMost : fewer ≤ more) :
    states seed fewer <+: states seed more := by
  induction fewer generalizing seed more with
  | zero => exact List.nil_prefix
  | succ fewer inductionHypothesis =>
      obtain ⟨others, rfl⟩ := Nat.exists_eq_add_of_le atMost
      rw [Nat.succ_add, states, states, List.prefix_cons_inj]
      exact inductionHypothesis _ (Nat.le_add_right _ _)

/-! ## Entries -/

/-- A pool that is not empty has an entry for every state. -/
theorem draw_eq
    {pool : List Expression}
    (filled : 0 < pool.length)
    (name : String)
    (size : Nat) :
    draw pool name size =
      (states (nameSeed name) size).map fun state =>
        pool.get ⟨state % pool.length, Nat.mod_lt state filled⟩ := by
  have picked (state : Nat) :
      pick pool state = some (pool.get ⟨state % pool.length, Nat.mod_lt state filled⟩) :=
    List.getElem?_eq_getElem (Nat.mod_lt state filled)
  unfold draw
  rw [List.filterMap_congr fun state _ => picked state]
  exact congrFun List.filterMap_eq_map' _

/-- The entry at an index is the one that the reduced state picks. -/
theorem getElem?_draw
    {pool : List Expression}
    (filled : 0 < pool.length)
    (name : String)
    {size index : Nat}
    (within : index < size) :
    (draw pool name size)[index]? =
      pool[unreduced (codeSum name) (index + 1) % stateModulus % pool.length]? := by
  rw [draw_eq filled, nameSeed_eq_codeSum, states_eq, List.map_map, List.getElem?_map,
    List.getElem?_range within, List.getElem?_eq_getElem (Nat.mod_lt _ filled)]
  rfl

theorem length_draw
    {pool : List Expression}
    (filled : 0 < pool.length)
    (name : String)
    (size : Nat) :
    (draw pool name size).length = size := by
  rw [draw_eq filled, states_eq, List.length_map, List.length_map, List.length_range]

/-- Names whose code sums are congruent are drawn the same entries. -/
theorem draw_congr
    {name other : String}
    (congruent : codeSum name ≡ codeSum other [MOD stateModulus])
    (pool : List Expression)
    (size : Nat) :
    draw pool name size = draw pool other size := by
  unfold draw
  rw [nameSeed_eq_codeSum, nameSeed_eq_codeSum, states_congr congruent]

/-! ## Signatures -/

/-- The pool that a signature is drawn from. -/
def drawnPool (pool : Option (List Expression)) : List Expression :=
  pool.getD standardCatalog.identityPool

section

variable {name : String} {size : Nat} {pool : Option (List Expression)}

theorem signature_of_filled (filled : drawnPool pool ≠ []) :
    signature (.text name) size pool = .ok (draw (drawnPool pool) name size) := by
  have notNegative : ¬ (size : Int) < 0 := by omega
  have notEmpty : ¬ (drawnPool pool).isEmpty = true := by
    rwa [List.isEmpty_iff]
  unfold drawnPool at notEmpty ⊢
  unfold signature
  dsimp only
  rw [if_neg notNegative, if_neg notEmpty, Int.toNat_natCast]

/-- What has been drawn has been drawn from a pool that is not empty. -/
theorem filled_of_signature
    {size : Int}
    {entries : List Expression}
    (drawn : signature (.text name) size pool = .ok entries) :
    drawnPool pool ≠ [] := by
  unfold signature at drawn
  dsimp only at drawn
  split at drawn
  next => cases drawn
  next =>
    split at drawn
    next => cases drawn
    next notEmpty => exact fun empty => notEmpty (List.isEmpty_iff.mpr empty)

theorem signature_congr
    {other : String}
    (congruent : codeSum name ≡ codeSum other [MOD stateModulus])
    (size : Int) :
    signature (.text name) size pool = signature (.text other) size pool := by
  unfold signature
  dsimp only
  rw [draw_congr congruent]

end

/-- The signature of a name in closed form. From a pool that is not empty it has as many entries
as wanted. The entry at an index is the one that the state after one step more picks, which is
the number that the rule gives without reductions, reduced once. So a signature is a prefix of
every longer one, and two names have the same signatures if their code sums are congruent, in
particular if they have the same characters in another order. -/
theorem signature_closedForm (pool : Option (List Expression)) :
    (drawnPool pool ≠ [] → ∀ (name : String) (size : Nat),
      ∃ entries : List Expression,
        signature (.text name) size pool = .ok entries ∧
          entries.length = size ∧
          ∀ index < size,
            entries[index]? =
              (drawnPool pool)[(stateMultiplier ^ (index + 1) * codeSum name +
                  stateIncrement * ∑ power ∈ Finset.range (index + 1), stateMultiplier ^ power) %
                stateModulus % (drawnPool pool).length]?) ∧
    (∀ (name : String) (fewer more : Nat) (front entries : List Expression),
      fewer ≤ more →
      signature (.text name) fewer pool = .ok front →
      signature (.text name) more pool = .ok entries →
        front <+: entries) ∧
    (∀ name other : String,
      codeSum name ≡ codeSum other [MOD stateModulus] →
        ∀ size : Int, signature (.text name) size pool = signature (.text other) size pool) ∧
    (∀ name other : String,
      name.toList.Perm other.toList →
        ∀ size : Int, signature (.text name) size pool = signature (.text other) size pool) := by
  refine ⟨?entries, ?longer, ?congruent, ?permuted⟩
  case entries =>
    intro filled name size
    have positive := List.length_pos_iff.mpr filled
    exact ⟨_, signature_of_filled filled, length_draw positive name size,
      fun index within => getElem?_draw positive name within⟩
  case longer =>
    intro name fewer more front entries atMost frontDrawn drawn
    have filled := filled_of_signature drawn
    rw [signature_of_filled filled] at frontDrawn drawn
    cases frontDrawn
    cases drawn
    exact (states_initial _ atMost).filterMap _
  case congruent =>
    intro name other congruent size
    exact signature_congr congruent size
  case permuted =>
    intro name other permuted size
    exact signature_congr (congrArg (· % stateModulus) (codeSum_eq_of_perm permuted)) size

/-- The first and the third entry of a short name, drawn from the standard pool. Fewer entries of
it are the first of more, the name written backwards has the same, and so have a name with the
code zero and one whose code is the modulus. -/
theorem signature_closedForm_samples :
    drawnPool none ≠ [] ∧
      ∃ front entries : List Expression,
        signature (.text "ab") 2 none = .ok front ∧
          signature (.text "ab") 5 none = .ok entries ∧
          entries.length = 5 ∧
          entries[0]? = (drawnPool none)[12]? ∧
          entries[2]? = (drawnPool none)[2]? ∧
          front <+: entries ∧
          "ab".toList.Perm "ba".toList ∧
          signature (.text "ba") 5 none = .ok entries ∧
          codeSum "\x00" ≡ codeSum (String.singleton (Char.ofNat 233280)) [MOD stateModulus] ∧
          signature (.text "\x00") 5 none =
            signature (.text (String.singleton (Char.ofNat 233280))) 5 none := by
  have filled : drawnPool none ≠ [] := by decide
  have permuted : "ab".toList.Perm "ba".toList := by decide
  have congruent :
      codeSum "\x00" ≡ codeSum (String.singleton (Char.ofNat 233280)) [MOD stateModulus] := by
    decide +kernel
  obtain ⟨drawn, longer, congruentNames, permutedNames⟩ := signature_closedForm none
  obtain ⟨front, frontDrawn, -, -⟩ := drawn filled "ab" 2
  obtain ⟨entries, entriesDrawn, length, entry⟩ := drawn filled "ab" 5
  have begins := longer "ab" 2 5 front entries (by decide) frontDrawn entriesDrawn
  have reversed := permutedNames "ab" "ba" permuted 5
  exact ⟨filled, front, entries, frontDrawn, entriesDrawn, length, entry 0 (by decide),
    entry 2 (by decide), begins, permuted, reversed.symm.trans entriesDrawn, congruent,
    congruentNames _ _ congruent 5⟩

end FormulaGrid
