import FormulaGrid.Proofs.Signature
import Mathlib.NumberTheory.Multiplicity

/-!
Contract: the states of a seed take every value before they take one again.

Owns:
- sums of powers (`powerSum`); under a condition on the prime factors of a modulus it divides the
  sum of as many powers as it divides (`dvd_powerSum_iff`);
- the conditions that the constants of the rule meet (`dvd_multiplier_of_prime`,
  `coprime_increment`), which are all that is used of them;
- the state of a seed at an index (`stateAt`); two are the same just if the indices are congruent
  (`stateAt_eq_iff`), so that a window of as many states as the modulus has is a permutation of
  the residues (`window_perm`);
- a pool whose size divides the modulus is drawn from evenly in each such window
  (`drawnWindow_perm`, `signature_fullPeriod`).

A step changes a state by a multiple of the increment and of the state. After some steps the sum of
as many powers of the multiplier is a factor of the whole change, and the other factor is coprime to
the modulus. Hence the modulus has to divide the sum of powers, and the prime factors of that sum
are counted by lifting the exponent.
-/

namespace FormulaGrid

/-! ## Sums of powers -/

/-- The sum of the first powers of a number, from the power zero on. -/
def powerSum (base count : Nat) : Nat :=
  ∑ power ∈ Finset.range count, base ^ power

section

variable {base : Nat} (large : 1 < base) (count : Nat)

include large

theorem powerSum_mul_pred : powerSum base count * (base - 1) = base ^ count - 1 :=
  geom_sum_mul_of_one_le large.le count

theorem pow_eq_powerSum : base ^ count = powerSum base count * (base - 1) + 1 := by
  have positive : 0 < base ^ count := Nat.pow_pos (Nat.zero_lt_of_lt large)
  rw [powerSum_mul_pred large]
  omega

section

variable {prime : Nat} (isPrime : prime.Prime) (divides : prime ∣ base - 1)

include isPrime divides

/-- A prime factor of a number less one does not divide the number. -/
theorem not_dvd_of_dvd_pred : ¬ prime ∣ base := by
  intro dividesBase
  have dividesOne : prime ∣ base - (base - 1) := Nat.dvd_sub dividesBase divides
  rw [Nat.sub_sub_self large.le] at dividesOne
  exact isPrime.one_lt.ne' (Nat.dvd_one.mp dividesOne)

variable (four : prime = 2 → 4 ∣ base - 1)

include four

/-- The exponent of the prime is lifted. Two is apart from the other primes: it needs to
divide twice. -/
theorem emultiplicity_pow_pred :
    emultiplicity prime (base ^ count - 1) =
      emultiplicity prime (base - 1) + emultiplicity prime count := by
  have notBase := not_dvd_of_dvd_pred large isPrime divides
  rcases isPrime.eq_two_or_odd' with rfl | odd
  · -- The lifting for two is about integers, so the numbers are cast and cast back.
    have positive : 1 ≤ base ^ count := Nat.one_le_pow _ _ (Nat.zero_lt_of_lt large)
    have four : (4 : ℤ) ∣ base - 1 := by
      have casted := Int.natCast_dvd_natCast.mpr (four rfl)
      rwa [Nat.cast_sub large.le] at casted
    have odd : ¬ (2 : ℤ) ∣ base := by exact_mod_cast notBase
    have lifted := Int.two_pow_sub_pow' count four odd
    rw [one_pow] at lifted
    rw [← Int.natCast_emultiplicity, ← Int.natCast_emultiplicity 2 (base - 1),
      ← Int.natCast_emultiplicity 2 count, Nat.cast_sub positive, Nat.cast_sub large.le,
      Nat.cast_pow]
    exact lifted
  · have lifted := Nat.emultiplicity_pow_sub_pow isPrime odd divides notBase count
    rwa [one_pow] at lifted

/-- The prime divides the sum of powers as often as their number. -/
theorem emultiplicity_powerSum :
    emultiplicity prime (powerSum base count) = emultiplicity prime count := by
  have lifted := emultiplicity_pow_pred large count isPrime divides four
  have finite : emultiplicity prime (base - 1) ≠ ⊤ := by
    apply finiteMultiplicity_iff_emultiplicity_ne_top.mp
    exact Nat.finiteMultiplicity_iff.mpr ⟨isPrime.ne_one, Nat.sub_pos_of_lt large⟩
  rw [← powerSum_mul_pred large, emultiplicity_mul isPrime.prime,
    add_comm (emultiplicity prime (base - 1))] at lifted
  exact WithTop.add_right_cancel finite lifted

end

/-- If each prime factor of the modulus divides the base less one, and two divides it twice, then
the modulus divides the sum of powers just if it divides their number. -/
theorem dvd_powerSum_iff
    {modulus : Nat}
    (factors : ∀ prime : Nat, prime.Prime → prime ∣ modulus →
      prime ∣ base - 1 ∧ (prime = 2 → 4 ∣ base - 1)) :
    modulus ∣ powerSum base count ↔ modulus ∣ count := by
  have alike (prime places : Nat) (isPrime : prime.Prime) (divides : prime ^ places ∣ modulus) :
      prime ^ places ∣ powerSum base count ↔ prime ^ places ∣ count := by
    cases places with
    | zero => simp
    | succ places =>
        obtain ⟨divided, four⟩ :=
          factors prime isPrime (dvd_trans (dvd_pow_self prime places.succ_ne_zero) divides)
        rw [pow_dvd_iff_le_emultiplicity, pow_dvd_iff_le_emultiplicity,
          emultiplicity_powerSum large count isPrime divided four]
  rw [Nat.dvd_iff_prime_pow_dvd_dvd, Nat.dvd_iff_prime_pow_dvd_dvd count]
  constructor
  · intro divided prime places isPrime divides
    exact (alike prime places isPrime divides).mp (divided prime places isPrime divides)
  · intro divided prime places isPrime divides
    exact (alike prime places isPrime divides).mpr (divided prime places isPrime divides)

end

/-! ## The constants of the rule -/

theorem one_lt_stateMultiplier : 1 < stateMultiplier := by decide

theorem stateModulus_pos : 0 < stateModulus := by decide

/-- The modulus has no other prime factors than the multiplier less one. -/
theorem stateModulus_dvd_pow : stateModulus ∣ (stateMultiplier - 1) ^ 6 := by decide

theorem dvd_multiplier_of_prime
    {prime : Nat}
    (isPrime : prime.Prime)
    (divides : prime ∣ stateModulus) :
    prime ∣ stateMultiplier - 1 ∧ (prime = 2 → 4 ∣ stateMultiplier - 1) :=
  ⟨isPrime.dvd_of_dvd_pow (divides.trans stateModulus_dvd_pow), fun _ => by decide⟩

/-- The other factor of the change of a state is coprime to the modulus. -/
theorem coprime_increment (state : Nat) :
    stateModulus.Coprime ((stateMultiplier - 1) * state + stateIncrement) := by
  have constants : (stateMultiplier - 1).Coprime stateIncrement := by decide
  apply Nat.Coprime.coprime_dvd_left stateModulus_dvd_pow
  apply Nat.Coprime.pow_left
  rwa [Nat.coprime_mul_left_add_right]

/-! ## States by their index -/

/-- The state of a seed at an index: the one after one step more. -/
def stateAt (seed index : Nat) : Nat :=
  nextState^[index + 1] seed

theorem states_eq_map_stateAt (seed count : Nat) :
    states seed count = (List.range count).map (stateAt seed) := by
  induction count generalizing seed with
  | zero => rfl
  | succ count inductionHypothesis =>
      rw [states, inductionHypothesis, List.range_succ_eq_map, List.map_cons, List.map_map]
      rfl

theorem stateAt_eq (seed index : Nat) :
    stateAt seed index = unreduced seed (index + 1) % stateModulus := by
  have same := (states_eq_map_stateAt seed (index + 1)).symm.trans (states_eq seed (index + 1))
  exact List.map_inj_left.mp same index (List.mem_range.mpr index.lt_succ_self)

theorem stateAt_lt (seed index : Nat) : stateAt seed index < stateModulus := by
  rw [stateAt_eq]
  exact Nat.mod_lt _ stateModulus_pos

/-- What some steps do to a state, if none of them reduces it. -/
theorem unreduced_eq_add (seed steps : Nat) :
    unreduced seed steps =
      seed + powerSum stateMultiplier steps *
        ((stateMultiplier - 1) * seed + stateIncrement) := by
  have power := pow_eq_powerSum one_lt_stateMultiplier steps
  unfold unreduced
  rw [power]
  unfold powerSum
  ring

/-- The last of the steps may be made from where the first have led. -/
theorem unreduced_add (seed first others : Nat) :
    unreduced seed (first + others) = unreduced (unreduced seed first) others := by
  induction first generalizing seed with
  | zero => simp [unreduced]
  | succ first inductionHypothesis =>
      rw [Nat.succ_add, ← unreduced_step, inductionHypothesis, unreduced_step]

/-- A state comes again after as many steps as the modulus divides. -/
theorem unreduced_modEq_iff (seed steps : Nat) :
    unreduced seed steps ≡ seed [MOD stateModulus] ↔ stateModulus ∣ steps := by
  rw [unreduced_eq_add, Nat.add_modEq_left_iff, (coprime_increment seed).dvd_mul_right,
    dvd_powerSum_iff one_lt_stateMultiplier steps fun _ => dvd_multiplier_of_prime]

/-- The states at two indices are the same just if the indices are congruent. -/
theorem stateAt_eq_iff (seed index other : Nat) :
    stateAt seed index = stateAt seed other ↔ index ≡ other [MOD stateModulus] := by
  wlog ordered : index ≤ other generalizing index other
  · rw [eq_comm, this other index (Nat.le_of_not_le ordered)]
    exact Nat.ModEq.comm
  obtain ⟨steps, rfl⟩ := Nat.exists_eq_add_of_le ordered
  have later : unreduced seed (index + steps + 1) =
      unreduced (unreduced seed (index + 1)) steps := by
    rw [Nat.add_right_comm, unreduced_add]
  rw [stateAt_eq, stateAt_eq, later, eq_comm]
  exact (unreduced_modEq_iff _ steps).trans Nat.left_modEq_add_iff.symm

/-- The states repeat after a number of steps just if the modulus divides it. -/
theorem stateAt_periodic_iff (seed period : Nat) :
    (∀ index : Nat, stateAt seed (index + period) = stateAt seed index) ↔
      stateModulus ∣ period := by
  simp only [stateAt_eq_iff, Nat.add_modEq_left_iff, forall_const]

/-! ## Windows -/

/-- The states of a seed from an index on, as many as the modulus has. -/
def window (seed start size : Nat) : List Nat :=
  ((states seed size).drop start).take stateModulus

theorem window_eq_map_stateAt
    (seed : Nat)
    {start size : Nat}
    (within : start + stateModulus ≤ size) :
    window seed start size = (List.range' start stateModulus).map (stateAt seed) := by
  unfold window
  rw [states_eq_map_stateAt]
  apply List.ext_getElem
  · simp only [List.length_take, List.length_drop, List.length_map, List.length_range,
      List.length_range']
    omega
  · intro place _ _
    simp

/-- A window has each residue once. -/
theorem window_perm
    (seed : Nat)
    {start size : Nat}
    (within : start + stateModulus ≤ size) :
    (window seed start size).Perm (List.range stateModulus) := by
  rw [window_eq_map_stateAt seed within]
  have different : ((List.range' start stateModulus).map (stateAt seed)).Nodup := by
    refine List.Nodup.map_on (fun index inWindow other otherInWindow same => ?_)
      (List.nodup_range' 1)
    obtain ⟨place, small, rfl⟩ := List.mem_range'.mp inWindow
    obtain ⟨otherPlace, otherSmall, rfl⟩ := List.mem_range'.mp otherInWindow
    rw [Nat.one_mul, Nat.one_mul] at same ⊢
    have congruent := Nat.ModEq.add_left_cancel' start ((stateAt_eq_iff seed _ _).mp same)
    rw [congruent.eq_of_lt_of_lt small otherSmall]
  have residues :
      (List.range' start stateModulus).map (stateAt seed) ⊆ List.range stateModulus := by
    intro state inWindow
    obtain ⟨index, -, rfl⟩ := List.mem_map.mp inWindow
    exact List.mem_range.mpr (stateAt_lt seed index)
  apply (List.subperm_of_subset different residues).perm_of_length_le
  rw [List.length_map, List.length_range', List.length_range]

/-! ## Pools -/

section

variable {Item : Type} {pool : List Item} (filled : 0 < pool.length)

/-- To pick by all numbers below a multiple of the size goes through the pool again and again. -/
theorem map_range_get (rounds : Nat) :
    ((List.range (pool.length * rounds)).map fun state =>
      pool.get ⟨state % pool.length, Nat.mod_lt state filled⟩) =
        (List.replicate rounds pool).flatten := by
  induction rounds with
  | zero => rfl
  | succ rounds inductionHypothesis =>
      have lastRound : ((List.range pool.length).map fun place =>
          pool.get ⟨(pool.length * rounds + place) % pool.length, Nat.mod_lt _ filled⟩) = pool := by
        apply List.ext_getElem
        · rw [List.length_map, List.length_range]
        · intro place small within
          simp [Nat.mod_eq_of_lt within]
      rw [Nat.mul_succ, List.range_add, List.map_append, inductionHypothesis, List.map_map,
        List.replicate_succ', List.flatten_append, List.flatten_singleton]
      exact congrArg ((List.replicate rounds pool).flatten ++ ·) lastRound

/-- So each place of the pool is picked equally often by the states of a window. -/
theorem count_window
    (filled : 0 < pool.length)
    (divides : pool.length ∣ stateModulus)
    (seed : Nat)
    {start size place : Nat}
    (within : start + stateModulus ≤ size)
    (inPool : place < pool.length) :
    ((window seed start size).map (· % pool.length)).count place =
      stateModulus / pool.length := by
  obtain ⟨rounds, whole⟩ := divides
  have places : (List.range (pool.length * rounds)).map (· % pool.length) =
      (List.replicate rounds (List.range pool.length)).flatten := by
    have filledRange : 0 < (List.range pool.length).length := by rwa [List.length_range]
    rw [← map_range_get filledRange]
    simp
  have once : (List.range pool.length).count place = 1 :=
    List.count_eq_one_of_mem List.nodup_range (List.mem_range.mpr inPool)
  rw [((window_perm seed within).map _).count_eq, whole, places, List.count_flatten,
    List.map_replicate, once, List.sum_replicate, smul_eq_mul, Nat.mul_one,
    Nat.mul_div_cancel_left rounds filled]

end

/-- The entries that are drawn in a window are the entries of the pool, each as often as all
others. -/
theorem drawnWindow_perm
    {pool : List Expression}
    (filled : 0 < pool.length)
    (divides : pool.length ∣ stateModulus)
    (name : String)
    {start size : Nat}
    (within : start + stateModulus ≤ size) :
    (((draw pool name size).drop start).take stateModulus).Perm
      (List.replicate (stateModulus / pool.length) pool).flatten := by
  obtain ⟨rounds, whole⟩ := divides
  have picked := (window_perm (nameSeed name) within).map fun state =>
    pool.get ⟨state % pool.length, Nat.mod_lt state filled⟩
  rw [whole, Nat.mul_div_cancel_left rounds filled, ← map_range_get filled rounds, draw_eq filled,
    ← List.map_drop, ← List.map_take, ← whole]
  exact picked

/-- The rule has full period. From every seed the states repeat after a number of steps just if
the modulus divides it, the states at two indices are the same just if these are congruent, and
each window of as many states as the modulus has holds every residue once. If the size of a pool
divides the modulus, then each of its places is picked equally often in each window, and what a
signature has there are the entries of the pool, over and over, in some order. -/
theorem signature_fullPeriod :
    (∀ seed : Nat,
      (∀ count : Nat, states seed count = (List.range count).map (stateAt seed)) ∧
      (∀ period : Nat,
        (∀ index : Nat, stateAt seed (index + period) = stateAt seed index) ↔
          stateModulus ∣ period) ∧
      (∀ index other : Nat,
        stateAt seed index = stateAt seed other ↔ index ≡ other [MOD stateModulus]) ∧
      ∀ start size : Nat, start + stateModulus ≤ size →
        (((states seed size).drop start).take stateModulus).Perm (List.range stateModulus)) ∧
    ∀ (name : String) (pool : Option (List Expression)),
      (drawnPool pool).length ∣ stateModulus →
      ∀ start size : Nat, start + stateModulus ≤ size →
        (∀ place < (drawnPool pool).length,
          ((((states (nameSeed name) size).drop start).take stateModulus).map
            (· % (drawnPool pool).length)).count place =
              stateModulus / (drawnPool pool).length) ∧
        ∃ entries : List Expression,
          signature (.text name) size pool = .ok entries ∧
            ((entries.drop start).take stateModulus).Perm
              (List.replicate (stateModulus / (drawnPool pool).length)
                (drawnPool pool)).flatten := by
  constructor
  · intro seed
    exact ⟨states_eq_map_stateAt seed, stateAt_periodic_iff seed, stateAt_eq_iff seed,
      fun start size within => window_perm seed within⟩
  · intro name pool divides start size within
    have filled : 0 < (drawnPool pool).length := Nat.pos_of_dvd_of_pos divides stateModulus_pos
    refine ⟨fun place inPool => count_window filled divides _ within inPool, _,
      signature_of_filled (List.length_pos_iff.mp filled), ?_⟩
    exact drawnWindow_perm filled divides name within

/-- The twelve advanced entries of the standard catalog, drawn for a short name. The third state
comes again after 233280 steps and not after half as many, and behind the first entry stand all
twelve 19440 times each. -/
theorem signature_fullPeriod_advanced :
    (drawnPool (some advancedEntries)).length ∣ stateModulus ∧
      1 + stateModulus ≤ 1 + stateModulus ∧
      stateAt (nameSeed "ab") 2 = stateAt (nameSeed "ab") 233282 ∧
      stateAt (nameSeed "ab") 2 ≠ stateAt (nameSeed "ab") 116642 ∧
      (((states (nameSeed "ab") (1 + stateModulus)).drop 1).take stateModulus).Perm
        (List.range stateModulus) ∧
      ∃ entries : List Expression,
        signature (.text "ab") (1 + stateModulus : Nat) (some advancedEntries) = .ok entries ∧
          ((entries.drop 1).take stateModulus).Perm
            (List.replicate 19440 advancedEntries).flatten := by
  have divides : (drawnPool (some advancedEntries)).length ∣ stateModulus := by decide
  obtain ⟨sequence, drawn⟩ := signature_fullPeriod
  obtain ⟨-, -, same, windows⟩ := sequence (nameSeed "ab")
  obtain ⟨-, entries, drawnEntries, evenly⟩ :=
    drawn "ab" (some advancedEntries) divides 1 (1 + stateModulus) (Nat.le_refl _)
  exact ⟨divides, Nat.le_refl _, (same 2 233282).mpr (by decide),
    mt (same 2 116642).mp (by decide), windows 1 _ (Nat.le_refl _), entries, drawnEntries, evenly⟩

end FormulaGrid
