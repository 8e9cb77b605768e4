import FormulaGrid.Proofs.Variant.Harvest

/-!
Contract: the products that are proposed for an integer are its pairs of factors.

Owns:
- the pairs of factors of a number, the smaller factor first and greater than one
  (`factorPairs`): all of them, each once, in increasing order;
- the text of the product that a pair stands for (`productText`);
- what the first steps of the products propose (`candidates_product`);
- with enough attempts every pair is proposed once, and nothing else (`harvest_factorPairs`);
- an integer beyond the range of doubles has no products (`harvest_overlargeInteger`).

A number that is not prime has a factor up to its square root, and the other factor follows from
it. So the square root is the last divisor that has to be tried.
-/

namespace FormulaGrid

/-- The pairs of factors of a number, by increasing first factor. -/
def factorPairs (number : Nat) : List (Nat × Nat) :=
  ((List.range' 2 (Nat.sqrt number - 1)).filter (· ∣ number)).map
    fun factor => (factor, number / factor)

/-- The factors up to the square root are those that are not greater than the other factor. -/
theorem mem_factorPairs {number first second : Nat} :
    (first, second) ∈ factorPairs number ↔
      2 ≤ first ∧ first ≤ second ∧ first * second = number := by
  unfold factorPairs
  simp only [List.mem_map, List.mem_filter, List.mem_range'_1, decide_eq_true_eq, Prod.mk.injEq]
  constructor
  · rintro ⟨factor, ⟨⟨least, below⟩, divides⟩, rfl, rfl⟩
    have atMostRoot : factor ≤ Nat.sqrt number := by omega
    refine ⟨least, ?_, Nat.mul_div_cancel' divides⟩
    rw [Nat.le_div_iff_mul_le (by omega)]
    exact Nat.le_sqrt.mp atMostRoot
  · rintro ⟨least, ordered, rfl⟩
    have atMostRoot : first ≤ Nat.sqrt (first * second) :=
      Nat.le_sqrt.mpr (Nat.mul_le_mul_left first ordered)
    exact ⟨first, ⟨⟨least, by omega⟩, Nat.dvd_mul_right first second⟩, rfl,
      Nat.mul_div_cancel_left second (by omega)⟩

theorem pairwise_factorPairs (number : Nat) :
    (factorPairs number).Pairwise fun earlier later => earlier.1 < later.1 := by
  unfold factorPairs
  rw [List.pairwise_map]
  exact List.Pairwise.filter _ List.pairwise_lt_range'

/-- The root of a small number is one at most, and so it has no pairs. -/
theorem factorPairs_of_small {number : Nat} (small : number < 4) : factorPairs number = [] := by
  have root : Nat.sqrt number < 2 := Nat.sqrt_lt.mpr small
  have none : Nat.sqrt number - 1 = 0 := by omega
  rw [factorPairs, none]
  rfl

namespace Variant

/-- The product of a pair, as it is written for an integer: the sign goes with the second
factor. -/
def productText (whole : Int) (pair : Nat × Nat) : String :=
  Numeral.natural pair.1 ++ "*" ++
    if whole < 0 then "(-" ++ Numeral.natural pair.2 ++ ")" else Numeral.natural pair.2

/-- A divisor leaves the other factor without a rest, whatever the sign. -/
theorem integerOperand_ediv
    {whole : Int}
    {factor : Nat}
    (positive : 0 < factor)
    (divides : factor ∣ whole.natAbs) :
    integerOperand (whole / (factor : Int)) =
      if whole < 0 then
        "(-" ++ Numeral.natural (whole.natAbs / factor) ++ ")"
      else
        Numeral.natural (whole.natAbs / factor) := by
  obtain ⟨other, product⟩ := divides
  have quotient : whole.natAbs / factor = other := by
    rw [product, Nat.mul_div_cancel_left other positive]
  have nonzero : (factor : Int) ≠ 0 := by omega
  rw [quotient]
  split
  next negative =>
    have same : whole = factor * -(other : Int) := by
      rw [Int.mul_neg, ← Int.natCast_mul, ← product]
      omega
    have otherPositive : 0 < other := by
      apply Nat.pos_of_ne_zero
      rintro rfl
      omega
    rw [same, Int.mul_ediv_cancel_left _ nonzero]
    have below : -(other : Int) < 0 := by omega
    unfold integerOperand bracketed Numeral.integer
    rw [decide_eq_true below, if_pos rfl, if_pos below, Int.natAbs_neg, Int.natAbs_natCast,
      ← String.append_assoc]
    rfl
  next notNegative =>
    have same : whole = factor * (other : Int) := by
      rw [← Int.natCast_mul, ← product]
      omega
    rw [same, Int.mul_ediv_cancel_left _ nonzero]
    have notBelow : ¬ (other : Int) < 0 := by omega
    unfold integerOperand bracketed Numeral.integer
    rw [decide_eq_false notBelow, if_neg Bool.false_ne_true, if_neg notBelow, Int.natAbs_natCast]

theorem productProposal_eq (whole : Int) (index : Nat) :
    productProposal whole index =
      if index + 2 ∣ whole.natAbs then
        some ⟨productText whole (index + 2, whole.natAbs / (index + 2)), .product⟩
      else
        none := by
  unfold productProposal productText
  by_cases divides : index + 2 ∣ whole.natAbs
  · rw [if_pos divides, ← integerOperand_ediv (by omega) divides]
    exact if_pos (beq_iff_eq.mpr (Nat.mod_eq_zero_of_dvd divides))
  · rw [if_neg divides]
    refine if_neg ?_
    rw [beq_iff_eq, ← Nat.dvd_iff_mod_eq_zero]
    exact divides

/-- The first steps of the products try as many divisors and propose those that divide. -/
theorem candidates_product (whole : Int) (steps count : Nat) :
    (⟨steps, productProposal whole⟩ : Steps).candidates 0 count =
      ((List.range' 2 count).filter (· ∣ whole.natAbs)).map fun factor =>
        ⟨productText whole (factor, whole.natAbs / factor), .product⟩ := by
  have shifted : List.range' 2 count = (List.range' 0 count).map (2 + ·) := by
    rw [List.map_add_range']
  unfold Steps.candidates
  rw [shifted, ← List.filterMap_eq_filter, List.map_filterMap, List.filterMap_map]
  refine List.filterMap_congr fun index _ => ?_
  dsimp only [Function.comp_apply]
  rw [productProposal_eq, Nat.add_comm index 2]
  by_cases divides : 2 + index ∣ whole.natAbs <;> simp [divides, Option.guard]

section

variable {bound : Int} {target : Number} {whole : Int} {steps : Steps}

/-- All that the products propose are the pairs of factors. -/
theorem candidates_productSteps
    (formed : Pattern.product.steps bound target = .ok steps)
    (isWhole : target.whole? = some whole) :
    steps.candidates 0 steps.count =
      (factorPairs whole.natAbs).map fun pair => ⟨productText whole pair, .product⟩ := by
  rcases productSteps_cases formed with
    ⟨notWhole, -⟩ | ⟨other, isOther, ⟨small, rfl⟩ | ⟨-, rfl⟩⟩
  · cases isWhole.symm.trans notWhole
  · cases isWhole.symm.trans isOther
    rw [factorPairs_of_small small]
    rfl
  · cases isWhole.symm.trans isOther
    dsimp only
    rw [candidates_product, factorPairs, List.map_map]
    rfl

/-- It costs an attempt to try a divisor, and there are as many as the root has predecessors. -/
theorem count_productSteps
    (formed : Pattern.product.steps bound target = .ok steps)
    (isWhole : target.whole? = some whole) :
    steps.count = Nat.sqrt whole.natAbs - 1 := by
  rw [count_of_steps formed]
  simp only [Pattern.cost, isWhole]
  split
  next => rfl
  next small =>
    have root : Nat.sqrt whole.natAbs < 2 := Nat.sqrt_lt.mpr (Nat.not_le.mp small)
    omega

end

/-- A run that wants all products of an integer, with attempts enough, proposes its pairs of
factors. -/
theorem harvest_product_of_whole
    (bound : Int)
    {target : Number}
    {whole : Int}
    {budget : Budget}
    (isWhole : target.whole? = some whole)
    (inRange : target.toFloat?.isSome = true)
    (affordable : ((budget.spent + (Nat.sqrt whole.natAbs - 1) : Nat) : Int) ≤ budget.limit) :
    harvest .product bound target none budget =
      ⟨(factorPairs whole.natAbs).map fun pair => ⟨productText whole pair, .product⟩,
        { budget with spent := budget.spent + (Nat.sqrt whole.natAbs - 1) }, none⟩ := by
  obtain ⟨steps, formed⟩ : ∃ steps, Pattern.product.steps bound target = .ok steps := by
    show ∃ steps, productSteps target = .ok steps
    rw [productSteps, wholeValue?_eq, if_pos inRange, isWhole]
    dsimp only [bind, Except.bind]
    split <;> exact ⟨_, rfl⟩
  have count := count_productSteps formed isWhole
  have drains := harvestFrom_of_affordable steps 0 steps.count (by rwa [count])
  rw [candidates_productSteps formed isWhole, count] at drains
  unfold harvest
  rw [formed]
  dsimp only
  rw [count]
  exact drains

/-- A target that is no integer has no products, and none is paid for. -/
theorem harvest_product_of_not_whole
    (bound : Int)
    {target : Number}
    (budget : Budget)
    (notWhole : ∀ whole : Int, target.equalsInt whole = false) :
    harvest .product bound target none budget = ⟨[], budget, none⟩ := by
  have none : target.whole? = none := Number.whole?_eq_none_iff.mpr notWhole
  have formed : Pattern.product.steps bound target = .ok .none := by
    cases target with
    | int value => cases none
    | float value =>
        show productSteps (.float value) = _
        rw [productSteps, wholeValue?_eq, none]
        rfl
  unfold harvest
  rw [formed]
  rfl

/-- An integer beyond the range of doubles is a fault. -/
theorem harvest_product_of_beyond
    (bound : Int)
    {target : Number}
    (budget : Budget)
    (beyond : target.toFloat? = none) :
    harvest .product bound target none budget =
      ⟨[], budget, some (.range .integerBeyondFloat)⟩ := by
  have formed : Pattern.product.steps bound target = .error (.range .integerBeyondFloat) := by
    show productSteps target = _
    rw [productSteps, wholeValue?_eq, beyond]
    rfl
  unfold harvest
  rw [formed]
  rfl

/-- Products are the pairs of factors. If a target is an integer in the range of doubles, of
either sign, and there are attempts enough, each pair of factors greater than one is proposed
once, by increasing smaller factor, and nothing else is: as the smaller factor, the sign of a
product, and the other factor, which is put into parentheses with its sign if the target is
negative. For a target that is no integer there are no products, and none is paid for. An integer
beyond the range of doubles is a fault. -/
theorem harvest_factorPairs (bound : Int) (target : Number) (budget : Budget) :
    (∀ whole : Int, target.equalsInt whole = true → target.toFloat?.isSome = true →
      ((budget.spent + (Nat.sqrt whole.natAbs - 1) : Nat) : Int) ≤ budget.limit →
      ∃ pairs : List (Nat × Nat),
        (pairs.Pairwise fun earlier later => earlier.1 < later.1) ∧
          (∀ first second, (first, second) ∈ pairs ↔
            2 ≤ first ∧ first ≤ second ∧ first * second = whole.natAbs) ∧
          (harvest .product bound target none budget).failure = none ∧
          (harvest .product bound target none budget).candidates =
            pairs.map fun pair =>
              ⟨Numeral.natural pair.1 ++ "*" ++
                if whole < 0 then "(-" ++ Numeral.natural pair.2 ++ ")"
                else Numeral.natural pair.2, .product⟩) ∧
      ((∀ whole : Int, target.equalsInt whole = false) →
        harvest .product bound target none budget = ⟨[], budget, none⟩) ∧
      (target.toFloat? = none →
        harvest .product bound target none budget =
          ⟨[], budget, some (.range .integerBeyondFloat)⟩) := by
  refine ⟨?_, harvest_product_of_not_whole bound budget, harvest_product_of_beyond bound budget⟩
  intro whole equals inRange affordable
  have run := harvest_product_of_whole bound (Number.whole?_eq_some_iff.mpr equals) inRange
    affordable
  rw [run]
  exact ⟨factorPairs whole.natAbs, pairwise_factorPairs _, fun _ _ => mem_factorPairs, rfl, rfl⟩

/-- The factor pairs of twelve, for its negative. -/
theorem harvest_factorPairs_negativeTwelve :
    (Number.float (-12.0)).equalsInt (-12) = true ∧
      (Number.float (-12.0)).toFloat?.isSome = true ∧
      ((0 + (Nat.sqrt 12 - 1) : Nat) : Int) ≤ 2 ∧
      ∃ pairs : List (Nat × Nat),
        (∀ first second, (first, second) ∈ pairs ↔
          2 ≤ first ∧ first ≤ second ∧ first * second = 12) ∧
        (harvest .product factorialRatioBound (.float (-12.0)) none
            (Budget.fresh 2 (.float (-12.0)) 1)).candidates =
          pairs.map fun pair =>
            ⟨Numeral.natural pair.1 ++ "*" ++ ("(-" ++ Numeral.natural pair.2 ++ ")"), .product⟩ := by
  have equals : (Number.float (-12.0)).equalsInt (-12) = true := by decide +kernel
  have affordable : ((0 + (Nat.sqrt 12 - 1) : Nat) : Int) ≤ 2 := by decide +kernel
  obtain ⟨pairs, -, isPair, -, candidates⟩ :=
    (harvest_factorPairs factorialRatioBound (.float (-12.0))
      (Budget.fresh 2 (.float (-12.0)) 1)).1 (-12) equals rfl affordable
  exact ⟨equals, rfl, affordable, pairs, isPair, candidates⟩

/-- An integer beyond the range of doubles has factors as well, but no products are proposed
for it, however many attempts there are. -/
theorem harvest_overlargeInteger :
    (Number.int (10 ^ 155 * 10 ^ 154)).equalsInt (10 ^ 155 * 10 ^ 154) = true ∧
      2 ≤ 5 * 10 ^ 154 * 10 ^ 154 ∧
      2 * (5 * 10 ^ 154 * 10 ^ 154) = (10 ^ 155 * 10 ^ 154 : Int).natAbs ∧
      ∀ budget : Budget,
        (harvest .product factorialRatioBound (.int (10 ^ 155 * 10 ^ 154)) none
          budget).candidates = [] := by
  have beyond : fitsFloat (10 ^ 155 * 10 ^ 154) = false := by decide +kernel
  have outOfRange : (Number.int (10 ^ 155 * 10 ^ 154)).toFloat? = none := by
    unfold Number.toFloat?
    dsimp only
    rw [beyond]
    rfl
  refine ⟨by decide +kernel, by decide +kernel, by decide +kernel, ?_⟩
  intro budget
  rw [harvest_product_of_beyond factorialRatioBound budget outOfRange]

end Variant

end FormulaGrid
