import FormulaGrid.Proofs.Number.Order
import FormulaGrid.Proofs.Number.Whole
import FormulaGrid.Proofs.Variant.Candidates
import Mathlib.Data.Nat.Sqrt

/-!
Contract: what the steps of a family cost.

Owns:
- the integer that a number equals (`Number.whole?`), which is the one that it compares equal
  to (`whole?_eq_some_iff`);
- the cost of a family for a target (`Pattern.cost`), said without its steps;
- each family has steps for a finite number (`exists_steps_of_finite`), as many as it costs
  (`count_of_steps`), and all but the products propose a candidate with every step
  (`proposing_of_steps`);
- what the first steps of two searches, one after the other, propose (`candidates_append`).

Does not own: which divisors the products find.
-/

namespace FormulaGrid

/-! ## Integral numbers -/

/-- A double is whole just if it is the integer that it compares equal to. -/
theorem Binary.toInt?_eq_some_iff (binary : Binary) (integer : Int) :
    binary.toInt? = some integer ↔ binary.compareInt integer = .eq := by
  have positive : 0 < binary.denominator := binary.denominator_pos
  have nonzero : (binary.denominator : Int) ≠ 0 := Int.natCast_ne_zero.mpr positive.ne'
  have compared : binary.compareInt integer = .eq ↔
      binary.withSign binary.numerator = integer * binary.denominator := by
    unfold compareInt
    exact Int.compare_eq_eq
  rw [compared]
  constructor
  · intro whole
    unfold toInt? at whole
    split at whole
    next divides =>
      have exact : binary.numerator / binary.denominator * binary.denominator =
          binary.numerator :=
        Nat.div_mul_cancel (Nat.dvd_of_mod_eq_zero (beq_iff_eq.mp divides))
      rw [← Option.some.inj whole, ← withSign_mul, exact]
    next => cases whole
  · intro same
    have divides : binary.denominator ∣ binary.numerator := by
      have magnitudes := congrArg Int.natAbs same
      rw [natAbs_withSign, Int.natAbs_mul, Int.natAbs_natCast] at magnitudes
      exact ⟨integer.natAbs, by rw [magnitudes, Nat.mul_comm]⟩
    have quotient : binary.withSign (binary.numerator / binary.denominator) = integer := by
      apply Int.eq_of_mul_eq_mul_right nonzero
      rw [← withSign_mul, Nat.div_mul_cancel divides, same]
    unfold toInt?
    rw [if_pos (beq_iff_eq.mpr (Nat.mod_eq_zero_of_dvd divides)), quotient]

namespace Number

/-- The integer that a number equals. -/
def whole? : Number → Option Int
  | .int value => some value
  | .float value => (Binary.ofFloat? value).bind Binary.toInt?

theorem whole?_eq_some_iff {number : Number} {integer : Int} :
    number.whole? = some integer ↔ number.equalsInt integer = true := by
  cases number with
  | int value => simp [whole?, equalsInt]
  | float value =>
      unfold whole? equalsInt
      dsimp only
      cases Binary.ofFloat? value with
      | none => simp
      | some binary => exact (binary.toInt?_eq_some_iff integer).trans beq_iff_eq.symm

theorem whole?_eq_none_iff {number : Number} :
    number.whole? = none ↔ ∀ integer, number.equalsInt integer = false := by
  simp only [Option.eq_none_iff_forall_ne_some, ne_eq, whole?_eq_some_iff, Bool.not_eq_true]

theorem whole?_of_fields
    {value : Float}
    {binary : Binary}
    (fields : Binary.ofFloat? value = some binary) :
    (Number.float value).whole? = binary.toInt? := by
  rw [whole?, fields]
  rfl

end Number

/-- The whole root is the natural square root. -/
theorem wholeRoot_eq_sqrt (value : Nat) : wholeRoot value = Nat.sqrt value :=
  Nat.eq_sqrt.mpr (wholeRoot_bounds value)

namespace Variant

/-- What a search takes for the integer of a target is the integer that it equals. An integer
beyond the range of doubles is a fault. -/
theorem wholeValue?_eq (target : Number) :
    wholeValue? target =
      if target.toFloat?.isSome then .ok target.whole?
      else .error (.range .integerBeyondFloat) := by
  cases target with
  | float value => rfl
  | int value =>
      cases fits : fitsFloat value <;> simp [wholeValue?, Number.toFloat?, Number.whole?, fits]

theorem whole?_of_wholeValue?
    {target : Number}
    {whole? : Option Int}
    (formed : wholeValue? target = .ok whole?) :
    whole? = target.whole? := by
  rw [wholeValue?_eq] at formed
  split at formed
  · exact (Except.ok.inj formed).symm
  · cases formed

/-! ## The number of steps -/

/-- How many attempts it takes to go through a family. -/
def Pattern.cost (bound : Int) (target : Number) : Pattern → Nat
  | parametric => 5
  | factorialRatio =>
      match target.whole? with
      | some whole => if 1 ≤ whole ∧ whole ≤ bound then 1 else 0
      | none => 0
  | neutral => if target.isNegative then 6 else 7
  | product =>
      match target.whole? with
      | some whole => if 4 ≤ whole.natAbs then Nat.sqrt whole.natAbs - 1 else 0
      | none => 0
  | sum =>
      match target.whole? with
      | some whole => if 2 ≤ whole then whole.toNat / 2 else max 1 (-whole).toNat
      | none => 0

/-- Every step proposes a candidate. -/
def Steps.Proposing (steps : Steps) : Prop :=
  ∀ index < steps.count, (steps.proposal index).isSome

theorem Steps.proposing_none : none.Proposing :=
  fun _ less => absurd less (Nat.not_lt_zero _)

theorem Steps.proposing_ofTexts (pattern : Pattern) (texts : List String) :
    (ofTexts pattern texts).Proposing := by
  intro index less
  have inTexts : index < texts.length := less
  show (texts[index]?.map _).isSome = true
  simp [inTexts]

section

variable {bound : Int} {target : Number} {steps : Steps}

/-- The steps of the products, where they exist. -/
theorem productSteps_cases (formed : productSteps target = .ok steps) :
    (target.whole? = none ∧ steps = .none) ∨
      ∃ whole, target.whole? = some whole ∧
        (whole.natAbs < 4 ∧ steps = .none ∨
          4 ≤ whole.natAbs ∧
            steps = ⟨Nat.sqrt whole.natAbs - 1, productProposal whole⟩) := by
  obtain ⟨whole?, isWhole, behind⟩ := exists_of_bind_eq_ok formed
  rw [← whole?_of_wholeValue? isWhole]
  cases whole? with
  | none =>
      cases behind
      exact .inl ⟨rfl, rfl⟩
  | some whole =>
      refine .inr ⟨whole, rfl, ?_⟩
      dsimp only at behind
      split at behind
      next small =>
        cases behind
        exact .inl ⟨small, rfl⟩
      next large =>
        cases behind
        rw [wholeRoot_eq_sqrt]
        exact .inr ⟨Nat.not_lt.mp large, rfl⟩

/-- The steps of the sums, where they exist. -/
theorem sumSteps_cases (formed : sumSteps target = .ok steps) :
    (target.whole? = none ∧ steps = .none) ∨
      ∃ whole, target.whole? = some whole ∧ steps = ⟨sumCount whole, sumProposal whole⟩ := by
  obtain ⟨whole?, isWhole, behind⟩ := exists_of_bind_eq_ok formed
  rw [← whole?_of_wholeValue? isWhole]
  cases whole? with
  | none =>
      cases behind
      exact .inl ⟨rfl, rfl⟩
  | some whole =>
      cases behind
      exact .inr ⟨whole, rfl, rfl⟩

/-- The steps of the factorial ratios, where they exist. -/
theorem factorialRatioSteps_cases (formed : factorialRatioSteps bound target = .ok steps) :
    (∃ whole, target.whole? = some whole ∧ (1 ≤ whole ∧ whole ≤ bound) ∧
        steps = .ofTexts .factorialRatio
          [Numeral.integer whole ++ "!/" ++ Numeral.integer (whole - 1) ++ "!"]) ∨
      (∀ whole, target.whole? = some whole → ¬ (1 ≤ whole ∧ whole ≤ bound)) ∧
        steps = .none := by
  obtain ⟨whole?, isWhole, behind⟩ := exists_of_bind_eq_ok formed
  rw [← whole?_of_wholeValue? isWhole]
  cases whole? with
  | none =>
      cases behind
      exact .inr ⟨nofun, rfl⟩
  | some whole =>
      dsimp only at behind
      split at behind
      next inBounds =>
        rw [Bool.and_eq_true, decide_eq_true_iff, decide_eq_true_iff] at inBounds
        cases behind
        exact .inl ⟨whole, rfl, inBounds, rfl⟩
      next outside =>
        rw [Bool.and_eq_true, decide_eq_true_iff, decide_eq_true_iff] at outside
        cases behind
        refine .inr ⟨?_, rfl⟩
        intro other same
        rwa [← Option.some.inj same]

/-- The steps of the neutral forms, where they exist. -/
theorem exists_neutralSteps (formed : neutralSteps target = .ok steps) :
    ∃ literal operand,
      steps = .ofTexts .neutral (neutralForms target.isNegative literal operand) := by
  obtain ⟨literal, -, behind⟩ := exists_of_bind_eq_ok formed
  obtain ⟨operand, -, same⟩ := exists_of_bind_eq_ok behind
  cases same
  exact ⟨literal, operand, rfl⟩

/-- The steps of the parametric forms, where they exist. -/
theorem exists_parametricSteps (formed : parametricSteps target = .ok steps) :
    ∃ literal operand, steps = .ofTexts .parametric (parametricForms literal operand) := by
  obtain ⟨literal, -, behind⟩ := exists_of_bind_eq_ok formed
  obtain ⟨operand, -, same⟩ := exists_of_bind_eq_ok behind
  cases same
  exact ⟨literal, operand, rfl⟩

/-- A finite number has a literal. -/
theorem exists_literal
    {value : Float}
    (converted : target.toFloat? = some value)
    (finite : value.isFinite = true) :
    ∃ text, literal target = .ok text := by
  cases target with
  | int integer =>
      have fits : fitsFloat integer = true := by
        by_contra overlarge
        cases converted.symm.trans (if_neg overlarge)
      exact ⟨_, if_pos (isWritable_of_fitsFloat fits)⟩
  | float double =>
      cases converted
      obtain ⟨number, fields⟩ := exists_ofFloat?_of_isFinite finite
      exact ⟨binaryLiteral number, literal_of_fields fields⟩

/-- Each family has steps for a finite number. -/
theorem exists_steps_of_finite
    {value : Float}
    (converted : target.toFloat? = some value)
    (finite : value.isFinite = true)
    (pattern : Pattern) :
    ∃ steps, pattern.steps bound target = .ok steps := by
  obtain ⟨text, isLiteral⟩ := exists_literal converted finite
  have isOperand : operand target = .ok (bracketed target.isNegative text) := by
    rw [operand, isLiteral]
    rfl
  have isWhole : wholeValue? target = .ok target.whole? := by
    rw [wholeValue?_eq, converted]
    rfl
  cases pattern with
  | parametric =>
      show ∃ steps, parametricSteps target = .ok steps
      rw [parametricSteps, isLiteral, isOperand]
      exact ⟨_, rfl⟩
  | factorialRatio =>
      show ∃ steps, factorialRatioSteps bound target = .ok steps
      rw [factorialRatioSteps, isWhole]
      dsimp only [bind, Except.bind]
      split
      · split <;> exact ⟨_, rfl⟩
      · exact ⟨_, rfl⟩
  | neutral =>
      show ∃ steps, neutralSteps target = .ok steps
      rw [neutralSteps, isLiteral, isOperand]
      exact ⟨_, rfl⟩
  | product =>
      show ∃ steps, productSteps target = .ok steps
      rw [productSteps, isWhole]
      dsimp only [bind, Except.bind]
      split
      · split <;> exact ⟨_, rfl⟩
      · exact ⟨_, rfl⟩
  | sum =>
      show ∃ steps, sumSteps target = .ok steps
      rw [sumSteps, isWhole]
      dsimp only [bind, Except.bind]
      split <;> exact ⟨_, rfl⟩

/-- A family has as many steps as it costs. -/
theorem count_of_steps {pattern : Pattern} (formed : pattern.steps bound target = .ok steps) :
    steps.count = pattern.cost bound target := by
  cases pattern with
  | parametric =>
      obtain ⟨literal, operand, rfl⟩ := exists_parametricSteps formed
      rfl
  | factorialRatio =>
      rcases factorialRatioSteps_cases formed with
        ⟨whole, isWhole, inBounds, rfl⟩ | ⟨outside, rfl⟩
      · simp only [Pattern.cost, isWhole, if_pos inBounds]
        rfl
      · unfold Pattern.cost
        cases isWhole : target.whole? with
        | none => rfl
        | some whole => exact (if_neg (outside whole isWhole)).symm
  | neutral =>
      obtain ⟨literal, operand, rfl⟩ := exists_neutralSteps formed
      show (neutralForms _ literal operand).length = _
      unfold Pattern.cost neutralForms
      cases target.isNegative <;> rfl
  | product =>
      rcases productSteps_cases formed with
        ⟨notWhole, rfl⟩ | ⟨whole, isWhole, ⟨small, rfl⟩ | ⟨large, rfl⟩⟩
      · simp only [Pattern.cost, notWhole]
        rfl
      · simp only [Pattern.cost, isWhole, if_neg (Nat.not_le.mpr small)]
        rfl
      · simp only [Pattern.cost, isWhole, if_pos large]
  | sum =>
      rcases sumSteps_cases formed with ⟨notWhole, rfl⟩ | ⟨whole, isWhole, rfl⟩
      · simp only [Pattern.cost, notWhole]
        rfl
      · simp only [Pattern.cost, isWhole]
        rfl

/-- So have the families one after the other. -/
theorem count_of_stepsOf
    {patterns : List Pattern}
    (formed : stepsOf bound target patterns = .ok steps) :
    steps.count = (patterns.map (Pattern.cost bound target)).sum := by
  induction patterns generalizing steps with
  | nil =>
      cases formed
      rfl
  | cons pattern others inductionHypothesis =>
      obtain ⟨first, second, own, rest, rfl⟩ := exists_of_stepsOf_cons formed
      rw [List.map_cons, List.sum_cons, ← count_of_steps own, ← inductionHypothesis rest]
      rfl

/-- The integer that a double equals is not long. -/
theorem log2_lt_of_whole?
    {value : Float}
    {whole : Int}
    (isWhole : (Number.float value).whole? = some whole) :
    whole.natAbs.log2 < 1024 := by
  obtain ⟨binary, fields, same⟩ := Option.bind_eq_some_iff.mp isWhole
  obtain ⟨significand, -, exponent⟩ := Binary.bounds_of_ofFloat? fields
  unfold Binary.toInt? at same
  split at same
  next =>
    rw [← Option.some.inj same, natAbs_withSign]
    have atMost : binary.numerator / binary.denominator ≤
        binary.significand * 2 ^ binary.exponent.toNat :=
      Nat.div_le_self _ _
    rcases Nat.eq_zero_or_pos (binary.numerator / binary.denominator) with zero | positive
    · rw [zero]
      decide
    · have bits := log2_lt_of_le_mul atMost significand (Nat.ne_of_gt positive)
      unfold greatestExponent at exponent
      omega
  next => cases same

/-- A family costs little more than the size of an integral target. -/
theorem Pattern.cost_le (pattern : Pattern) :
    pattern.cost bound target ≤ target.whole?.elim 0 Int.natAbs + 7 := by
  cases isWhole : target.whole? with
  | none =>
      cases pattern with
      | neutral => simp only [cost]; split <;> omega
      | parametric | factorialRatio | product | sum => simp [cost, isWhole]
  | some whole =>
      show _ ≤ whole.natAbs + 7
      cases pattern with
      | parametric => exact Nat.le_add_left 5 _
      | factorialRatio => simp only [cost, isWhole]; split <;> omega
      | neutral => simp only [cost]; split <;> omega
      | product =>
          have root := Nat.sqrt_le_self whole.natAbs
          simp only [cost, isWhole]
          split <;> omega
      | sum => simp only [cost, isWhole]; split <;> omega

/-- So the number of steps for a double can be written. -/
theorem isWritable_count_of_stepsOf
    {value : Float}
    (formed : stepsOf bound (.float value) Pattern.all = .ok steps) :
    Numeral.isWritable steps.count = true := by
  have short : ((Number.float value).whole?.elim 0 Int.natAbs).log2 < 1024 := by
    cases isWhole : (Number.float value).whole? with
    | none => decide
    | some whole => exact log2_lt_of_whole? isWhole
  have atMost : steps.count ≤ 5 * ((Number.float value).whole?.elim 0 Int.natAbs + 7) := by
    rw [count_of_stepsOf formed]
    refine List.sum_le_card_nsmul _ _ fun cost member => ?_
    obtain ⟨pattern, -, rfl⟩ := List.mem_map.mp member
    exact pattern.cost_le
  generalize (Number.float value).whole?.elim 0 Int.natAbs = size at short atMost
  apply isWritable_of_log2_lt
  rw [Int.natAbs_natCast]
  have power : size < 2 ^ (size.log2 + 1) := Nat.lt_log2_self
  have places : 2 ^ (size.log2 + 1 + 6) = 2 ^ (size.log2 + 1) * 64 := Nat.pow_add 2 _ 6
  have bits : steps.count.log2 ≤ size.log2 + 1 + 6 := log2_le_of_le_two_pow (by omega)
  have limit : Numeral.longest = 4300 := rfl
  omega

/-- All families but the products propose a candidate with every step. -/
theorem proposing_of_steps
    {pattern : Pattern}
    (formed : pattern.steps bound target = .ok steps)
    (notProduct : pattern ≠ .product) :
    steps.Proposing := by
  cases pattern with
  | parametric =>
      obtain ⟨literal, operand, rfl⟩ := exists_parametricSteps formed
      exact Steps.proposing_ofTexts _ _
  | factorialRatio =>
      rcases factorialRatioSteps_cases formed with ⟨whole, -, -, rfl⟩ | ⟨-, rfl⟩
      · exact Steps.proposing_ofTexts _ _
      · exact Steps.proposing_none
  | neutral =>
      obtain ⟨literal, operand, rfl⟩ := exists_neutralSteps formed
      exact Steps.proposing_ofTexts _ _
  | product => exact absurd rfl notProduct
  | sum =>
      rcases sumSteps_cases formed with ⟨-, rfl⟩ | ⟨whole, -, rfl⟩
      · exact Steps.proposing_none
      · exact fun _ _ => rfl

end

namespace Steps

/-- No step proposes more than one candidate. -/
theorem length_candidates_le (steps : Steps) (index count : Nat) :
    (steps.candidates index count).length ≤ count := by
  have atMost := List.length_filterMap_le steps.proposal (List.range' index count)
  rwa [List.length_range'] at atMost

/-- Steps that all propose something propose as many candidates as they are. -/
theorem Proposing.length_candidates
    {steps : Steps}
    (proposing : steps.Proposing)
    {count : Nat}
    (atMost : count ≤ steps.count) :
    (steps.candidates 0 count).length = count := by
  induction count with
  | zero => rfl
  | succ count inductionHypothesis =>
      obtain ⟨candidate, proposed⟩ := Option.isSome_iff_exists.mp (proposing count atMost)
      have last : steps.candidates count 1 = [candidate] := by
        rw [candidates_succ, proposed]
        rfl
      rw [candidates_add, List.length_append, inductionHypothesis (Nat.le_of_succ_le atMost),
        Nat.zero_add, last]
      rfl

/-- What two searches propose, one after the other: the first as far as it goes. -/
theorem candidates_append (first second : Steps) (count : Nat) :
    (first.append second).candidates 0 count =
      first.candidates 0 (min count first.count) ++
        second.candidates 0 (count - first.count) := by
  by_cases within : count ≤ first.count
  · have none : count - first.count = 0 := by omega
    rw [candidates_append_left second within, Nat.min_eq_left within, none]
    exact (List.append_nil _).symm
  · obtain ⟨more, rfl⟩ := Nat.exists_eq_add_of_le (Nat.le_of_not_le within)
    rw [candidates_append_add, Nat.min_eq_right (Nat.le_add_right _ _),
      Nat.add_sub_cancel_left]

end Steps

end Variant

end FormulaGrid
