import FormulaGrid.Proofs.Variant.Classification
import FormulaGrid.Proofs.Variant.ExactForms

/-!
Contract: six different notations of every finite double come with ten attempts.

Owns:
- what evaluates to the target is verified, however small the tolerance
  (`accepts_of_evaluate`);
- the first ten candidates (`exists_texts_ten`);
- the exact forms of a double are different (`nodup_wrappedForms`) and among these
  (`forms_subset`);
- a request for up to six notations is answered (`synthesize_diverse`).

The literal of zero is the zero cell and does not count. Then the catalog helps with a
difference that is exact too.
-/

namespace FormulaGrid.Variant

/-- A text that evaluates to what is written for the target is verified, however small the
tolerance. -/
theorem accepts_of_evaluate
    {functions : Elementary}
    {goal : Goal}
    (usable : goal.tolerance.IsTolerance)
    (finite : goal.target.isFinite = true)
    {text : String}
    (evaluated : evaluate functions text = .ok (written goal.target)) :
    goal.Accepts functions text := by
  refine (verify_iff rfl).mpr ⟨usable, written goal.target, evaluated, ?_⟩
  rw [abs_written_sub finite]
  exact usable.exceeds_zero

/-! ## The forms are different -/

/-- Digits, the point and the minus sign, of which literals consist. -/
def isLiteralCharacter (character : Char) : Bool :=
  character.isDigit || character == '.' || character == '-'

/-- The characters of a text that no literal has. -/
def marks (text : String) : List Char :=
  text.toList.filter fun character => !isLiteralCharacter character

theorem marks_append (first second : String) :
    marks (first ++ second) = marks first ++ marks second := by
  rw [marks, String.toList_append, List.filter_append]
  rfl

theorem marks_binaryLiteral (number : Binary) : marks (binaryLiteral number) = [] := by
  obtain ⟨spelling, characters, -⟩ := exists_spelling_binaryLiteral number
  rw [marks, characters, List.filter_eq_nil_iff]
  intro character member
  rw [Bool.not_eq_true, Bool.not_eq_false']
  rcases List.mem_append.mp member with sign | inNumeral
  · unfold Binary.signCharacters at sign
    split at sign
    next => rw [List.mem_singleton.mp sign]; rfl
    next => cases sign
  · unfold isLiteralCharacter
    rcases Spelling.mem_characters inNumeral with digit | point
    · rw [digit]
      rfl
    · rw [point]
      rfl

/-- Forms of a literal have different marks, and the literal has none. -/
theorem nodup_wrappedForms
    {first literal : String}
    (firstPlain : marks first = [])
    (literalPlain : marks literal = [])
    (negative : Bool) :
    (first :: wrappedForms literal (bracketed negative literal)).Nodup := by
  have suffixes : marks "^1" = ['^'] ∧ marks "+0" = ['+'] ∧ marks "*1" = ['*'] ∧
      marks "/1" = ['/'] ∧ marks "(" = ['('] ∧ marks ")" = [')'] := by
    decide
  obtain ⟨power, plus, times, dividedBy, opening, closing⟩ := suffixes
  apply List.Nodup.of_map marks
  cases negative <;>
    simp [wrappedForms, bracketed, marks_append, firstPlain, literalPlain, power, plus, times,
      dividedBy, opening, closing]

/-! ## Their places -/

/-- The steps of several families begin with those of the first one. -/
theorem exists_others_of_stepsOf
    {bound : Int}
    {target : Number}
    {pattern : Pattern}
    {patterns : List Pattern}
    {first steps : Steps}
    (own : pattern.steps bound target = .ok first)
    (formed : stepsOf bound target (pattern :: patterns) = .ok steps) :
    ∃ others, stepsOf bound target patterns = .ok others ∧ steps = first.append others := by
  obtain ⟨_, others, alsoOwn, behind, rfl⟩ := exists_of_stepsOf_cons formed
  cases own.symm.trans alsoOwn
  exact ⟨others, behind, rfl⟩

section

variable {value : Float} {number : Binary} (fields : Binary.ofFloat? value = some number)

include fields

/-- There is one factorial ratio at most. -/
theorem exists_factorialRatioSteps :
    ∃ ratios, Pattern.factorialRatio.steps factorialRatioBound (.float value) = .ok ratios ∧
      ratios.count ≤ 1 := by
  show ∃ ratios, factorialRatioSteps factorialRatioBound (.float value) = .ok ratios ∧ _
  rw [factorialRatioSteps, wholeValue?_of_fields fields]
  cases number.toInt? with
  | none => exact ⟨_, rfl, Nat.zero_le 1⟩
  | some whole =>
      dsimp only [bind, Except.bind]
      split
      next => exact ⟨_, rfl, Nat.le_refl 1⟩
      next => exact ⟨_, rfl, Nat.zero_le 1⟩

/-- The first ten candidates, of which there are as many: all of the first family, one of
the second at most, and four of the third at least. -/
theorem exists_texts_ten
    {steps : Steps}
    (formed : stepsOf factorialRatioBound (.float value) Pattern.all = .ok steps) :
    10 ≤ steps.count ∧
      ∃ ratios count, 4 ≤ count ∧
        steps.texts 0 10 =
          parametricForms (binaryLiteral number)
              (bracketed (Number.float value).isNegative (binaryLiteral number)) ++
            (ratios ++
              (neutralForms (Number.float value).isNegative (binaryLiteral number)
                (bracketed (Number.float value).isNegative (binaryLiteral number))).take
                  count) := by
  obtain ⟨ratios, ratiosFormed, few⟩ := exists_factorialRatioSteps fields
  obtain ⟨_, behindParametric, rfl⟩ :=
    exists_others_of_stepsOf (parametricSteps_of_fields fields) formed
  obtain ⟨_, behindRatios, rfl⟩ := exists_others_of_stepsOf ratiosFormed behindParametric
  obtain ⟨others, -, rfl⟩ :=
    exists_others_of_stepsOf (neutralSteps_of_fields fields) behindRatios
  generalize binaryLiteral number = literal
  generalize bracketed (Number.float value).isNegative literal = operand
  obtain ⟨count, ten⟩ : ∃ count, 10 = 5 + (ratios.count + count) :=
    ⟨5 - ratios.count, by omega⟩
  have six : 6 ≤ (Steps.ofTexts .neutral
      (neutralForms (Number.float value).isNegative literal operand)).count := by
    show 6 ≤ (neutralForms _ literal operand).length
    unfold neutralForms
    rw [List.length_append]
    exact Nat.le_add_right _ _
  refine ⟨?_, ratios.texts 0 ratios.count, count, by omega, ?_⟩
  · show 10 ≤ 5 + (ratios.count + (_ + others.count))
    omega
  · rw [ten]
    refine (Steps.texts_append_add _ _ _).trans ?_
    rw [Steps.texts_append_add, Steps.texts_append_left _ (by omega), Steps.texts_ofTexts,
      Steps.texts_ofTexts]
    exact congrArg (· ++ _) List.take_length

/-- The literal and its forms are among the first ten candidates. -/
theorem forms_subset
    {steps : Steps}
    (formed : stepsOf factorialRatioBound (.float value) Pattern.all = .ok steps) :
    binaryLiteral number ∈ steps.texts 0 10 ∧
      ∀ text ∈ wrappedForms (binaryLiteral number)
          (bracketed (Number.float value).isNegative (binaryLiteral number)),
        text ∈ steps.texts 0 10 := by
  obtain ⟨-, ratios, count, four, texts⟩ := exists_texts_ten fields formed
  rw [texts]
  generalize binaryLiteral number = literal
  generalize bracketed (Number.float value).isNegative literal = operand
  have inParametric {text : String} (member : text ∈ parametricForms literal operand) :
      text ∈ parametricForms literal operand ++ (ratios ++
        (neutralForms (Number.float value).isNegative literal operand).take count) :=
    List.mem_append_left _ member
  have inNeutral {text : String}
      (member : text ∈ (neutralForms (Number.float value).isNegative literal operand).take 4) :
      text ∈ parametricForms literal operand ++ (ratios ++
        (neutralForms (Number.float value).isNegative literal operand).take count) :=
    List.mem_append_right _ (List.mem_append_right _
      (List.take_subset_take_left _ four member))
  unfold wrappedForms
  simp only [List.forall_mem_cons]
  refine ⟨inParametric ?_, inParametric ?_, inNeutral ?_, inNeutral ?_, inNeutral ?_,
    inNeutral ?_, List.forall_mem_nil _⟩ <;>
      simp [parametricForms, neutralForms]

end

/-! ## Six notations -/

section

variable {functions : Elementary} {goal : Goal}

/-- Different texts that are accepted are all found, wherever they stand. -/
theorem length_le_findings
    {texts considered : List String}
    (different : texts.Nodup)
    (accepted : ∀ text ∈ texts,
      text ∈ considered ∧ text ≠ zeroCell ∧ goal.Accepts functions text) :
    texts.length ≤ goal.findings functions considered :=
  (List.subperm_of_subset different fun text member =>
    Goal.mem_finds.mpr (accepted text member)).length_le

/-- A text with marks is not the zero cell. -/
theorem ne_zeroCell_of_marks {text : String} (marked : marks text ≠ []) : text ≠ zeroCell := by
  rintro rfl
  exact marked (by decide)

theorem marks_wrappedForms {literal operand : String} :
    ∀ text ∈ wrappedForms literal operand, marks text ≠ [] := by
  have suffixes : marks "^1" ≠ [] ∧ marks "+0" ≠ [] ∧ marks "*1" ≠ [] ∧ marks "/1" ≠ [] ∧
      marks ")" ≠ [] := by
    decide
  obtain ⟨power, plus, times, dividedBy, closing⟩ := suffixes
  simp [wrappedForms, marks_append, power, plus, times, dividedBy, closing]

/-- Besides its forms there is one more notation of a double: its literal, or, for zero, one
of the catalog. -/
theorem exists_further_notation
    (usable : goal.tolerance.IsTolerance)
    {number : Binary}
    (fields : Binary.ofFloat? goal.target = some number)
    (includeAdvanced : Bool)
    {steps : Steps}
    (formed : stepsOf factorialRatioBound (.float goal.target) Pattern.all = .ok steps) :
    ∃ text, marks text = [] ∧ text ∈ goal.consideredAfter includeAdvanced steps 10 ∧
      text ≠ zeroCell ∧ goal.Accepts functions text := by
  have finite := isFinite_of_ofFloat? fields
  rcases zero_or_finite finite with ⟨sign, zero⟩ | ⟨sign, mantissa, exponent, positive, same⟩
  · have inPool : "1-1" ∈ Expression.texts
        (standardCatalog.poolForTarget (.float goal.target) includeAdvanced) := by
      rw [← ofModel_pack_parts goal.target, zero]
      cases sign <;> cases includeAdvanced <;> decide +kernel
    refine ⟨"1-1", by decide, List.mem_append_left _ inPool, by decide, ?_⟩
    refine accepts_of_evaluate usable finite ?_
    rw [written_of_zero zero]
    exact evaluate_difference functions
  · have evaluated : evaluate functions (binaryLiteral number) = .ok (written goal.target) :=
      evaluate_literal fields
    refine ⟨binaryLiteral number, marks_binaryLiteral number,
      List.mem_append_right _ (forms_subset fields formed).1, ?_,
      accepts_of_evaluate usable finite evaluated⟩
    -- The zero cell is read as zero, which the double is not.
    intro reserved
    rw [reserved] at evaluated
    have zero := Except.ok.inj (evaluated.symm.trans (evaluate_zeroCell functions))
    rw [written_of_finite same] at zero
    rw [zero] at same
    cases same

/-- Ten steps give six notations of a finite double. -/
theorem six_le_foundAfter
    (hasFirstPower : functions.HasFirstPower)
    (usable : goal.tolerance.IsTolerance)
    {number : Binary}
    (fields : Binary.ofFloat? goal.target = some number)
    (includeAdvanced : Bool)
    {steps : Steps}
    (formed : stepsOf factorialRatioBound (.float goal.target) Pattern.all = .ok steps) :
    6 ≤ goal.foundAfter functions includeAdvanced steps 10 := by
  have finite := isFinite_of_ofFloat? fields
  obtain ⟨first, plain, considered, nonzero, accepted⟩ :=
    exists_further_notation usable fields includeAdvanced formed
  have different := nodup_wrappedForms plain (marks_binaryLiteral number)
    (Number.float goal.target).isNegative
  refine length_le_findings different (List.forall_mem_cons.mpr
    ⟨⟨considered, nonzero, accepted⟩, fun text member => ⟨?_, ?_, ?_⟩⟩)
  · exact List.mem_append_right _ ((forms_subset fields formed).2 text member)
  · exact ne_zeroCell_of_marks (marks_wrappedForms text member)
  · exact accepts_of_evaluate usable finite
      (evaluate_wrappedForms fields hasFirstPower text member)

end

/-- However small the tolerance, up to six different notations of a finite double are found
with ten attempts, if the first power of a number is the number. -/
theorem synthesize_diverse
    (functions : Elementary)
    (documented : functions.Documented)
    (hasFirstPower : functions.HasFirstPower)
    (target : Datum)
    (float : Float)
    (isTarget : requireTarget target = .ok float)
    (request : Request)
    (usable : request.tolerance.IsTolerance)
    (counted : 1 ≤ request.count ∧ request.count ≤ 6)
    (affordable : 10 ≤ request.attempts) :
    ∃ synthesis, synthesize functions target request = .ok synthesis ∧
      (synthesis.expressions.length : Int) = request.count := by
  have finite : (request.goal float).target.isFinite = true := isFinite_of_requireTarget isTarget
  obtain ⟨number, fields⟩ := exists_ofFloat?_of_isFinite finite
  obtain ⟨steps, formed, proposals, -⟩ := exists_steps finite
  have run : Yields
      ((request.goal float).IsAnswer functions request.includeAdvanced steps
        request.attempts.toNat)
      ((request.goal float).IsFailure functions request.includeAdvanced steps
        request.attempts.toNat) _ :=
    yields_search_documented documented usable formed proposals request.attempts.toNat
  rw [synthesize_eq_search functions isTarget counted.1 (by omega)]
  cases outcome : search functions (request.goal float) request.includeAdvanced
      request.attempts.toNat with
  | ok synthesis =>
      rw [outcome] at run
      refine ⟨synthesis, rfl, ?_⟩
      rw [run.length_expressions]
      exact Int.toNat_of_nonneg (by omega)
  | error fault =>
      rw [outcome] at run
      have six : 6 ≤ (request.goal float).foundAfter functions request.includeAdvanced steps 10 :=
        six_le_foundAfter hasFirstPower usable fields request.includeAdvanced formed
      have many := (exists_texts_ten fields formed).1
      have early : 10 ≤ min request.attempts.toNat steps.count := by omega
      have enough : _ ≤ (request.goal float).foundAfter functions request.includeAdvanced steps _ :=
        Goal.foundAfter_mono request.includeAdvanced steps early
      have tooFew := run.tooFew
      have count : (request.goal float).count = request.count.toNat := rfl
      omega

/-- Six notations of a tenth below zero are found with ten attempts and the least tolerance. -/
theorem synthesize_diverse_negativeTenth :
    ∃ synthesis,
      exactLibrary.Documented ∧
        exactLibrary.HasFirstPower ∧
        requireTarget (.float (-0.1)) = .ok (-0.1) ∧
        (Number.float 5e-324).IsTolerance ∧
        synthesize exactLibrary (.float (-0.1))
            { count := 6, tolerance := .float 5e-324, attempts := 10 } = .ok synthesis ∧
        (synthesis.expressions.length : Int) = 6 := by
  have hasFirstPower : exactLibrary.HasFirstPower := fun _ _ => rfl
  have isTarget : requireTarget (.float (-0.1)) = .ok (-0.1) := by rfl
  have usable : (Number.float 5e-324).IsTolerance :=
    ⟨by decide +kernel, _, rfl, by decide +kernel⟩
  obtain ⟨synthesis, found, length⟩ :=
    synthesize_diverse exactLibrary exactLibrary_documented hasFirstPower (.float (-0.1)) (-0.1)
      isTarget { count := 6, tolerance := .float 5e-324, attempts := 10 } usable (by decide)
      (by decide)
  exact ⟨synthesis, exactLibrary_documented, hasFirstPower, isTarget, usable, found, length⟩

end FormulaGrid.Variant
