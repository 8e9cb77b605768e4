import FormulaGrid.Expression
import FormulaGrid.Proofs.Formula.Numeral
import FormulaGrid.Proofs.Outcome
import FormulaGrid.Proofs.Variant.Literal
import FormulaGrid.Variant.Budget

/-!
Contract: the candidates of a finite target, and what their texts are made of.

Owns:
- the candidates that steps propose (`Steps.candidates`), those of a family and those of
  all families in their order (`Pattern.candidates`, `candidates`);
- texts of visible characters with few raised digits (`IsFormulaText`);
- the steps of all families for a finite target: they exist, propose the candidates of the
  families one family after the other, and each is such a text (`exists_steps`).

Does not own: which of the candidates agree with the target.
-/

namespace FormulaGrid

open Text

/-! ## Texts of visible characters -/

/-- A text of visible characters with at most so many raised digits. -/
structure IsFormulaText (most : Nat) (text : String) : Prop where
  nonempty : text ≠ ""
  visible : ∀ character ∈ text.toList, isBlank character = false
  raised : text.toList.countP isSuperscript ≤ most

namespace IsFormulaText

theorem append
    {first second : Nat}
    {left right : String}
    (isLeft : IsFormulaText first left)
    (isRight : IsFormulaText second right) :
    IsFormulaText (first + second) (left ++ right) where
  nonempty empty := isLeft.nonempty (String.append_eq_empty_iff.mp empty).1
  visible character member := by
    rw [String.toList_append, List.mem_append] at member
    exact member.elim (isLeft.visible character) (isRight.visible character)
  raised := by
    rw [String.toList_append, List.countP_append]
    exact Nat.add_le_add isLeft.raised isRight.raised

theorem mono
    {few more : Nat}
    {text : String}
    (isText : IsFormulaText few text)
    (atMost : few ≤ more) :
    IsFormulaText more text :=
  ⟨isText.nonempty, isText.visible, Nat.le_trans isText.raised atMost⟩

/-- A text of one character. -/
theorem of_decide
    {most : Nat}
    {text : String}
    (holds : (text != "" && text.toList.all (fun character => !isBlank character) &&
      decide (text.toList.countP isSuperscript ≤ most)) = true) :
    IsFormulaText most text := by
  simp only [Bool.and_eq_true, bne_iff_ne, List.all_eq_true, Bool.not_eq_true',
    decide_eq_true_eq] at holds
  exact ⟨holds.1.1, holds.1.2, holds.2⟩

/-- Few raised digits are no long run. -/
theorem shortSuperscripts
    {most : Nat}
    {text : String}
    (isText : IsFormulaText most text)
    (few : most ≤ longestSuperscript) :
    ShortSuperscripts text.toList := by
  intro run inside raised
  calc
    run.length = run.countP isSuperscript := (List.countP_eq_length.mpr raised).symm
    _ ≤ text.toList.countP isSuperscript := inside.sublist.countP_le
    _ ≤ longestSuperscript := Nat.le_trans isText.raised few

/-- An expression can be made of such a text, unless it is the zero cell. -/
theorem exists_synthesize
    {most : Nat}
    {text : String}
    (isText : IsFormulaText most text)
    (notReserved : text ≠ zeroCell)
    (note : Option String) :
    ∃ made, Expression.synthesize text note = .ok made ∧ made.text = text := by
  have noBlank : ¬ text.toList.any isBlank = true := by
    rw [List.any_eq_true]
    rintro ⟨character, member, blank⟩
    rw [isText.visible character member] at blank
    cases blank
  unfold Expression.synthesize Expression.define
  rw [dif_neg isText.nonempty, dif_neg noBlank, dif_neg notReserved]
  exact ⟨_, rfl, rfl⟩

end IsFormulaText

theorem IsFormulaText.of_plain
    {text : String}
    (nonempty : text ≠ "")
    (plain : ∀ character ∈ text.toList,
      isBlank character = false ∧ isSuperscript character = false) :
    IsFormulaText 0 text where
  nonempty := nonempty
  visible character member := (plain character member).1
  raised := by
    rw [Nat.le_zero, List.countP_eq_zero]
    intro character member raised
    rw [(plain character member).2] at raised
    cases raised

namespace Variant

theorem isFormulaText_numeral (value : Nat) : IsFormulaText 0 (Numeral.natural value) := by
  refine .of_plain ?_ fun character member => ?_
  · intro empty
    have characters := congrArg String.toList empty
    rw [Numeral.natural, String.toList_ofList] at characters
    exact Nat.toDigits_ne_nil characters
  · rw [Numeral.natural, String.toList_ofList] at member
    exact plain_of_isDigit (Nat.isDigit_of_mem_toDigits (by decide) (by decide) member)

theorem isFormulaText_integer (value : Int) : IsFormulaText 0 (Numeral.integer value) := by
  unfold Numeral.integer
  split
  next =>
    have sign : IsFormulaText 0 "-" := .of_decide (by decide)
    exact sign.append (isFormulaText_numeral _)
  next => exact isFormulaText_numeral _

theorem isFormulaText_binaryLiteral (number : Binary) :
    IsFormulaText 0 (binaryLiteral number) := by
  obtain ⟨spelling, characters, -⟩ := exists_spelling_binaryLiteral number
  refine .of_plain ?_ fun character member => ?_
  · intro empty
    rw [empty] at characters
    exact spelling.characters_ne_nil (List.append_eq_nil_iff.mp characters.symm).2
  · rw [characters] at member
    rcases List.mem_append.mp member with sign | inDigits
    · have minus : character = '-' := by
        unfold Binary.signCharacters at sign
        split at sign
        next => exact List.mem_singleton.mp sign
        next => cases sign
      rw [minus]
      decide
    · rcases Spelling.mem_characters inDigits with digit | point
      · exact plain_of_isDigit digit
      · rw [point]
        decide

theorem isFormulaText_bracketed
    {text : String}
    (isText : IsFormulaText 0 text)
    (negative : Bool) :
    IsFormulaText 0 (bracketed negative text) := by
  cases negative with
  | false => exact isText
  | true =>
      have opens : IsFormulaText 0 "(" := .of_decide (by decide)
      have closes : IsFormulaText 0 ")" := .of_decide (by decide)
      exact (opens.append isText).append closes

/-! ## Steps and their candidates -/

namespace Steps

/-- What `count` steps propose, from the one with the given index on. -/
def candidates (steps : Steps) (index count : Nat) : List Candidate :=
  (List.range' index count).filterMap steps.proposal

theorem candidates_succ (steps : Steps) (index count : Nat) :
    steps.candidates index (count + 1) =
      (steps.proposal index).toList ++ steps.candidates (index + 1) count := by
  unfold candidates
  rw [List.range'_succ, List.filterMap_cons]
  cases steps.proposal index <;> rfl

theorem candidates_add (steps : Steps) (index first second : Nat) :
    steps.candidates index (first + second) =
      steps.candidates index first ++ steps.candidates (index + first) second := by
  unfold candidates
  rw [← List.filterMap_append, List.range'_append_1]

/-- Fewer steps propose the first of the candidates. -/
theorem candidates_prefix
    (steps : Steps)
    (index : Nat)
    {fewer count : Nat}
    (atMost : fewer ≤ count) :
    steps.candidates index fewer <+: steps.candidates index count := by
  obtain ⟨more, rfl⟩ := Nat.exists_eq_add_of_le atMost
  rw [candidates_add]
  exact List.prefix_append _ _

/-- Of two searches, one after the other, the first proposes first, -/
theorem candidates_append_left
    (second : Steps)
    {first : Steps}
    {count : Nat}
    (atMost : count ≤ first.count) :
    (first.append second).candidates 0 count = first.candidates 0 count := by
  refine List.filterMap_congr fun index member => ?_
  have inFirst : index < first.count := by
    have inRange : index < count := by simpa [List.mem_range'] using member
    omega
  exact if_pos inFirst

/-- and the second begins when the first has ended. -/
theorem candidates_append_add (first second : Steps) (count : Nat) :
    (first.append second).candidates 0 (first.count + count) =
      first.candidates 0 first.count ++ second.candidates 0 count := by
  rw [candidates_add, candidates_append_left second (Nat.le_refl _)]
  unfold candidates
  congr 1
  have shifted : List.range' (0 + first.count) count =
      (List.range' 0 count).map (first.count + ·) := by
    rw [List.map_add_range', Nat.add_comm]
  rw [shifted, List.filterMap_map]
  refine List.filterMap_congr fun index _ => ?_
  show (if first.count + index < first.count then _ else _) = _
  rw [if_neg (Nat.not_lt.mpr (Nat.le_add_right _ _)), Nat.add_sub_cancel_left]

theorem candidates_ofTexts (pattern : Pattern) (texts : List String) (count : Nat) :
    (ofTexts pattern texts).candidates 0 count =
      (texts.take count).map fun text => ⟨text, pattern⟩ := by
  induction count with
  | zero => rfl
  | succ count inductionHypothesis =>
      have next : (ofTexts pattern texts).candidates count 1 =
          texts[count]?.toList.map fun text => ⟨text, pattern⟩ := by
        rw [candidates_succ, ← Option.toList_map]
        exact List.append_nil _
      rw [candidates_add, inductionHypothesis, Nat.zero_add, next, List.take_add_one,
        List.map_append]

/-- All that is ever proposed has a property. -/
def All (Holds : String → Prop) (steps : Steps) : Prop :=
  ∀ index candidate, steps.proposal index = some candidate → Holds candidate.text

theorem all_none (Holds : String → Prop) : none.All Holds := by
  intro index candidate proposed
  cases proposed

theorem all_ofTexts
    {Holds : String → Prop}
    (pattern : Pattern)
    {texts : List String}
    (hold : ∀ text ∈ texts, Holds text) :
    (ofTexts pattern texts).All Holds := by
  intro index candidate proposed
  obtain ⟨text, found, rfl⟩ := Option.map_eq_some_iff.mp proposed
  exact hold text (List.mem_of_getElem? found)

theorem All.append
    {Holds : String → Prop}
    {first second : Steps}
    (firstHolds : first.All Holds)
    (secondHolds : second.All Holds) :
    (first.append second).All Holds := by
  intro index candidate proposed
  unfold Steps.append at proposed
  dsimp only at proposed
  split at proposed
  next => exact firstHolds index candidate proposed
  next => exact secondHolds _ candidate proposed

theorem All.of_mem_candidates
    {Holds : String → Prop}
    {steps : Steps}
    (all : steps.All Holds)
    {index count : Nat}
    {candidate : Candidate}
    (member : candidate ∈ steps.candidates index count) :
    Holds candidate.text := by
  obtain ⟨place, -, proposed⟩ := List.mem_filterMap.mp member
  exact all place candidate proposed

end Steps

/-! ## The families -/

/-- All candidates of a family, in its order. A family that cannot be formed has none. -/
def Pattern.candidates (target : Number) (pattern : Pattern) : List Candidate :=
  match pattern.steps factorialRatioBound target with
  | .ok steps => steps.candidates 0 steps.count
  | .error _ => []

/-- All candidates, one family after the other. -/
def candidates (target : Number) : List Candidate :=
  Pattern.all.flatMap (Pattern.candidates target)

/-- The texts that a candidate may have. The root of a square has one raised digit. -/
abbrev IsProposal : String → Prop :=
  IsFormulaText 1

theorem isProposal_operand
    {text suffix : String}
    (isText : IsFormulaText 0 text)
    (isSuffix : IsFormulaText 1 suffix) :
    IsProposal (text ++ suffix) := by
  have both := isText.append isSuffix
  rwa [Nat.zero_add] at both

theorem isProposal_between
    {opening text closing : String}
    (opens : IsFormulaText 0 opening)
    (isText : IsFormulaText 0 text)
    (closes : IsFormulaText 1 closing) :
    IsProposal (opening ++ text ++ closing) :=
  isProposal_operand (opens.append isText) closes

/-- What the first family proposes. -/
def parametricForms (literal operand : String) : List String :=
  [literal, operand ++ "-1+1", operand ++ "*2/2", "√(" ++ operand ++ "²)", operand ++ "^1"]

/-- What the neutral family proposes. -/
def neutralForms (negative : Bool) (literal operand : String) : List String :=
  [operand ++ "+0", operand ++ "*1", operand ++ "/1", "(" ++ literal ++ ")",
    operand ++ "*π/π", operand ++ "*e/e"] ++ if negative then [] else ["|" ++ literal ++ "|"]

/-- The steps of several families are those of the first one and then those of the others. -/
theorem exists_of_stepsOf_cons
    {bound : Int}
    {target : Number}
    {steps : Steps}
    {pattern : Pattern}
    {others : List Pattern}
    (formed : stepsOf bound target (pattern :: others) = .ok steps) :
    ∃ first second, pattern.steps bound target = .ok first ∧
      stepsOf bound target others = .ok second ∧ steps = first.append second := by
  obtain ⟨first, isFirst, formed⟩ := exists_of_bind_eq_ok formed
  obtain ⟨second, isSecond, same⟩ := exists_of_bind_eq_ok formed
  cases same
  exact ⟨first, second, isFirst, isSecond, rfl⟩

section

variable {value : Float} {number : Binary} (fields : Binary.ofFloat? value = some number)

include fields

theorem literal_of_fields : literal (.float value) = .ok (binaryLiteral number) := by
  unfold literal
  dsimp only
  rw [fields]

theorem operand_of_fields :
    operand (.float value) =
      .ok (bracketed (Number.float value).isNegative (binaryLiteral number)) := by
  rw [operand, literal_of_fields fields]
  rfl

theorem wholeValue?_of_fields : wholeValue? (.float value) = .ok number.toInt? := by
  unfold wholeValue?
  dsimp only
  rw [fields]
  rfl

theorem parametricSteps_of_fields :
    Pattern.parametric.steps factorialRatioBound (.float value) =
      .ok (.ofTexts .parametric (parametricForms (binaryLiteral number)
        (bracketed (Number.float value).isNegative (binaryLiteral number)))) := by
  show parametricSteps (.float value) = _
  rw [parametricSteps, literal_of_fields fields, operand_of_fields fields]
  rfl

theorem neutralSteps_of_fields :
    Pattern.neutral.steps factorialRatioBound (.float value) =
      .ok (.ofTexts .neutral (neutralForms (Number.float value).isNegative (binaryLiteral number)
        (bracketed (Number.float value).isNegative (binaryLiteral number)))) := by
  show neutralSteps (.float value) = _
  rw [neutralSteps, literal_of_fields fields, operand_of_fields fields]
  rfl

/-- The steps of each family for a finite target exist and propose such texts. -/
theorem yields_steps (pattern : Pattern) :
    Yields (Steps.All IsProposal) (fun _ => False)
      (pattern.steps factorialRatioBound (.float value)) := by
  have isLiteral := isFormulaText_binaryLiteral number
  have isOperand := isFormulaText_bracketed isLiteral (Number.float value).isNegative
  have operandForm (suffix : String)
      (holds : (suffix != "" && suffix.toList.all (fun character => !isBlank character) &&
        decide (suffix.toList.countP isSuperscript ≤ 1)) = true) :
      IsProposal (bracketed (Number.float value).isNegative (binaryLiteral number) ++ suffix) :=
    isProposal_operand isOperand (.of_decide holds)
  cases pattern with
  | parametric =>
      rw [parametricSteps_of_fields fields]
      refine Steps.all_ofTexts _ ?_
      unfold parametricForms
      simp only [List.forall_mem_cons]
      exact ⟨isLiteral.mono (by decide), operandForm "-1+1" (by decide),
        operandForm "*2/2" (by decide),
        isProposal_between (.of_decide (by decide)) isOperand (.of_decide (by decide)),
        operandForm "^1" (by decide), List.forall_mem_nil _⟩
  | factorialRatio =>
      show Yields _ _ (factorialRatioSteps factorialRatioBound (.float value))
      rw [factorialRatioSteps, wholeValue?_of_fields fields]
      cases number.toInt? with
      | none => exact Steps.all_none _
      | some whole =>
          dsimp only [bind, Except.bind]
          split
          next =>
            refine Steps.all_ofTexts _ (List.forall_mem_singleton.mpr ?_)
            have first := isFormulaText_integer whole
            have second := isFormulaText_integer (whole - 1)
            have sign : IsFormulaText 0 "!/" := .of_decide (by decide)
            exact isProposal_operand ((first.append sign).append second) (.of_decide (by decide))
          next => exact Steps.all_none _
  | neutral =>
      rw [neutralSteps_of_fields fields]
      have between (opening closing : String)
          (opens : IsFormulaText 0 opening)
          (closes : IsFormulaText 1 closing) :
          IsProposal (opening ++ binaryLiteral number ++ closing) :=
        isProposal_between opens isLiteral closes
      refine Steps.all_ofTexts _ ?_
      unfold neutralForms
      simp only [List.forall_mem_append, List.forall_mem_cons]
      refine ⟨⟨operandForm "+0" (by decide), operandForm "*1" (by decide),
        operandForm "/1" (by decide),
        between "(" ")" (.of_decide (by decide)) (.of_decide (by decide)),
        operandForm "*π/π" (by decide), operandForm "*e/e" (by decide),
        List.forall_mem_nil _⟩, ?_⟩
      split
      next => exact List.forall_mem_nil _
      next =>
        exact List.forall_mem_singleton.mpr
          (between "|" "|" (.of_decide (by decide)) (.of_decide (by decide)))
  | product =>
      show Yields _ _ (productSteps (.float value))
      rw [productSteps, wholeValue?_of_fields fields]
      cases number.toInt? with
      | none => exact Steps.all_none _
      | some whole =>
          dsimp only [bind, Except.bind]
          split
          next => exact Steps.all_none _
          next =>
            intro index candidate proposed
            dsimp only [productProposal] at proposed
            split at proposed
            next =>
              cases proposed
              have factor := isFormulaText_numeral (index + 2)
              have other := isFormulaText_bracketed
                (isFormulaText_integer (whole / ((index + 2 : Nat) : Int)))
                (decide (whole / ((index + 2 : Nat) : Int) < 0))
              exact isProposal_between factor (.of_decide (by decide)) (other.mono (by decide))
            next => cases proposed
  | sum =>
      show Yields _ _ (sumSteps (.float value))
      rw [sumSteps, wholeValue?_of_fields fields]
      cases number.toInt? with
      | none => exact Steps.all_none _
      | some whole =>
          intro index candidate proposed
          cases proposed
          have summand := isFormulaText_numeral (index + 1)
          have other := isFormulaText_bracketed
            (isFormulaText_integer (whole - ((index + 1 : Nat) : Int)))
            (decide (whole - ((index + 1 : Nat) : Int) < 0))
          exact isProposal_between summand (.of_decide (by decide)) (other.mono (by decide))

/-- So do the steps of several families, one family after the other. -/
theorem yields_stepsOf (patterns : List Pattern) :
    Yields
      (fun steps => steps.All IsProposal ∧
        steps.candidates 0 steps.count =
          patterns.flatMap (Pattern.candidates (.float value)))
      (fun _ => False) (stepsOf factorialRatioBound (.float value) patterns) := by
  induction patterns with
  | nil => exact ⟨Steps.all_none _, rfl⟩
  | cons pattern others inductionHypothesis =>
      have family := yields_steps fields pattern
      unfold stepsOf
      cases formed : pattern.steps factorialRatioBound (.float value) with
      | error fault =>
          rw [formed] at family
          exact family.elim
      | ok first =>
          rw [formed] at family
          have own : Pattern.candidates (.float value) pattern =
              first.candidates 0 first.count := by
            rw [Pattern.candidates, formed]
          refine inductionHypothesis.bind fun second others => ?_
          refine ⟨family.append others.1, ?_⟩
          rw [List.flatMap_cons, own, ← others.2]
          exact Steps.candidates_append_add first second second.count

end

/-- The steps of all families for a finite target exist. They propose the candidates of the
families in their order. -/
theorem exists_steps {value : Float} (finite : value.isFinite = true) :
    ∃ steps, stepsOf factorialRatioBound (.float value) Pattern.all = .ok steps ∧
      steps.All IsProposal ∧
      steps.candidates 0 steps.count = candidates (.float value) := by
  obtain ⟨number, fields⟩ := exists_ofFloat?_of_isFinite finite
  have formed := yields_stepsOf fields Pattern.all
  cases same : stepsOf factorialRatioBound (.float value) Pattern.all with
  | error fault =>
      rw [same] at formed
      exact formed.elim
  | ok steps =>
      rw [same] at formed
      exact ⟨steps, rfl, formed⟩

end Variant

end FormulaGrid
