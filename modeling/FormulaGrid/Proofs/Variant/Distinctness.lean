import FormulaGrid.Proofs.Variant.Accounting
import FormulaGrid.Proofs.Variant.Diversity

/-!
Contract: no candidate is proposed twice.

Owns:
- what stands behind the first number of a text (`behindNumber`), by which the texts of different
  families and most texts of one family are told apart;
- the products and the sums are told apart by their first number (`natural_append_inj`);
- the candidates of a double other than one are different, and none of them is the zero cell
  unless the double is zero (`nodup_texts`, `zeroCell_not_mem_texts`);
- the sums are the pairs of summands (`candidates_sumSteps`, `sums_of_two_le`);
- a search turns a candidate down only because it fails (`candidates_distinct`).

The literal of a large integer need not be its numeral, so the first numbers of different
families are not compared.
-/

namespace FormulaGrid

/-- Numerals tell numbers apart. -/
theorem Numeral.natural_injective : Function.Injective Numeral.natural :=
  fun _ _ same => Nat.repr_injective same

/-- The first number of a text is told by what goes before another sign. -/
theorem Numeral.natural_append_inj
    {first second : Nat}
    {behindFirst behindSecond : String}
    (firstEnds : EndsNumeral behindFirst.toList)
    (secondEnds : EndsNumeral behindSecond.toList)
    (same : natural first ++ behindFirst = natural second ++ behindSecond) :
    first = second := by
  have numbers := congrArg (fun text => numeralSpan text.toList) same
  simp only [String.toList_append, ← Spelling.characters_natural,
    Spelling.numeralSpan_characters _ firstEnds,
    Spelling.numeralSpan_characters _ secondEnds] at numbers
  rw [Spelling.characters_natural, Spelling.characters_natural] at numbers
  exact natural_injective (String.toList_inj.mp numbers)

namespace Variant

/-! ## What stands behind a number -/

def isNumeralCharacter (character : Char) : Bool :=
  character.isDigit || character == '.'

/-- What stands behind the first number of a text, and whether that number stands in
parentheses. -/
def behindNumber (text : String) : Bool × List Char :=
  match text.toList with
  | '(' :: inner => (true, (inner.dropWhile (· != ')')).tail)
  | characters => (false, characters.dropWhile isNumeralCharacter)

theorem behindNumber_of_parentheses
    {text : String}
    {inner rest : List Char}
    (inside : ')' ∉ inner)
    (characters : text.toList = '(' :: (inner ++ ')' :: rest)) :
    behindNumber text = (true, rest) := by
  have noneCloses : ∀ character ∈ inner, (character != ')') = true := by
    intro character member
    rw [bne_iff_ne]
    rintro rfl
    exact inside member
  simp [behindNumber, characters, List.dropWhile_append_of_pos noneCloses]

theorem behindNumber_of_numeral
    {text : String}
    {numeral rest : List Char}
    (isNumeral : ∀ character ∈ numeral, isNumeralCharacter character = true)
    (ends : ∀ character ∈ rest.head?, isNumeralCharacter character = false)
    (noParenthesis : text.toList.head? ≠ some '(')
    (characters : text.toList = numeral ++ rest) :
    behindNumber text = (false, rest) := by
  have dropped : (numeral ++ rest).dropWhile isNumeralCharacter = rest := by
    rw [List.dropWhile_append_of_pos isNumeral]
    cases rest with
    | nil => rfl
    | cons head tail => exact List.dropWhile_cons_of_neg (by simp [ends head rfl])
  unfold behindNumber
  split
  next inner same =>
    rw [same] at noParenthesis
    exact absurd rfl noParenthesis
  next => rw [characters, dropped]

/-- Behind a numeral. -/
theorem behindNumber_of_spelling
    {text : String}
    {spelling : Spelling}
    {rest : List Char}
    (ends : ∀ character ∈ rest.head?, isNumeralCharacter character = false)
    (characters : text.toList = spelling.characters ++ rest) :
    behindNumber text = (false, rest) := by
  refine behindNumber_of_numeral ?_ ends ?_ characters
  · intro character member
    rcases Spelling.mem_characters member with digit | point
    · simp [isNumeralCharacter, digit]
    · simp [isNumeralCharacter, point]
  · obtain ⟨head, tail, starts, digit⟩ := spelling.exists_characters_eq_cons
    rw [characters, starts, List.cons_append, List.head?_cons]
    rintro same
    cases same
    cases digit

/-- A text that starts with a sign has no number in front of it. -/
theorem behindNumber_of_sign
    {text : String}
    {head : Char}
    {rest : List Char}
    (isSign : (head != '(' && !isNumeralCharacter head) = true)
    (characters : text.toList = head :: rest) :
    behindNumber text = (false, head :: rest) := by
  simp only [Bool.and_eq_true, bne_iff_ne, Bool.not_eq_true'] at isSign
  refine behindNumber_of_numeral (List.forall_mem_nil _) ?_ ?_ characters
  · intro character member
    cases member
    exact isSign.2
  · rw [characters, List.head?_cons]
    exact fun same => isSign.1 (Option.some.inj same)

/-! ## The forms of a literal -/

section

variable {literal : String} {negative : Bool} {spelling : Spelling}
  (spelled : literal.toList = (if negative then ['-'] else []) ++ spelling.characters)

include spelled

theorem closing_not_mem_literal : ')' ∉ literal.toList := by
  rw [spelled]
  intro member
  rcases List.mem_append.mp member with sign | inNumeral
  · cases negative <;> simp at sign
  · rcases Spelling.mem_characters inNumeral with digit | point
    · cases digit
    · cases point

/-- Behind an operand. -/
theorem behindNumber_operand
    (suffix : String)
    (ends : (suffix.toList.head?.all fun character => !isNumeralCharacter character) = true) :
    behindNumber (bracketed negative literal ++ suffix) = (negative, suffix.toList) := by
  cases negative with
  | true =>
      refine behindNumber_of_parentheses (closing_not_mem_literal spelled) ?_
      simp [bracketed, String.toList_append]
  | false =>
      have characters : (bracketed false literal ++ suffix).toList =
          spelling.characters ++ suffix.toList := by
        simpa [bracketed, String.toList_append] using spelled
      refine behindNumber_of_spelling ?_ characters
      intro character member
      rw [member] at ends
      simpa using ends

/-- Behind the literal alone there is nothing, unless it starts with a sign. -/
theorem behindNumber_literal :
    behindNumber literal = (false, if negative then '-' :: spelling.characters else []) := by
  cases negative with
  | true => exact behindNumber_of_sign (by decide) spelled
  | false =>
      have characters : literal.toList = spelling.characters ++ [] := by
        simpa using spelled
      exact behindNumber_of_spelling (by simp) characters

theorem map_behindNumber_parametricForms :
    ∃ inRoot,
      (parametricForms literal (bracketed negative literal)).map behindNumber =
        [(false, if negative then '-' :: spelling.characters else []),
          (negative, ['-', '1', '+', '1']), (negative, ['*', '2', '/', '2']),
          (false, '√' :: inRoot), (negative, ['^', '1'])] := by
  have root : ("√(" ++ bracketed negative literal ++ "²)").toList =
      '√' :: ("(" ++ bracketed negative literal ++ "²)").toList := by
    simp [String.toList_append]
  refine ⟨("(" ++ bracketed negative literal ++ "²)").toList, ?_⟩
  unfold parametricForms
  simp only [List.map_cons, List.map_nil]
  rw [behindNumber_literal spelled, behindNumber_operand spelled "-1+1" (by decide),
    behindNumber_operand spelled "*2/2" (by decide), behindNumber_operand spelled "^1" (by decide),
    behindNumber_of_sign (by decide) root]
  rfl

theorem map_behindNumber_neutralForms :
    ∃ inBars,
      (neutralForms negative literal (bracketed negative literal)).map behindNumber =
        [(negative, ['+', '0']), (negative, ['*', '1']), (negative, ['/', '1']), (true, []),
          (negative, ['*', 'π', '/', 'π']), (negative, ['*', 'e', '/', 'e'])] ++
          if negative then [] else [(false, '|' :: inBars)] := by
  have group : ("(" ++ literal ++ ")").toList = '(' :: (literal.toList ++ ')' :: []) := by
    simp [String.toList_append]
  have bars : ("|" ++ literal ++ "|").toList = '|' :: (literal ++ "|").toList := by
    simp [String.toList_append]
  refine ⟨(literal ++ "|").toList, ?_⟩
  unfold neutralForms
  simp only [List.map_append, List.map_cons, List.map_nil]
  rw [behindNumber_operand spelled "+0" (by decide), behindNumber_operand spelled "*1" (by decide),
    behindNumber_operand spelled "/1" (by decide), behindNumber_operand spelled "*π/π" (by decide),
    behindNumber_operand spelled "*e/e" (by decide),
    behindNumber_of_parentheses (closing_not_mem_literal spelled) group]
  cases negative with
  | true => rfl
  | false =>
      simp only [Bool.false_eq_true, if_false, List.map_cons, List.map_nil,
        behindNumber_of_sign (by decide) bars]
      rfl

/-- The forms of a literal are different, also from one factorial ratio. -/
theorem nodup_forms
    {ratios : List String}
    (few : ratios.length ≤ 1)
    (areRatios : ∀ text ∈ ratios, ∃ rest, behindNumber text = (false, '!' :: rest)) :
    (parametricForms literal (bracketed negative literal) ++
      (ratios ++ neutralForms negative literal (bracketed negative literal))).Nodup := by
  apply List.Nodup.of_map behindNumber
  obtain ⟨inRoot, parametric⟩ := map_behindNumber_parametricForms spelled
  obtain ⟨inBars, neutral⟩ := map_behindNumber_neutralForms spelled
  rw [List.map_append, List.map_append, parametric, neutral]
  match ratios with
  | [] => cases negative <;> simp
  | [text] =>
      obtain ⟨rest, isRatio⟩ := areRatios text List.mem_cons_self
      cases negative <;> simp [isRatio]

/-- No form of a number other than the literal is the zero cell. -/
theorem zeroCell_not_mem_forms
    {ratios : List String}
    (areRatios : ∀ text ∈ ratios, ∃ rest, behindNumber text = (false, '!' :: rest))
    (nonzero : literal ≠ zeroCell) :
    zeroCell ∉ parametricForms literal (bracketed negative literal) ++
      (ratios ++ neutralForms negative literal (bracketed negative literal)) := by
  have nothingBehind : behindNumber zeroCell = (false, []) := by decide
  obtain ⟨inRoot, parametric⟩ := map_behindNumber_parametricForms spelled
  obtain ⟨inBars, neutral⟩ := map_behindNumber_neutralForms spelled
  have keyIn {texts : List String} (member : zeroCell ∈ texts) :
      (false, []) ∈ texts.map behindNumber := by
    rw [← nothingBehind]
    exact List.mem_map_of_mem member
  simp only [List.mem_append, not_or]
  refine ⟨fun inParametric => ?_, fun inRatios => ?_, fun inNeutral => ?_⟩
  · rcases List.mem_cons.mp inParametric with same | behindLiteral
    · exact nonzero same.symm
    · have key := keyIn behindLiteral
      rw [(List.cons.inj parametric).2] at key
      simp at key
  · obtain ⟨rest, isRatio⟩ := areRatios zeroCell inRatios
    rw [nothingBehind] at isRatio
    cases isRatio
  · have key := keyIn inNeutral
    rw [neutral] at key
    cases negative <;> simp at key

end

/-! ## Products and sums -/

/-- Behind the first number stands a factor other than one. -/
def isProduct : Bool × List Char → Bool
  | (false, '*' :: factor) =>
      factor.head? == some '(' || (factor.all Char.isDigit && factor != ['1'])
  | _ => false

/-- Behind the first number stands a summand other than zero. -/
def isSum : Bool × List Char → Bool
  | (false, '+' :: summand) => summand != ['0']
  | _ => false

section

variable {literal : String} {negative : Bool} {spelling : Spelling}
  (spelled : literal.toList = (if negative then ['-'] else []) ++ spelling.characters)

include spelled

/-- No form is a product or a sum of this kind. -/
theorem isProduct_forms
    {ratios : List String}
    (areRatios : ∀ text ∈ ratios, ∃ rest, behindNumber text = (false, '!' :: rest)) :
    ∀ text ∈ parametricForms literal (bracketed negative literal) ++
        (ratios ++ neutralForms negative literal (bracketed negative literal)),
      isProduct (behindNumber text) = false ∧ isSum (behindNumber text) = false := by
  obtain ⟨inRoot, parametric⟩ := map_behindNumber_parametricForms spelled
  obtain ⟨inBars, neutral⟩ := map_behindNumber_neutralForms spelled
  suffices holds : ∀ key ∈ (parametricForms literal (bracketed negative literal) ++
      (ratios ++ neutralForms negative literal (bracketed negative literal))).map behindNumber,
      isProduct key = false ∧ isSum key = false from
    fun text member => holds _ (List.mem_map_of_mem member)
  rw [List.map_append, List.map_append, parametric, neutral]
  simp only [List.forall_mem_append, List.forall_mem_map]
  refine ⟨?_, ?_, ?_⟩
  · cases negative <;> simp [isProduct, isSum]
  · intro text member
    obtain ⟨rest, isRatio⟩ := areRatios text member
    rw [isRatio]
    exact ⟨rfl, rfl⟩
  · cases negative <;> simp [isProduct, isSum]

end

/-- Behind a numeral and a sign stands the other operand. -/
theorem behindNumber_natural
    (number : Nat)
    {sign : Char}
    (isSign : isNumeralCharacter sign = false)
    {operator : String}
    (isOperator : operator.toList = [sign])
    (operand : String) :
    behindNumber (Numeral.natural number ++ operator ++ operand) =
      (false, sign :: operand.toList) := by
  have characters : (Numeral.natural number ++ operator ++ operand).toList =
      (Spelling.natural number).characters ++ sign :: operand.toList := by
    rw [Spelling.characters_natural]
    simp [String.toList_append, isOperator]
  refine behindNumber_of_spelling ?_ characters
  intro character member
  cases member
  exact isSign

theorem isProduct_productText
    {whole : Int}
    {first second : Nat}
    (least : 2 ≤ second) :
    isProduct (behindNumber (productText whole (first, second))) = true := by
  unfold productText
  rw [behindNumber_natural first (by decide) (by decide : "*".toList = ['*'])]
  by_cases below : whole < 0
  · simp [isProduct, below, String.toList_append]
  · have digits : (Numeral.natural second).toList.all Char.isDigit = true := by
      rw [List.all_eq_true, Numeral.natural, String.toList_ofList]
      exact fun _ member => Nat.isDigit_of_mem_toDigits (by decide) (by decide) member
    have notOne : (Numeral.natural second).toList ≠ ['1'] := by
      intro same
      have one : Numeral.natural second = Numeral.natural 1 := String.toList_inj.mp same
      have := Numeral.natural_injective one
      omega
    rw [if_neg below]
    show (_ || (_ && _)) = true
    rw [digits, bne_iff_ne.mpr notOne]
    exact Bool.or_true _

theorem isSum_productText (whole : Int) (pair : Nat × Nat) :
    isSum (behindNumber (productText whole pair)) = false := by
  unfold productText
  rw [behindNumber_natural pair.1 (by decide) (by decide : "*".toList = ['*'])]
  rfl

/-- The sum with a first summand, as it is written for an integer. -/
def sumText (whole : Int) (summand : Nat) : String :=
  Numeral.natural summand ++ "+" ++ integerOperand (whole - (summand : Int))

theorem integerOperand_ne_zeroCell {value : Int} (nonzero : value ≠ 0) :
    integerOperand value ≠ "0" := by
  unfold integerOperand bracketed
  intro same
  split at same
  next =>
    have characters := congrArg (·.toList.head?) same
    simp [String.toList_append] at characters
  next notNegative =>
    rw [decide_eq_true_iff] at notNegative
    unfold Numeral.integer at same
    rw [if_neg notNegative] at same
    have zero : Numeral.natural value.natAbs = Numeral.natural 0 := same
    have := Numeral.natural_injective zero
    omega

theorem isSum_sumText {whole : Int} {summand : Nat} (notAll : whole ≠ summand) :
    isSum (behindNumber (sumText whole summand)) = true := by
  have nonzero : integerOperand (whole - (summand : Int)) ≠ "0" :=
    integerOperand_ne_zeroCell (by omega)
  unfold sumText
  rw [behindNumber_natural summand (by decide) (by decide : "+".toList = ['+'])]
  show ((integerOperand (whole - (summand : Int))).toList != ['0']) = true
  rw [bne_iff_ne]
  exact fun same => nonzero (String.toList_inj.mp same)

theorem sumText_ne_zeroCell {whole : Int} {summand : Nat} : sumText whole summand ≠ zeroCell := by
  intro same
  have behind := congrArg behindNumber same
  unfold sumText at behind
  rw [behindNumber_natural summand (by decide) (by decide : "+".toList = ['+'])] at behind
  cases behind

/-- Products, or sums, with different first numbers are different. -/
theorem nodup_map_of_first
    {Item : Type}
    {items : List Item}
    {first : Item → Nat}
    {behind : Item → String}
    (ends : ∀ item, EndsNumeral (behind item).toList)
    (increasing : items.Pairwise fun earlier later => first earlier < first later) :
    (items.map fun item => Numeral.natural (first item) ++ behind item).Nodup := by
  rw [List.Nodup, List.pairwise_map]
  refine increasing.imp fun less same => ?_
  have sameFirst := Numeral.natural_append_inj (ends _) (ends _) same
  omega

theorem nodup_products (whole : Int) :
    ((factorPairs whole.natAbs).map (productText whole)).Nodup := by
  have texts : productText whole = fun pair : Nat × Nat => Numeral.natural pair.1 ++
      ("*" ++ if whole < 0 then "(-" ++ Numeral.natural pair.2 ++ ")"
        else Numeral.natural pair.2) := by
    funext pair
    exact String.append_assoc
  rw [texts]
  refine nodup_map_of_first (fun pair character member => ?_) (pairwise_factorPairs _)
  simp only [String.toList_append] at member
  cases member
  decide

/-- The sums of an integer, by increasing first summand. -/
def sums (whole : Int) : List String :=
  (List.range' 1 (sumCount whole)).map (sumText whole)

theorem nodup_sums (whole : Int) : (sums whole).Nodup := by
  have texts : sumText whole = fun summand : Nat => Numeral.natural summand ++
      ("+" ++ integerOperand (whole - (summand : Int))) := by
    funext summand
    exact String.append_assoc
  have increasing : (List.range' 1 (sumCount whole)).Pairwise
      fun earlier later => id earlier < id later :=
    List.pairwise_lt_range'
  unfold sums
  rw [texts]
  refine nodup_map_of_first (fun summand character member => ?_) increasing
  simp only [String.toList_append] at member
  cases member
  decide

/-! ## The families -/

section

variable {bound : Int} {target : Number} {steps : Steps}

/-- All that the sums propose. -/
theorem candidates_sumSteps
    {whole : Int}
    (formed : Pattern.sum.steps bound target = .ok steps)
    (isWhole : target.whole? = some whole) :
    steps.candidates 0 steps.count = (sums whole).map fun text => ⟨text, .sum⟩ := by
  rcases sumSteps_cases formed with ⟨notWhole, -⟩ | ⟨other, isOther, rfl⟩
  · cases isWhole.symm.trans notWhole
  · cases isWhole.symm.trans isOther
    have shifted : List.range' 1 (sumCount whole) =
        (List.range' 0 (sumCount whole)).map (1 + ·) := by
      rw [List.map_add_range']
    unfold Steps.candidates sums
    rw [shifted, List.map_map, List.map_map, ← List.filterMap_eq_map]
    refine List.filterMap_congr fun index _ => ?_
    simp only [sumProposal, sumText, Function.comp_apply, Nat.add_comm index 1]

/-- A number that is no integer has no products and no sums. -/
theorem candidates_of_not_whole
    {pattern : Pattern}
    (notWhole : target.whole? = none)
    (formed : pattern.steps bound target = .ok steps)
    (needsWhole : pattern = .product ∨ pattern = .sum) :
    steps.candidates 0 steps.count = [] := by
  have none : steps.count = 0 := by
    rw [count_of_steps formed]
    rcases needsWhole with rfl | rfl <;> simp only [Pattern.cost, notWhole]
  rw [none]
  rfl

/-- There is one factorial ratio at most. -/
theorem candidates_factorialRatioSteps
    (formed : Pattern.factorialRatio.steps bound target = .ok steps) :
    (steps.candidates 0 steps.count).length ≤ 1 ∧
      ∀ candidate ∈ steps.candidates 0 steps.count,
        ∃ rest, behindNumber candidate.text = (false, '!' :: rest) := by
  rcases factorialRatioSteps_cases formed with ⟨whole, -, ⟨least, -⟩, rfl⟩ | ⟨-, rfl⟩
  · rw [Steps.candidates_ofTexts]
    refine ⟨Nat.le_refl 1, fun candidate member => ?_⟩
    have numeral : Numeral.integer whole = Numeral.natural whole.natAbs :=
      if_neg (by omega)
    have characters :
        (Numeral.integer whole ++ "!/" ++ Numeral.integer (whole - 1) ++ "!").toList =
          (Spelling.natural whole.natAbs).characters ++
            '!' :: ("/" ++ Numeral.integer (whole - 1) ++ "!").toList := by
      rw [Spelling.characters_natural, numeral]
      simp [String.toList_append]
    rw [List.mem_singleton.mp member]
    exact ⟨_, behindNumber_of_spelling (by simp [isNumeralCharacter]) characters⟩
  · exact ⟨Nat.zero_le 1, nofun⟩

end

section

variable {value : Float} {number : Binary} (fields : Binary.ofFloat? value = some number)

include fields

/-- The candidates of a family are those of its steps. -/
theorem exists_steps_of_pattern (pattern : Pattern) :
    ∃ steps, pattern.steps factorialRatioBound (.float value) = .ok steps ∧
      Pattern.candidates (.float value) pattern = steps.candidates 0 steps.count := by
  have formed := yields_steps fields pattern
  cases same : pattern.steps factorialRatioBound (.float value) with
  | error fault =>
      rw [same] at formed
      exact formed.elim
  | ok steps =>
      refine ⟨steps, rfl, ?_⟩
      rw [Pattern.candidates, same]

/-- The products of a double are different, and products by more than one. -/
theorem texts_product :
    let products := (Pattern.candidates (.float value) .product).map Candidate.text
    products.Nodup ∧ ∀ text ∈ products,
      isProduct (behindNumber text) = true ∧ isSum (behindNumber text) = false := by
  obtain ⟨steps, formed, candidates⟩ := exists_steps_of_pattern fields .product
  rw [candidates]
  cases isWhole : (Number.float value).whole? with
  | none =>
      rw [candidates_of_not_whole isWhole formed (.inl rfl)]
      exact ⟨List.nodup_nil, List.forall_mem_nil _⟩
  | some whole =>
      have texts : (steps.candidates 0 steps.count).map Candidate.text =
          (factorPairs whole.natAbs).map (productText whole) := by
        rw [candidates_productSteps formed isWhole, List.map_map]
        rfl
      rw [texts]
      refine ⟨nodup_products whole, List.forall_mem_map.mpr ?_⟩
      rintro ⟨first, second⟩ member
      obtain ⟨least, ordered, -⟩ := mem_factorPairs.mp member
      exact ⟨isProduct_productText (least.trans ordered), isSum_productText _ _⟩

/-- The sums of a double are different and not the zero cell, and unless it is one, no zero is
added. -/
theorem texts_sum :
    let sums := (Pattern.candidates (.float value) .sum).map Candidate.text
    sums.Nodup ∧ (∀ text ∈ sums, text ≠ zeroCell) ∧
      (number.toInt? ≠ some 1 → ∀ text ∈ sums, isSum (behindNumber text) = true) := by
  obtain ⟨steps, formed, candidates⟩ := exists_steps_of_pattern fields .sum
  rw [candidates]
  have sameWhole := Number.whole?_of_fields fields
  cases isWhole : (Number.float value).whole? with
  | none =>
      rw [candidates_of_not_whole isWhole formed (.inr rfl)]
      exact ⟨List.nodup_nil, List.forall_mem_nil _, fun _ => List.forall_mem_nil _⟩
  | some whole =>
      have texts : (steps.candidates 0 steps.count).map Candidate.text = sums whole := by
        rw [candidates_sumSteps formed isWhole, List.map_map]
        exact List.map_id _
      rw [texts]
      refine ⟨nodup_sums whole, List.forall_mem_map.mpr fun summand _ => sumText_ne_zeroCell,
        fun notOne => List.forall_mem_map.mpr fun summand member => ?_⟩
      have notOne' : whole ≠ 1 := by
        rintro rfl
        exact notOne (sameWhole.symm.trans isWhole)
      rw [List.mem_range'_1] at member
      unfold sumCount at member
      refine isSum_sumText ?_
      split at member <;> omega

/-- The texts of all candidates: the forms of the literal, products, and sums. -/
theorem exists_texts :
    ∃ ratios products sums : List String,
      (candidates (.float value)).map Candidate.text =
          (parametricForms (binaryLiteral number)
              (bracketed (Number.float value).isNegative (binaryLiteral number)) ++
            (ratios ++ neutralForms (Number.float value).isNegative (binaryLiteral number)
              (bracketed (Number.float value).isNegative (binaryLiteral number)))) ++
          (products ++ sums) ∧
        (ratios.length ≤ 1 ∧
          ∀ text ∈ ratios, ∃ rest, behindNumber text = (false, '!' :: rest)) ∧
        (products.Nodup ∧ ∀ text ∈ products,
          isProduct (behindNumber text) = true ∧ isSum (behindNumber text) = false) ∧
        (sums.Nodup ∧ (∀ text ∈ sums, text ≠ zeroCell) ∧
          (number.toInt? ≠ some 1 → ∀ text ∈ sums, isSum (behindNumber text) = true)) := by
  refine ⟨(Pattern.candidates (.float value) .factorialRatio).map Candidate.text, _, _, ?_, ?_,
    texts_product fields, texts_sum fields⟩
  · have wholeList (pattern : Pattern) (texts : List String)
        (formed : pattern.steps factorialRatioBound (.float value) =
          .ok (.ofTexts pattern texts)) :
        (Pattern.candidates (.float value) pattern).map Candidate.text = texts := by
      unfold Pattern.candidates
      rw [formed]
      dsimp only
      rw [Steps.candidates_ofTexts, List.map_map]
      exact (List.map_id _).trans List.take_length
    have parametric := wholeList _ _ (parametricSteps_of_fields fields)
    have neutral := wholeList _ _ (neutralSteps_of_fields fields)
    unfold candidates Pattern.all
    simp only [List.flatMap_cons, List.flatMap_nil, List.map_append, List.append_nil,
      List.append_assoc, parametric, neutral]
  · obtain ⟨steps, formed, candidates⟩ := exists_steps_of_pattern fields .factorialRatio
    obtain ⟨few, areRatios⟩ := candidates_factorialRatioSteps formed
    rw [candidates, List.length_map]
    exact ⟨few, List.forall_mem_map.mpr areRatios⟩

/-- The candidates of a double other than one are different. -/
theorem nodup_texts (notOne : number.toInt? ≠ some 1) :
    ((candidates (.float value)).map Candidate.text).Nodup := by
  obtain ⟨spelling, spelled, -⟩ := exists_spelling_binaryLiteral number
  rw [signCharacters_eq fields] at spelled
  obtain ⟨ratios, products, sums, texts, ⟨few, areRatios⟩, ⟨productsDiffer, areProducts⟩,
    sumsDiffer, -, areSums⟩ := exists_texts fields
  have forms := isProduct_forms spelled areRatios
  have areSums := areSums notOne
  rw [texts]
  refine (nodup_forms spelled few areRatios).append (productsDiffer.append sumsDiffer ?_) ?_
  · intro text inProducts inSums
    have contradiction := (areProducts text inProducts).2.symm.trans (areSums text inSums)
    cases contradiction
  · intro text inForms inOthers
    obtain ⟨notProduct, notSum⟩ := forms text inForms
    rcases List.mem_append.mp inOthers with inProducts | inSums
    · cases notProduct.symm.trans (areProducts text inProducts).1
    · cases notSum.symm.trans (areSums text inSums)

/-- The literal of a double other than zero is not the zero cell. -/
theorem binaryLiteral_ne_zeroCell (nonzero : number.toInt? ≠ some 0) :
    binaryLiteral number ≠ zeroCell := by
  intro reserved
  rcases zero_or_finite (isFinite_of_ofFloat? fields) with
    ⟨sign, zero⟩ | ⟨sign, mantissa, exponent, positive, same⟩
  · rw [Binary.ofFloat?_eq, zero] at fields
    cases fields
    exact nonzero (Binary.toInt?_of_significand_eq_zero rfl)
  · -- The zero cell is read as zero, which the double is not.
    have evaluated : evaluate sampleLibrary (binaryLiteral number) = .ok (written value) :=
      evaluate_literal fields
    rw [reserved] at evaluated
    have zero := Except.ok.inj (evaluated.symm.trans (evaluate_zeroCell sampleLibrary))
    rw [written_of_finite same] at zero
    rw [zero] at same
    cases same

/-- No candidate of a double other than zero is the zero cell. -/
theorem zeroCell_not_mem_texts (nonzero : number.toInt? ≠ some 0) :
    zeroCell ∉ (candidates (.float value)).map Candidate.text := by
  obtain ⟨spelling, spelled, -⟩ := exists_spelling_binaryLiteral number
  rw [signCharacters_eq fields] at spelled
  obtain ⟨ratios, products, sums, texts, ⟨-, areRatios⟩, ⟨-, areProducts⟩, -, notZero, -⟩ :=
    exists_texts fields
  have notProduct : isProduct (behindNumber zeroCell) = false := by decide
  rw [texts]
  intro member
  rcases List.mem_append.mp member with inForms | inOthers
  · exact zeroCell_not_mem_forms spelled areRatios (binaryLiteral_ne_zeroCell fields nonzero)
      inForms
  · rcases List.mem_append.mp inOthers with inProducts | inSums
    · cases notProduct.symm.trans (areProducts _ inProducts).1
    · exact notZero _ inSums rfl

end

/-! ## Pairs of summands -/

/-- The pairs of positive summands of a number, by increasing first summand, which is not the
greater one. -/
def summandPairs (number : Nat) : List (Nat × Nat) :=
  (List.range' 1 (number / 2)).map fun first => (first, number - first)

theorem mem_summandPairs {number first second : Nat} :
    (first, second) ∈ summandPairs number ↔
      1 ≤ first ∧ first ≤ second ∧ first + second = number := by
  unfold summandPairs
  simp only [List.mem_map, List.mem_range'_1, Prod.mk.injEq]
  constructor
  · rintro ⟨summand, inRange, rfl, rfl⟩
    omega
  · intro isPair
    exact ⟨first, by omega, rfl, by omega⟩

theorem pairwise_summandPairs (number : Nat) :
    (summandPairs number).Pairwise fun earlier later => earlier.1 < later.1 := by
  unfold summandPairs
  rw [List.pairwise_map]
  exact List.pairwise_lt_range'

/-- The sums of an integer from two on are its pairs of summands. -/
theorem sums_of_two_le {whole : Int} (least : 2 ≤ whole) :
    sums whole = (summandPairs whole.toNat).map fun pair =>
      Numeral.natural pair.1 ++ "+" ++ Numeral.natural pair.2 := by
  unfold sums summandPairs sumCount
  rw [if_pos least, List.map_map]
  refine List.map_congr_left fun summand member => ?_
  rw [List.mem_range'_1] at member
  have notNegative : ¬ whole - (summand : Int) < 0 := by omega
  have magnitude : (whole - (summand : Int)).natAbs = whole.toNat - summand := by omega
  simp [sumText, integerOperand, bracketed, Numeral.integer, notNegative, magnitude]

/-! ## Searches -/

section

variable {functions : Elementary} {goal : Goal} {steps : Steps}

/-- If all proposals are different and none is the zero cell, a run turns down just those that
fail, and the next proposal is new. -/
theorem searchSteps_of_distinct
    (distinct : (steps.texts 0 steps.count).Nodup)
    (nonzero : zeroCell ∉ steps.texts 0 steps.count)
    (wanted : 0 < goal.count)
    {paid : Nat}
    {budget : Budget}
    {found : Budget × Progress}
    (within : paid ≤ steps.count)
    (searched : searchSteps functions goal steps 0 paid budget Progress.start = .ok found) :
    ∃ taken ≤ paid,
      found.1.spent = budget.spent + taken ∧
        Expression.texts found.2.accepted =
          (steps.texts 0 taken).filter (goal.verifies functions) ∧
        found.2.rejected = (steps.texts 0 taken).countP (!goal.verifies functions ·) ∧
        (¬ found.2.reached goal = true → paid < steps.count →
          ∀ candidate, steps.proposal paid = some candidate → candidate.text ∉ found.2.seen) := by
  have notYet : ¬ Progress.start.reached goal = true := Progress.not_reached_of_lt wanted
  obtain ⟨taken, atMost, spent, considers, stops⟩ := considers_of_searchSteps notYet searched
  have named : ∀ proposal ∈ (steps.candidates 0 taken).map Candidate.proposal,
      proposal.Named :=
    List.forall_mem_map.mpr fun candidate _ => candidate.named_proposal
  have texts : ((steps.candidates 0 taken).map Candidate.proposal).map Proposal.text =
      steps.texts 0 taken :=
    List.map_map
  have among := steps.texts_prefix 0 (atMost.trans within)
  have fresh : ∀ proposal ∈ (steps.candidates 0 taken).map Candidate.proposal,
      proposal.text ∉ Progress.start.seen := by
    intro proposal member inSeen
    have inTexts : proposal.text ∈ steps.texts 0 taken := texts ▸ List.mem_map_of_mem member
    rw [List.mem_singleton.mp inSeen] at inTexts
    exact nonzero (among.subset inTexts)
  obtain ⟨accepted, rejected⟩ :=
    considers.of_distinct named (texts ▸ distinct.sublist among.sublist) fresh
  rw [texts] at accepted rejected
  have tracks := considers.tracks named Progress.tracks_start
  rw [texts, List.nil_append] at tracks
  refine ⟨taken, atMost, spent, accepted, rejected.trans (Nat.zero_add _), ?_⟩
  intro notReached more candidate proposed inSeen
  have all : taken = paid := stops.resolve_left notReached
  subst all
  have next : steps.texts 0 (taken + 1) = steps.texts 0 taken ++ [candidate.text] := by
    unfold Steps.texts
    rw [Steps.candidates_add, Nat.zero_add, Steps.candidates_succ, proposed, List.map_append]
    rfl
  have nextAmong : steps.texts 0 (taken + 1) <+: steps.texts 0 steps.count :=
    steps.texts_prefix 0 more
  rw [next] at nextAmong
  rcases (tracks.seen candidate.text).mp inSeen with zero | earlier
  · refine nonzero (nextAmong.subset ?_)
    rw [← zero]
    exact List.mem_append_right _ (List.mem_singleton_self _)
  · have differ := distinct.sublist nextAmong.sublist
    exact List.disjoint_of_nodup_append differ earlier (List.mem_singleton_self _)

/-- So does a request for a target that has no pool. -/
theorem synthesize_of_distinct
    {target : Datum}
    {value : Float}
    {request : Request}
    {synthesis : Synthesis}
    (formed : stepsOf factorialRatioBound (.float value) Pattern.all = .ok steps)
    (distinct : (steps.texts 0 steps.count).Nodup)
    (nonzero : zeroCell ∉ steps.texts 0 steps.count)
    (noPool : standardCatalog.poolForTarget (.float value) request.includeAdvanced = [])
    (isTarget : requireTarget target = .ok value)
    (answered : synthesize functions target request = .ok synthesis) :
    Expression.texts synthesis.expressions =
        (steps.texts 0 synthesis.attempts).filter ((request.goal value).verifies functions) ∧
      synthesis.rejected = (steps.texts 0 synthesis.attempts).countP
        (!(request.goal value).verifies functions ·) := by
  obtain ⟨counted, usable⟩ := usable_of_synthesize isTarget answered
  rw [synthesize_eq_search functions isTarget counted usable] at answered
  have wanted : 0 < (request.goal value).count := by
    show 0 < request.count.toNat
    omega
  cases search_eq_ok_iff.mp answered with
  | @pool catalogued pooled length =>
      rw [Request.goal_target, noPool] at pooled
      cases pooled
      exact absurd length (Nat.ne_of_lt wanted)
  | @families catalogued others found pooled notYet alsoFormed searched length =>
      rw [Request.goal_target, noPool] at pooled
      cases pooled
      cases formed.symm.trans alsoFormed
      obtain ⟨taken, -, spent, accepted, rejected, -⟩ :=
        searchSteps_of_distinct distinct nonzero wanted (Nat.le_refl _) searched
      have paid : found.1.spent = taken := spent.trans (Nat.zero_add taken)
      dsimp only
      rw [paid]
      exact ⟨accepted, rejected⟩

end

/-- No candidate is wasted. With attempts enough a run through all families proposes the same
candidates. Those of a target other than one are different, and none of them is the zero cell
unless the target is zero. The sums of an integer from two on are its pairs of positive summands,
each once, by increasing smaller summand, which comes first. Below two they are written with the
first summands up to the magnitude, and one at least. So for a target other than zero and one,
for which there is no pool, a search turns a candidate down only because it fails: at each step
that is taken the next proposal is a new one, and among those considered the ones that have been
verified are accepted and the others are turned down. -/
theorem candidates_distinct (value : Float) (finite : value.isFinite = true) :
    ∃ steps, stepsOf factorialRatioBound (.float value) Pattern.all = .ok steps ∧
      (∀ budget : Budget, ((budget.spent + steps.count : Nat) : Int) ≤ budget.limit →
        (harvestFrom steps 0 steps.count none budget).candidates.map Candidate.text =
          steps.texts 0 steps.count) ∧
      ((Number.float value).equalsInt 1 = false → (steps.texts 0 steps.count).Nodup) ∧
      ((Number.float value).equalsInt 0 = false → zeroCell ∉ steps.texts 0 steps.count) ∧
      (∀ whole : Int, (Number.float value).equalsInt whole = true →
        (2 ≤ whole → ∃ pairs : List (Nat × Nat),
          (pairs.Pairwise fun earlier later => earlier.1 < later.1) ∧
            (∀ first second, (first, second) ∈ pairs ↔
              1 ≤ first ∧ first ≤ second ∧ ((first + second : Nat) : Int) = whole) ∧
            Pattern.candidates (.float value) .sum = pairs.map fun pair =>
              ⟨Numeral.natural pair.1 ++ "+" ++ Numeral.natural pair.2, .sum⟩) ∧
        (whole < 2 → Pattern.candidates (.float value) .sum =
          (List.range' 1 (max 1 (-whole).toNat)).map fun first =>
            ⟨Numeral.natural first ++ "+" ++ integerOperand (whole - (first : Int)), .sum⟩)) ∧
      ((Number.float value).equalsInt 0 = false → (Number.float value).equalsInt 1 = false →
        ∀ (functions : Elementary) (goal : Goal) (target : Datum) (request : Request)
          (synthesis : Synthesis),
          standardCatalog.poolForTarget (.float value) request.includeAdvanced = [] ∧
            (∀ (paid : Nat) (budget : Budget) (found : Budget × Progress),
              0 < goal.count → paid ≤ steps.count →
              searchSteps functions goal steps 0 paid budget Progress.start = .ok found →
              ∃ taken ≤ paid,
                found.1.spent = budget.spent + taken ∧
                  Expression.texts found.2.accepted =
                    (steps.texts 0 taken).filter (goal.verifies functions) ∧
                  found.2.rejected =
                    (steps.texts 0 taken).countP (!goal.verifies functions ·) ∧
                  (¬ found.2.reached goal = true → paid < steps.count →
                    ∀ candidate, steps.proposal paid = some candidate →
                      candidate.text ∉ found.2.seen)) ∧
            (requireTarget target = .ok value →
              synthesize functions target request = .ok synthesis →
              Expression.texts synthesis.expressions =
                  (steps.texts 0 synthesis.attempts).filter
                    ((request.goal value).verifies functions) ∧
                synthesis.rejected = (steps.texts 0 synthesis.attempts).countP
                  (!(request.goal value).verifies functions ·))) := by
  obtain ⟨number, fields⟩ := exists_ofFloat?_of_isFinite finite
  obtain ⟨steps, formed, -, all⟩ := exists_steps finite
  have texts : steps.texts 0 steps.count = (candidates (.float value)).map Candidate.text :=
    congrArg (List.map Candidate.text) all
  have sameWhole := Number.whole?_of_fields fields
  have differs {integer : Int} (differs : (Number.float value).equalsInt integer = false) :
      number.toInt? ≠ some integer := by
    rw [← sameWhole, ne_eq, Number.whole?_eq_some_iff, differs]
    exact Bool.false_ne_true
  have distinct (notOne : (Number.float value).equalsInt 1 = false) :
      (steps.texts 0 steps.count).Nodup := by
    rw [texts]
    exact nodup_texts fields (differs notOne)
  have noZero (notZero : (Number.float value).equalsInt 0 = false) :
      zeroCell ∉ steps.texts 0 steps.count := by
    rw [texts]
    exact zeroCell_not_mem_texts fields (differs notZero)
  refine ⟨steps, formed, fun budget affordable => ?_, distinct, noZero, fun whole equals => ?_,
    fun notZero notOne functions goal target request synthesis => ?_⟩
  · rw [harvestFrom_of_affordable steps 0 steps.count affordable]
    rfl
  · obtain ⟨sumSteps, sumFormed, candidates⟩ := exists_steps_of_pattern fields .sum
    have isWhole := Number.whole?_eq_some_iff.mpr equals
    rw [candidates, candidates_sumSteps sumFormed isWhole]
    constructor
    · intro least
      refine ⟨summandPairs whole.toNat, pairwise_summandPairs _, fun first second => ?_, ?_⟩
      · rw [mem_summandPairs]
        omega
      · rw [sums_of_two_le least, List.map_map]
        rfl
    · intro below
      unfold sums sumCount
      rw [if_neg (by omega), List.map_map]
      rfl
  · have noPool := Catalog.poolForTarget_eq_nil standardCatalog notOne notZero
      request.includeAdvanced
    refine ⟨noPool, ?_, ?_⟩
    · intro paid budget found wanted within searched
      exact searchSteps_of_distinct (distinct notOne) (noZero notZero) wanted within searched
    · intro isTarget answered
      exact synthesize_of_distinct formed (distinct notOne) (noZero notZero) noPool isTarget
        answered

/-- Fifteen is the sum of seven pairs, and all its candidates are different. Under a tolerance
that only exact notations meet a search for 14 of them turns two down, which are the two that
fail. -/
theorem candidates_distinct_fifteen :
    (15.0 : Float).isFinite = true ∧
      (Number.float 15.0).equalsInt 0 = false ∧
      (Number.float 15.0).equalsInt 1 = false ∧
      (Number.float 15.0).equalsInt 15 = true ∧
      ∃ steps, stepsOf factorialRatioBound (.float 15.0) Pattern.all = .ok steps ∧
        (steps.texts 0 steps.count).Nodup ∧
        zeroCell ∉ steps.texts 0 steps.count ∧
        (∃ pairs : List (Nat × Nat),
          pairs.length = 7 ∧
            (∀ first second, (first, second) ∈ pairs ↔
              1 ≤ first ∧ first ≤ second ∧ ((first + second : Nat) : Int) = 15) ∧
            Pattern.candidates (.float 15.0) .sum = pairs.map fun pair =>
              ⟨Numeral.natural pair.1 ++ "+" ++ Numeral.natural pair.2, .sum⟩) ∧
        let request : Request := { count := 14, tolerance := .float 1e-17 }
        ∃ synthesis : Synthesis,
          requireTarget (.int 15) = .ok 15.0 ∧
            synthesize roundedLibrary (.int 15) request = .ok synthesis ∧
            synthesis.expressions.length = 14 ∧
            synthesis.rejected = 2 ∧
            Expression.texts synthesis.expressions =
              (steps.texts 0 synthesis.attempts).filter
                ((request.goal 15.0).verifies roundedLibrary) ∧
            (steps.texts 0 synthesis.attempts).countP
              (!(request.goal 15.0).verifies roundedLibrary ·) = 2 := by
  have notZero : (Number.float 15.0).equalsInt 0 = false := by decide +kernel
  have notOne : (Number.float 15.0).equalsInt 1 = false := by decide +kernel
  have isFifteen : (Number.float 15.0).equalsInt 15 = true := by decide +kernel
  have isTarget : requireTarget (.int 15) = .ok 15.0 := eq_ok_of_toOption (by decide +kernel)
  have searched : (synthesize roundedLibrary (.int 15)
      { count := 14, tolerance := .float 1e-17 }).toOption.map (fun synthesis =>
        (synthesis.expressions.length, synthesis.rejected)) = some (14, 2) := by
    decide +kernel
  obtain ⟨synthesis, found, counts⟩ := Option.map_eq_some_iff.mp searched
  have answered := eq_ok_of_toOption found
  simp only [Prod.mk.injEq] at counts
  obtain ⟨length, turnedDown⟩ := counts
  obtain ⟨steps, formed, -, distinct, nonzero, sums, searches⟩ := candidates_distinct 15.0 rfl
  obtain ⟨pairs, -, isPair, candidates⟩ := (sums 15 isFifteen).1 (by decide)
  obtain ⟨-, -, whole⟩ := searches notZero notOne roundedLibrary ⟨15.0, .float 1e-17, 14⟩ (.int 15)
    { count := 14, tolerance := .float 1e-17 } synthesis
  obtain ⟨texts, rejected⟩ := whole isTarget answered
  have seven : pairs.length = 7 := by
    have lengths := congrArg List.length candidates
    rw [List.length_map] at lengths
    rw [← lengths]
    decide +kernel
  exact ⟨rfl, notZero, notOne, isFifteen, steps, formed, distinct notOne, nonzero notZero,
    ⟨pairs, seven, isPair, candidates⟩, synthesis, isTarget, answered, length, turnedDown,
    texts, rejected.symm.trans turnedDown⟩

end Variant

end FormulaGrid
