import FormulaGrid.Proofs.Formula.Denoting
import FormulaGrid.Proofs.Formula.Printing
import FormulaGrid.Proofs.Formula.Substitution
import FormulaGrid.Proofs.Number.Spelling

/-!
Contract: forms that are built around a number are formulas for a number.

Owns:
- the texts that are a formula for a number (`IsFormulaFor`): they have a tree, denote the number
  in the real numbers, and have a value in doubles unless a result is too large;
- a numeral behind a minus sign or none (`SignedNumeral`), as a literal and as the operand of an
  operator, and the number that it writes;
- sums, products and first powers that begin with an operand (`isFormulaFor_sum`,
  `isFormulaFor_product`, `isFormulaFor_power`), and a number between brackets, between bars and
  under a root.

The operand of a negative number stands in parentheses. Without them the sign would be taken
behind the power, the square or the operator in front of it.
-/

namespace FormulaGrid

open Text

/-! ## Formulas for a number -/

/-- The text is a formula for the number: it has a greedy tree that is not too deep and denotes
the number in the real numbers, with the given numbers for π and e, and it evaluates to a double
unless a result is too large. -/
def IsFormulaFor
    (functions : Elementary)
    (circle natural : ℝ)
    (text : String)
    (number : ℝ) :
    Prop :=
  ∃ (line : TokenLine) (tree : Phrase .sum),
    tokenize text = .ok line ∧
      tree.Greedy ∧
      tree.tokens = line.tokens ∧
      tree.depth ≤ deepestNesting ∧
      tree.value (realMeaning circle natural) = .ok number ∧
      ((∃ value, evaluate functions text = .ok value) ∨
        ∃ fault, evaluate functions text = .error fault ∧
          fault.family? = some .numericOverflow)

section

variable {functions : Elementary} {circle natural : ℝ}

/-- A text that writes out a tree is a formula for what the tree denotes. -/
theorem isFormulaFor_of_tree
    {text : String}
    {number : ℝ}
    (tree : Phrase .sum)
    (greedy : tree.Greedy)
    (shallow : tree.depth ≤ deepestNesting)
    (legible : Legible true tree.tokens)
    (spelled : text.toList = writtenOut tree.tokens)
    (denotes : tree.Denotes functions circle natural number) :
    IsFormulaFor functions circle natural text number := by
  obtain ⟨line, tokenized, same⟩ := tree.exists_tokenize greedy shallow legible spelled
  have worth : line.read (realMeaning circle natural) = .ok number :=
    eq_ok_of_unplacedFault_eq (same ℝ _ (realMeaning_movable circle natural)).symm denotes.reals
  obtain ⟨own, ownGreedy, derived, ownShallow, reads⟩ := TokenLine.exists_greedy_of_read worth
  have evaluated : evaluate functions text = line.read (arithmetic functions) := by
    rw [evaluate, tokenized]
    rfl
  refine ⟨line, own, tokenized, ownGreedy, derived, ownShallow, (reads ℝ _).symm.trans worth, ?_⟩
  have sameDoubles := same Float _ (arithmetic_movable functions)
  have doubles := denotes.doubles
  rw [evaluated]
  cases found : line.read (arithmetic functions) with
  | ok value => exact .inl ⟨value, rfl⟩
  | error fault =>
      refine .inr ⟨fault, rfl, ?_⟩
      rw [found] at sameDoubles
      cases outcome : tree.value (arithmetic functions) with
      | ok value =>
          rw [outcome] at sameDoubles
          cases sameDoubles
      | error treeFault =>
          rw [outcome] at sameDoubles doubles
          exact (Fault.family?_eq_of_unplaced_eq (Except.error.inj sameDoubles)).trans doubles

end

/-! ## Signs -/

theorem isSign_bar : IsSign '|' .bar "|" :=
  ⟨by decide, by decide, fun _ _ _ => rfl⟩

theorem isSign_factorial : IsSign '!' .factorial "!" :=
  ⟨by decide, by decide, fun _ _ _ => rfl⟩

theorem isSign_root : IsSign '√' (.root 2.0) "√" :=
  ⟨by decide, by decide, fun _ _ _ => rfl⟩

theorem isSign_circle : IsSign 'π' (.constant circleConstant) "π" :=
  ⟨by decide, by decide, fun _ _ _ => rfl⟩

/-! ## Numerals -/

namespace Spelling

variable (spelling : Spelling)

/-- The numeral as a number of the grammar. -/
def primary : Phrase .primary :=
  .number ⟨String.ofList spelling.characters, 0⟩ (numeralValue spelling.characters)

/-- The numeral as a signed phrase without a sign. -/
def signed : Phrase .signed :=
  .unsigned (.unraised (.postfixed spelling.primary .noPostfixes))

theorem tokens_signed : spelling.signed.tokens = [spelling.token 0] :=
  rfl

theorem writtenOut_token : writtenOut [spelling.token 0] = spelling.characters := by
  rw [writtenOut_cons, token, String.toList_ofList]
  exact List.append_nil _

section

variable (functions : Elementary) (circle natural : ℝ)

theorem value_signed_real :
    spelling.signed.value (realMeaning circle natural) = .ok (spelling.decimal.value : ℝ) := by
  show Except.ok ((numeralNumber (String.ofList spelling.characters).toList : ℚ) : ℝ) = _
  rw [String.toList_ofList, numeralNumber_characters]

theorem denotes_primary :
    spelling.primary.Denotes functions circle natural (spelling.decimal.value : ℝ) :=
  ⟨Arithmetic.tooLarge_checked _ _, spelling.value_signed_real circle natural⟩

theorem denotes_signed :
    spelling.signed.Denotes functions circle natural (spelling.decimal.value : ℝ) :=
  Phrase.denotes_unpostfixed (spelling.denotes_primary functions circle natural)

end

/-- A numeral that is not too large is worth its double. -/
theorem value_signed
    (functions : Elementary)
    (finite : (numeralValue spelling.characters).isFinite = true) :
    spelling.signed.value (arithmetic functions) = .ok (numeralValue spelling.characters) :=
  bind_of_ok (if_pos finite) _

end Spelling

/-- A numeral behind a minus sign or none. -/
structure SignedNumeral where
  negative : Bool
  spelling : Spelling

namespace SignedNumeral

variable (numeral : SignedNumeral)

/-- The numeral as it is written. -/
def characters : List Char :=
  (if numeral.negative then ['-'] else []) ++ numeral.spelling.characters

/-- The number that it writes. -/
def number : ℚ :=
  if numeral.negative then -numeral.spelling.decimal.value else numeral.spelling.decimal.value

/-- The numeral as it stands alone. -/
def literal : Phrase .signed :=
  if numeral.negative then .negated ⟨"-", 0⟩ numeral.spelling.signed else numeral.spelling.signed

/-- The numeral as it stands at an operator, in parentheses behind a minus sign. -/
def operand : Phrase .primary :=
  if numeral.negative then
    .group ⟨"(", 0⟩ (.ofSigned numeral.literal) ⟨")", 0⟩
  else
    numeral.spelling.primary

/-- The characters of the operand. -/
def operandCharacters : List Char :=
  if numeral.negative then '(' :: (numeral.characters ++ [')']) else numeral.characters

theorem writtenOut_literal : writtenOut numeral.literal.tokens = numeral.characters := by
  unfold literal characters
  cases numeral.negative with
  | false => exact numeral.spelling.writtenOut_token
  | true => exact congrArg ('-' :: ·) numeral.spelling.writtenOut_token

theorem writtenOut_operand : writtenOut numeral.operand.tokens = numeral.operandCharacters := by
  have inner := numeral.writtenOut_literal
  unfold operand operandCharacters
  cases negative : numeral.negative with
  | false =>
      simp only [literal, negative, Bool.false_eq_true, if_false] at inner ⊢
      exact inner
  | true =>
      simp only [if_true, Phrase.tokens, Phrase.tokens_ofSigned, writtenOut_cons,
        writtenOut_append, inner]
      rfl

section

variable {behind : List Token}

theorem legible_literal (first : Bool) (follows : FollowsNumeral behind) :
    Legible first (numeral.literal.tokens ++ behind) := by
  unfold literal
  cases numeral.negative with
  | false => exact numeral.spelling.legible first 0 follows
  | true => exact isSign_minus.legible rfl first 0 (numeral.spelling.legible false 0 follows)

theorem legible_operand (first : Bool) (follows : FollowsNumeral behind) :
    Legible first (numeral.operand.tokens ++ behind) := by
  have inner := numeral.legible_literal false
    (isSign_closing.followsNumeral rfl 0 follows.legible)
  unfold operand
  cases numeral.negative with
  | false => exact numeral.spelling.legible first 0 follows
  | true =>
      simp only [if_true, Phrase.tokens, Phrase.tokens_ofSigned, List.cons_append,
        List.append_assoc]
      exact isSign_opening.legible rfl first 0 inner

end

theorem greedy_literal : numeral.literal.Greedy := by
  unfold literal
  split <;> exact ⟨trivial, fun _ => rfl⟩

theorem greedy_operand : numeral.operand.Greedy := by
  unfold operand
  split
  · exact ⟨⟨numeral.greedy_literal, trivial⟩, trivial⟩
  · trivial

theorem operand_not_isRoot : ¬ numeral.operand.IsRoot := by
  unfold operand
  split <;> exact id

theorem depth_literal_le : numeral.literal.depth ≤ 1 := by
  unfold literal
  split <;> simp [Phrase.depth, Spelling.signed, Spelling.primary]

theorem depth_operand_le : numeral.operand.depth ≤ 2 := by
  have inner := numeral.depth_literal_le
  unfold operand
  split
  · simp only [Phrase.depth, Phrase.ofSigned, Phrase.ofProduct]
    omega
  · exact Nat.zero_le 2

section

variable (functions : Elementary) (circle natural : ℝ)

theorem denotes_literal :
    numeral.literal.Denotes functions circle natural (numeral.number : ℝ) := by
  have unsigned := numeral.spelling.denotes_signed functions circle natural
  unfold literal number
  cases numeral.negative with
  | false => exact unsigned
  | true =>
      simp only [if_true, Rat.cast_neg]
      exact Phrase.denotes_negated _ unsigned

theorem denotes_ofLiteral :
    (Phrase.ofSigned numeral.literal).Denotes functions circle natural (numeral.number : ℝ) :=
  Phrase.denotes_ofSigned (numeral.denotes_literal functions circle natural)

theorem denotes_operand :
    numeral.operand.Denotes functions circle natural (numeral.number : ℝ) := by
  have inner := numeral.denotes_ofLiteral functions circle natural
  unfold operand
  cases negative : numeral.negative with
  | false =>
      simp only [number, negative, Bool.false_eq_true, if_false]
      exact numeral.spelling.denotes_primary functions circle natural
  | true => exact Phrase.denotes_group _ _ inner

end

end SignedNumeral

/-! ## Forms that begin with an operand -/

/-- A phrase that stands at the beginning of a form, and in front of what may follow a
numeral. -/
structure Begins (characters : List Char) (base : Phrase .postfixed) : Prop where
  legible : ∀ (first : Bool) (behind : List Token), FollowsNumeral behind →
    Legible first (base.tokens ++ behind)
  spelled : writtenOut base.tokens = characters
  greedy : base.Greedy
  shallow : base.depth ≤ 2

section

variable {characters : List Char} {base : Phrase .postfixed} (begins : Begins characters base)
  {sign : Char} {lexeme : Lexeme} {signText : String} (spelled : signText.toList = [sign])

include begins spelled

/-- Such a phrase may also stand at the end of a form, behind a sign, -/
theorem Begins.followsNumeral_sign (isSign : IsSign sign lexeme signText) :
    FollowsNumeral (⟨lexeme, signText, 0⟩ :: base.tokens) := by
  have legible := begins.legible false [] followsNumeral_nil
  rw [List.append_nil] at legible
  exact isSign.followsNumeral spelled 0 legible

/-- where it is written out behind the sign. -/
theorem Begins.writtenOut_sign :
    writtenOut (⟨lexeme, signText, 0⟩ :: base.tokens) = sign :: characters := by
  rw [writtenOut_cons, begins.spelled, spelled]
  rfl

end

/-- An operand without postfixes. -/
def SignedNumeral.base (numeral : SignedNumeral) : Phrase .postfixed :=
  .postfixed numeral.operand .noPostfixes

theorem SignedNumeral.begins (numeral : SignedNumeral) :
    Begins numeral.operandCharacters numeral.base where
  legible first behind follows := by
    rw [base, Phrase.tokens, Phrase.tokens, List.append_nil]
    exact numeral.legible_operand first follows
  spelled := by
    rw [base, Phrase.tokens, Phrase.tokens, List.append_nil]
    exact numeral.writtenOut_operand
  greedy := ⟨numeral.greedy_operand, fun _ => rfl⟩
  shallow := by
    rw [base, Phrase.depth, Phrase.depth, Nat.max_zero]
    exact numeral.depth_operand_le

section Forms

variable {functions : Elementary} {circle natural : ℝ} {opening closing : List Char}
  {base : Phrase .postfixed} {text : String} {number : ℝ}
  (begins : Begins opening base)
  (spelled : text.toList = opening ++ closing)

include begins spelled

/-- A product or quotient that begins with an operand and denotes a number. -/
theorem isFormulaFor_ofProduct
    (factors : Phrase .factors)
    (follows : FollowsNumeral factors.tokens)
    (characters : writtenOut factors.tokens = closing)
    (greedy : factors.Greedy)
    (shallow : factors.depth ≤ 2)
    (denotes : (Phrase.product (.unsigned (.unraised base)) factors).Denotes functions circle
      natural number) :
    IsFormulaFor functions circle natural text number := by
  have tokens : (Phrase.ofProduct (.product (.unsigned (.unraised base)) factors)).tokens =
      base.tokens ++ factors.tokens := by
    simp [Phrase.tokens]
  refine isFormulaFor_of_tree (.ofProduct (.product (.unsigned (.unraised base)) factors))
    ⟨⟨begins.greedy, greedy⟩, trivial⟩ ?_ ?_ ?_ (Phrase.denotes_ofProduct denotes)
  · have baseShallow := begins.shallow
    simp only [Phrase.depth, Phrase.ofProduct, deepestNesting]
    omega
  · rw [tokens]
    exact begins.legible true _ follows
  · rw [tokens, writtenOut_append, begins.spelled, characters, spelled]

variable (baseDenotes : base.Denotes functions circle natural number)

include baseDenotes

/-- A sum that begins with an operand. -/
theorem isFormulaFor_sum
    {effect : ℝ → ℝ}
    (terms : Phrase .terms)
    (follows : FollowsNumeral terms.tokens)
    (characters : writtenOut terms.tokens = closing)
    (greedy : terms.Greedy)
    (shallow : terms.depth ≤ 2)
    (termsDenote : terms.Denotes functions circle natural effect) :
    IsFormulaFor functions circle natural text (effect number) := by
  have tokens : (Phrase.sum (.product (.unsigned (.unraised base)) .noFactors) terms).tokens =
      base.tokens ++ terms.tokens := by
    simp [Phrase.tokens]
  refine isFormulaFor_of_tree (.sum (.product (.unsigned (.unraised base)) .noFactors) terms)
    ⟨⟨begins.greedy, trivial⟩, greedy⟩ ?_ ?_ ?_
    (Phrase.denotes_sum (Phrase.denotes_product baseDenotes Phrase.denotes_noFactors) termsDenote)
  · have baseShallow := begins.shallow
    simp only [Phrase.depth, deepestNesting]
    omega
  · rw [tokens]
    exact begins.legible true _ follows
  · rw [tokens, writtenOut_append, begins.spelled, characters, spelled]

/-- A product or quotient that begins with an operand. -/
theorem isFormulaFor_product
    {effect : ℝ → ℝ}
    (factors : Phrase .factors)
    (follows : FollowsNumeral factors.tokens)
    (characters : writtenOut factors.tokens = closing)
    (greedy : factors.Greedy)
    (shallow : factors.depth ≤ 2)
    (factorsDenote : factors.Denotes functions circle natural effect) :
    IsFormulaFor functions circle natural text (effect number) :=
  isFormulaFor_ofProduct begins spelled factors follows characters greedy shallow
    (Phrase.denotes_product baseDenotes factorsDenote)

/-- The first power of an operand. -/
theorem isFormulaFor_power
    (powers : functions.HasWholePowers)
    (characters : closing = ['^', '1']) :
    IsFormulaFor functions circle natural text number := by
  have finite : (numeralValue (Spelling.natural 1).characters).isFinite = true := by
    decide
  have one : numeralValue (Spelling.natural 1).characters = 1.0 := by decide
  have exponentWorth := (Spelling.natural 1).value_signed functions finite
  have exponentNumber := (Spelling.natural 1).value_signed_real circle natural
  rw [one] at exponentWorth
  rw [Spelling.value_natural, Nat.cast_one, Rat.cast_one] at exponentNumber
  let power : Phrase .signed := .unsigned (.raised base ⟨"^", 0⟩ (Spelling.natural 1).signed)
  have tokens : (Phrase.ofSigned power).tokens =
      base.tokens ++ [⟨.operator .power, "^", 0⟩, (Spelling.natural 1).token 0] :=
    Phrase.tokens_ofSigned power
  refine isFormulaFor_of_tree (.ofSigned power)
    ⟨⟨⟨begins.greedy, trivial, fun _ => rfl⟩, trivial⟩, trivial⟩ ?_ ?_ ?_
    (Phrase.denotes_ofSigned
      (Phrase.denotes_raised powers _ baseDenotes exponentWorth exponentNumber))
  · have baseShallow := begins.shallow
    simp only [power, Phrase.depth, Phrase.ofSigned, Phrase.ofProduct, Spelling.signed,
      Spelling.primary, deepestNesting]
    omega
  · rw [tokens]
    exact begins.legible true _ (isSign_power.followsNumeral rfl 0
      ((Spelling.natural 1).legible false 0 followsNumeral_nil))
  · rw [tokens, writtenOut_append, begins.spelled, spelled, characters]
    rfl

end Forms

/-! ## Forms around a literal and under a root -/

namespace SignedNumeral

variable {functions : Elementary} {circle natural : ℝ} (numeral : SignedNumeral) {text : String}

/-- A literal alone. -/
theorem isFormulaFor_literal (spelled : text.toList = numeral.characters) :
    IsFormulaFor functions circle natural text numeral.number := by
  have legible := numeral.legible_literal true followsNumeral_nil
  rw [List.append_nil] at legible
  refine isFormulaFor_of_tree (.ofSigned numeral.literal)
    ⟨⟨numeral.greedy_literal, trivial⟩, trivial⟩ ?_ ?_ ?_
    (numeral.denotes_ofLiteral functions circle natural)
  · have shallow := numeral.depth_literal_le
    simp only [Phrase.depth, Phrase.ofSigned, Phrase.ofProduct, deepestNesting]
    omega
  · rw [Phrase.tokens_ofSigned]
    exact legible
  · rw [Phrase.tokens_ofSigned, numeral.writtenOut_literal, spelled]

/-- A literal between two signs that enclose it. -/
theorem isFormulaFor_enclosed
    {opening closing : Char}
    {openingLexeme closingLexeme : Lexeme}
    {openingText closingText : String}
    {number : ℝ}
    (enclosed : Phrase .primary)
    (isOpening : IsSign opening openingLexeme openingText)
    (isClosing : IsSign closing closingLexeme closingText)
    (openingSpelled : openingText.toList = [opening])
    (closingSpelled : closingText.toList = [closing])
    (tokens : enclosed.tokens = ⟨openingLexeme, openingText, 0⟩ ::
      (numeral.literal.tokens ++ [⟨closingLexeme, closingText, 0⟩]))
    (greedy : enclosed.Greedy)
    (shallow : enclosed.depth ≤ 2)
    (denotes : enclosed.Denotes functions circle natural number)
    (spelled : text.toList = opening :: (numeral.characters ++ [closing])) :
    IsFormulaFor functions circle natural text number := by
  let whole : Phrase .signed := .unsigned (.unraised (.postfixed enclosed .noPostfixes))
  have wholeTokens : (Phrase.ofSigned whole).tokens = enclosed.tokens :=
    (Phrase.tokens_ofSigned whole).trans (List.append_nil _)
  refine isFormulaFor_of_tree (.ofSigned whole)
    ⟨⟨⟨greedy, fun _ => rfl⟩, trivial⟩, trivial⟩ ?_ ?_ ?_
    (Phrase.denotes_ofSigned (Phrase.denotes_unpostfixed denotes))
  · simp only [whole, Phrase.depth, Phrase.ofSigned, Phrase.ofProduct, deepestNesting]
    omega
  · rw [wholeTokens, tokens]
    exact isOpening.legible openingSpelled true 0 (numeral.legible_literal false
      (isClosing.followsNumeral closingSpelled 0 (.nothing false)))
  · rw [wholeTokens, tokens, writtenOut_cons, writtenOut_append, writtenOut_cons, openingSpelled,
      closingSpelled, numeral.writtenOut_literal, spelled]
    rfl

/-- A literal in parentheses. -/
theorem isFormulaFor_group (spelled : text.toList = '(' :: (numeral.characters ++ [')'])) :
    IsFormulaFor functions circle natural text numeral.number := by
  have shallow := numeral.depth_literal_le
  refine numeral.isFormulaFor_enclosed
    (.group ⟨"(", 0⟩ (.ofSigned numeral.literal) ⟨")", 0⟩) isSign_opening isSign_closing rfl rfl ?_
    ⟨⟨numeral.greedy_literal, trivial⟩, trivial⟩ ?_
    (Phrase.denotes_group _ _ (numeral.denotes_ofLiteral functions circle natural)) spelled
  · rw [Phrase.tokens, Phrase.tokens_ofSigned]
    rfl
  · simp only [Phrase.depth, Phrase.ofSigned, Phrase.ofProduct]
    omega

/-- A literal between bars. -/
theorem isFormulaFor_bars (spelled : text.toList = '|' :: (numeral.characters ++ ['|'])) :
    IsFormulaFor functions circle natural text |(numeral.number : ℝ)| := by
  have shallow := numeral.depth_literal_le
  refine numeral.isFormulaFor_enclosed
    (.bars ⟨"|", 0⟩ (.ofSigned numeral.literal) ⟨"|", 0⟩) isSign_bar isSign_bar rfl rfl ?_
    ⟨⟨numeral.greedy_literal, trivial⟩, trivial⟩ ?_
    (Phrase.denotes_bars _ _ (numeral.denotes_ofLiteral functions circle natural)) spelled
  · rw [Phrase.tokens, Phrase.tokens_ofSigned]
    rfl
  · simp only [Phrase.depth, Phrase.ofSigned, Phrase.ofProduct]
    omega

/-- A raised two in front of a closing parenthesis. -/
theorem followsNumeral_square {behind : List Token} (legible : Legible false behind) :
    FollowsNumeral (⟨.superscript 2.0, "²", 0⟩ :: ⟨.rightParenthesis, ")", 0⟩ :: behind) where
  legible := by
    have two : Float.ofInt 2 = 2.0 := by decide
    have spelled : "²".toList = ['²'] := by decide
    have read (position : Nat) : Lexeme.read false position '²' (')' :: writtenOut behind) =
        .ok ⟨.superscript 2.0, "²", 0⟩ := by
      rw [← two]
      exact (@Lexeme.read_append false position '²' [] _ (.inl (endsLexeme_closing _))).trans rfl
    exact .token spelled (by simp [isBlank]) read (isSign_closing.legible rfl false 0 legible)
  ends character member := by
    cases member
    decide

/-- The root of the square of an operand. -/
theorem isFormulaFor_rootOfSquare
    (powers : functions.HasWholePowers)
    (spelled : text.toList = '√' :: '(' :: (numeral.operandCharacters ++ ['²', ')'])) :
    IsFormulaFor functions circle natural text |(numeral.number : ℝ)| := by
  let square : Phrase .postfixed :=
    .postfixed numeral.operand (.superscript ⟨"²", 0⟩ 2.0 .noPostfixes)
  let radicand : Phrase .postfixed :=
    .postfixed (.group ⟨"(", 0⟩ (.ofPostfixed square) ⟨")", 0⟩) .noPostfixes
  let root : Phrase .signed :=
    .unsigned (.unraised (.postfixed (.root ⟨"√", 0⟩ 2.0 radicand) .noPostfixes))
  have denotes : (Phrase.root ⟨"√", 0⟩ 2.0 radicand).Denotes functions circle natural
      |(numeral.number : ℝ)| :=
    Phrase.denotes_rootOfSquare powers _ _ _ _ (numeral.denotes_operand functions circle natural)
  have tokens : (Phrase.ofSigned root).tokens =
      ⟨.root 2.0, "√", 0⟩ :: ⟨.leftParenthesis, "(", 0⟩ :: (numeral.operand.tokens ++
        [⟨.superscript 2.0, "²", 0⟩, ⟨.rightParenthesis, ")", 0⟩]) := by
    rw [Phrase.tokens_ofSigned]
    simp [root, radicand, square, Phrase.tokens, Mark.token]
  refine isFormulaFor_of_tree (.ofSigned root) ?_ ?_ ?_ ?_
    (Phrase.denotes_ofSigned (Phrase.denotes_unpostfixed denotes))
  · have squareGreedy : square.Greedy :=
      ⟨numeral.greedy_operand, fun isRoot => absurd isRoot numeral.operand_not_isRoot⟩
    exact ⟨⟨⟨⟨⟨⟨squareGreedy, trivial⟩, trivial⟩, fun _ => rfl⟩, fun _ => rfl⟩, trivial⟩, trivial⟩
  · have operandShallow := numeral.depth_operand_le
    simp only [root, radicand, square, Phrase.depth, Phrase.ofSigned, Phrase.ofProduct,
      Phrase.ofPostfixed, deepestNesting]
    omega
  · rw [tokens]
    exact isSign_root.legible rfl true 0 (isSign_opening.legible rfl false 0
      (numeral.legible_operand false (followsNumeral_square (.nothing false))))
  · rw [tokens, writtenOut_cons, writtenOut_cons, writtenOut_append, numeral.writtenOut_operand,
      spelled]
    rfl

end SignedNumeral

end FormulaGrid
