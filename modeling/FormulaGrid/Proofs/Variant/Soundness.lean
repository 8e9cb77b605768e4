import FormulaGrid.Proofs.Variant.Classification
import FormulaGrid.Proofs.Variant.Factorial
import FormulaGrid.Proofs.Variant.RoundTrip

/-!
Contract: what the families propose are formulas for the target.

Owns:
- the number that a literal writes (`literalNumber`);
- the forms with an operand and a second number;
- the candidates of each family as such forms (`isFormulaFor_parametric`,
  `isFormulaFor_neutral`, `isFormulaFor_ratio`, `isFormulaFor_productProposal`,
  `isFormulaFor_sumProposal`);
- the number that a family means by a text (`Pattern.Means`), and the texts that are formulas for
  this number (`Pattern.IsSound`), one lemma for the decimal families and one for the others;
- every candidate for a finite target is a formula for the number that its family means
  (`candidates_sound`).

A form with one decimal in it denotes this decimal, which need not be the double that it stands
for. Whether a candidate evaluates to the target is for the search to find out.
-/

namespace FormulaGrid

open Text

/-! ## Signed numerals -/

/-- The number that a literal writes. -/
def literalNumber (text : String) : ℚ :=
  match text.toList with
  | '-' :: digits => -numeralNumber digits
  | digits => numeralNumber digits

namespace SignedNumeral

/-- The numeral of a natural number. -/
def ofNat (value : Nat) : SignedNumeral :=
  ⟨false, .natural value⟩

/-- The numeral of an integer. -/
def ofInt (value : Int) : SignedNumeral :=
  ⟨decide (value < 0), .natural value.natAbs⟩

theorem number_ofNat (value : Nat) : (ofNat value).number = value :=
  Spelling.value_natural value

theorem number_ofInt (value : Int) : (ofInt value).number = value := by
  have magnitude : (Spelling.natural value.natAbs).decimal.value = ((value.natAbs : Int) : ℚ) := by
    rw [Spelling.value_natural, Int.cast_natCast]
  unfold number ofInt
  dsimp only
  rw [magnitude]
  by_cases negative : value < 0
  · rw [decide_eq_true negative, if_pos rfl, Int.ofNat_natAbs_of_nonpos (Int.le_of_lt negative),
      Int.cast_neg, neg_neg]
  · rw [decide_eq_false negative, if_neg Bool.false_ne_true,
      Int.natAbs_of_nonneg (Int.not_lt.mp negative)]

theorem characters_ofInt (value : Int) :
    (Numeral.integer value).toList = (ofInt value).characters := by
  rw [Numeral.toList_integer, characters, ofInt, Spelling.characters_natural, Numeral.natural,
    String.toList_ofList]
  simp only [decide_eq_true_iff]

/-- The number of a literal is that of its numeral. -/
theorem literalNumber_eq
    {text : String}
    {numeral : SignedNumeral}
    (spelled : text.toList = numeral.characters) :
    literalNumber text = numeral.number := by
  unfold literalNumber number
  rw [spelled, characters]
  cases numeral.negative with
  | true => exact congrArg (- ·) numeral.spelling.numeralNumber_characters
  | false =>
      rw [if_neg Bool.false_ne_true, List.nil_append, if_neg Bool.false_ne_true,
        ← numeral.spelling.numeralNumber_characters]
      obtain ⟨head, tail, starts, digit⟩ := numeral.spelling.exists_characters_eq_cons
      split
      next sign =>
        rw [starts] at sign
        rw [(List.cons.inj sign).1] at digit
        cases digit
      next => rfl

/-- A literal becomes an operand as its numeral does. -/
theorem toList_bracketed
    {text : String}
    {numeral : SignedNumeral}
    (spelled : text.toList = numeral.characters) :
    (Variant.bracketed numeral.negative text).toList = numeral.operandCharacters := by
  unfold Variant.bracketed operandCharacters
  cases numeral.negative with
  | false => exact spelled
  | true =>
      rw [if_pos rfl, if_pos rfl, String.toList_append, String.toList_append, spelled]
      rfl

theorem toList_integerOperand (value : Int) :
    (Variant.integerOperand value).toList = (ofInt value).operandCharacters :=
  toList_bracketed (characters_ofInt value)

theorem toList_natural (value : Nat) :
    (Numeral.natural value).toList = (ofNat value).operandCharacters :=
  (Spelling.characters_natural value).symm

end SignedNumeral

/-! ## Forms with two numbers -/

namespace SignedNumeral

variable {functions : Elementary} {circle natural : ℝ} (numeral other : SignedNumeral)
  {text : String}

/-- An operand without a sign in front and a power behind it. -/
def signed : Phrase .signed :=
  .unsigned (.unraised numeral.base)

theorem denotes_signed (functions : Elementary) (circle natural : ℝ) :
    numeral.signed.Denotes functions circle natural (numeral.number : ℝ) :=
  Phrase.denotes_unpostfixed (numeral.denotes_operand functions circle natural)

/-- The sum of two operands. -/
theorem isFormulaFor_plus
    {sum : ℚ}
    (spelled : text.toList = numeral.operandCharacters ++ '+' :: other.operandCharacters)
    (total : numeral.number + other.number = sum) :
    IsFormulaFor functions circle natural text sum := by
  rw [← total, Rat.cast_add]
  let terms : Phrase .terms := .plus ⟨"+", 0⟩ (.product other.signed .noFactors) .noTerms
  have tokens : terms.tokens = ⟨.operator .plus, "+", 0⟩ :: other.base.tokens := by
    simp [terms, Phrase.tokens, signed, Mark.token]
  have term := Phrase.denotes_product (other.denotes_signed functions circle natural)
    Phrase.denotes_noFactors
  refine isFormulaFor_sum numeral.begins spelled
    (numeral.denotes_signed functions circle natural) terms ?_ ?_
    ⟨⟨other.begins.greedy, trivial⟩, trivial⟩ ?_
    (Phrase.denotes_plus ⟨"+", 0⟩ term Phrase.denotes_noTerms)
  · rw [tokens]
    exact other.begins.followsNumeral_sign rfl isSign_plus
  · rw [tokens]
    exact other.begins.writtenOut_sign rfl
  · have shallow := other.begins.shallow
    simp only [terms, Phrase.depth, signed]
    omega

/-- Their product. -/
theorem isFormulaFor_times
    {product : ℚ}
    (spelled : text.toList = numeral.operandCharacters ++ '*' :: other.operandCharacters)
    (total : numeral.number * other.number = product) :
    IsFormulaFor functions circle natural text product := by
  rw [← total, Rat.cast_mul]
  let factors : Phrase .factors := .times ⟨"*", 0⟩ other.signed .noFactors
  have tokens : factors.tokens = ⟨.operator .times, "*", 0⟩ :: other.base.tokens := by
    simp [factors, Phrase.tokens, signed, Mark.token]
  refine isFormulaFor_product numeral.begins spelled
    (numeral.denotes_signed functions circle natural) factors ?_ ?_
    ⟨other.begins.greedy, trivial⟩ ?_
    (Phrase.denotes_times ⟨"*", 0⟩ (other.denotes_signed functions circle natural)
      Phrase.denotes_noFactors)
  · rw [tokens]
    exact other.begins.followsNumeral_sign rfl isSign_times
  · rw [tokens]
    exact other.begins.writtenOut_sign rfl
  · have shallow := other.begins.shallow
    simp only [factors, Phrase.depth, signed]
    omega

/-- An operand less one and one more. -/
theorem isFormulaFor_lessOneMoreOne
    (spelled : text.toList = numeral.operandCharacters ++ ['-', '1', '+', '1']) :
    IsFormulaFor functions circle natural text numeral.number := by
  have term := Phrase.denotes_product
    ((Spelling.natural 1).denotes_signed functions circle natural) Phrase.denotes_noFactors
  have terms := Phrase.denotes_minus ⟨"-", 0⟩ term
    (Phrase.denotes_plus ⟨"+", 0⟩ term Phrase.denotes_noTerms)
  have follows : FollowsNumeral
      [⟨.operator .minus, "-", 0⟩, (Spelling.natural 1).token 0, ⟨.operator .plus, "+", 0⟩,
        (Spelling.natural 1).token 0] :=
    isSign_minus.followsNumeral rfl 0 ((Spelling.natural 1).legible false 0
      (isSign_plus.followsNumeral rfl 0
        ((Spelling.natural 1).legible false 0 followsNumeral_nil)))
  let one : Phrase .product := .product (Spelling.natural 1).signed .noFactors
  have form := isFormulaFor_sum numeral.begins spelled
    (numeral.denotes_signed functions circle natural)
    (.minus ⟨"-", 0⟩ one (.plus ⟨"+", 0⟩ one .noTerms)) follows rfl
    ⟨⟨⟨trivial, fun _ => rfl⟩, trivial⟩, ⟨⟨trivial, fun _ => rfl⟩, trivial⟩, trivial⟩
    (by decide) terms
  rw [Spelling.value_natural, Nat.cast_one, Rat.cast_one] at form
  simpa using form

section Quotients

variable {divisor : Phrase .signed} {token : Token} {double : Float} {right : ℝ}
  (tokens : divisor.tokens = [token])
  (divisorWorth : divisor.value (arithmetic functions) = .ok double)
  (divisorNumber : divisor.value (realMeaning circle natural) = .ok right)
  (doubleFinite : IsFinite double)
  (doubleNonzero : (double == 0.0) = false)
  (nonzero : right ≠ 0)
  (greedy : divisor.Greedy)
  (shallow : divisor.depth ≤ 2)

include tokens divisorWorth divisorNumber doubleNonzero nonzero greedy shallow

/-- An operand over a number of one token. -/
theorem isFormulaFor_over
    (legible : Legible false [token])
    (spelled : text.toList = numeral.operandCharacters ++ '/' :: token.text.toList) :
    IsFormulaFor functions circle natural text (numeral.number / right) := by
  have factors := Phrase.denotes_dividedBy ⟨"/", 0⟩ divisorWorth divisorNumber doubleNonzero
    nonzero Phrase.denotes_noFactors
  have factorTokens : (Phrase.dividedBy ⟨"/", 0⟩ divisor .noFactors).tokens =
      [⟨.operator .dividedBy, "/", 0⟩, token] := by
    rw [Phrase.tokens, tokens]
    rfl
  refine isFormulaFor_product numeral.begins spelled
    (numeral.denotes_signed functions circle natural) (.dividedBy ⟨"/", 0⟩ divisor .noFactors)
    ?_ ?_ ⟨greedy, trivial⟩ ?_ factors
  · rw [factorTokens]
    exact isSign_dividedBy.followsNumeral rfl 0 legible
  · rw [factorTokens, writtenOut_cons, writtenOut_cons]
    exact congrArg ('/' :: ·) (List.append_nil _)
  · rw [Phrase.depth, Phrase.depth, Nat.max_zero]
    exact shallow

include doubleFinite

/-- An operand times a number of one token and over the same number. -/
theorem isFormulaFor_timesOver
    (legible : Legible false [token, ⟨.operator .dividedBy, "/", 0⟩, token])
    (spelled : text.toList =
      numeral.operandCharacters ++ '*' :: (token.text.toList ++ '/' :: token.text.toList)) :
    IsFormulaFor functions circle natural text numeral.number := by
  have factor : divisor.Denotes functions circle natural right := by
    refine ⟨?_, divisorNumber⟩
    rw [divisorWorth]
    exact doubleFinite
  have factors := Phrase.denotes_times ⟨"*", 0⟩ factor
    (Phrase.denotes_dividedBy ⟨"/", 0⟩ divisorWorth divisorNumber doubleNonzero nonzero
      Phrase.denotes_noFactors)
  have factorTokens :
      (Phrase.times ⟨"*", 0⟩ divisor (.dividedBy ⟨"/", 0⟩ divisor .noFactors)).tokens =
        [⟨.operator .times, "*", 0⟩, token, ⟨.operator .dividedBy, "/", 0⟩, token] := by
    rw [Phrase.tokens, Phrase.tokens, tokens]
    rfl
  have form := isFormulaFor_product numeral.begins spelled
    (numeral.denotes_signed functions circle natural)
    (.times ⟨"*", 0⟩ divisor (.dividedBy ⟨"/", 0⟩ divisor .noFactors))
    (by
      rw [factorTokens]
      exact isSign_times.followsNumeral rfl 0 legible)
    (by
      rw [factorTokens]
      simp [writtenOut])
    ⟨greedy, greedy, trivial⟩
    (by
      rw [Phrase.depth, Phrase.depth, Phrase.depth]
      omega)
    factors
  rwa [id, mul_div_cancel_right₀ _ nonzero] at form

end Quotients

/-- An operand over one. -/
theorem isFormulaFor_overOne
    (spelled : text.toList = numeral.operandCharacters ++ ['/', '1']) :
    IsFormulaFor functions circle natural text numeral.number := by
  have form := numeral.isFormulaFor_over (Spelling.natural 1).tokens_signed
    ((Spelling.natural 1).value_signed functions (by decide))
    ((Spelling.natural 1).value_signed_real circle natural) (by decide)
    (by simp [Spelling.value_natural]) ⟨trivial, fun _ => rfl⟩ (by decide)
    ((Spelling.natural 1).legible false 0 followsNumeral_nil) spelled
  rwa [Spelling.value_natural, Nat.cast_one, Rat.cast_one, div_one] at form

/-- An operand times two and over two. -/
theorem isFormulaFor_timesTwoOverTwo
    (spelled : text.toList = numeral.operandCharacters ++ ['*', '2', '/', '2']) :
    IsFormulaFor functions circle natural text numeral.number := by
  have legible : Legible false
      [(Spelling.natural 2).token 0, ⟨.operator .dividedBy, "/", 0⟩,
        (Spelling.natural 2).token 0] :=
    (Spelling.natural 2).legible false 0 (isSign_dividedBy.followsNumeral rfl 0
      ((Spelling.natural 2).legible false 0 followsNumeral_nil))
  have finite : (numeralValue (Spelling.natural 2).characters).isFinite = true := by
    decide
  exact numeral.isFormulaFor_timesOver (Spelling.natural 2).tokens_signed
    ((Spelling.natural 2).value_signed functions finite)
    ((Spelling.natural 2).value_signed_real circle natural) finite (by decide)
    (by simp [Spelling.value_natural]) ⟨trivial, fun _ => rfl⟩ (by decide) legible spelled

/-- An operand times a constant and over it. -/
theorem isFormulaFor_timesOverConstant
    {name : String}
    {double : Float}
    {right : ℝ}
    (finite : double.isFinite = true)
    (doubleNonzero : (double == 0.0) = false)
    (denoted : RealNumbers.constant circle natural name = right)
    (nonzero : right ≠ 0)
    (legible : Legible false
      [⟨.constant double, name, 0⟩, ⟨.operator .dividedBy, "/", 0⟩, ⟨.constant double, name, 0⟩])
    (spelled : text.toList =
      numeral.operandCharacters ++ '*' :: (name.toList ++ '/' :: name.toList)) :
    IsFormulaFor functions circle natural text numeral.number := by
  let constant : Phrase .signed :=
    .unsigned (.unraised (.postfixed (.constant ⟨name, 0⟩ double) .noPostfixes))
  have worth : constant.value (arithmetic functions) = .ok double :=
    bind_of_ok (if_pos finite) _
  have number : constant.value (realMeaning circle natural) = .ok right :=
    congrArg Except.ok denoted
  exact numeral.isFormulaFor_timesOver rfl worth number finite doubleNonzero nonzero
    ⟨trivial, fun _ => rfl⟩ (Nat.zero_le 2) legible spelled

/-- An operand times π and over π. -/
theorem isFormulaFor_timesCircleOverCircle
    (nonzero : circle ≠ 0)
    (spelled : text.toList = numeral.operandCharacters ++ ['*', 'π', '/', 'π']) :
    IsFormulaFor functions circle natural text numeral.number :=
  numeral.isFormulaFor_timesOverConstant (by decide) (by decide) (if_pos rfl)
    nonzero
    (isSign_circle.legible rfl false 0 (isSign_dividedBy.legible rfl false 0
      (isSign_circle.legible rfl false 0 (.nothing false))))
    spelled

/-- An operand times e and over e. -/
theorem isFormulaFor_timesNaturalOverNatural
    (nonzero : natural ≠ 0)
    (spelled : text.toList = numeral.operandCharacters ++ ['*', 'e', '/', 'e']) :
    IsFormulaFor functions circle natural text numeral.number := by
  have natural : "e".toList = ['e'] := by decide
  have visible : isBlank 'e' = false := by decide
  have last : Legible false [⟨.constant naturalBase, "e", 0⟩] :=
    .token natural visible (fun _ => rfl) (.nothing false)
  exact numeral.isFormulaFor_timesOverConstant (by decide) (by decide)
    ((if_neg (by decide)).trans (if_pos rfl)) nonzero
    (.token natural visible (fun _ => rfl) (isSign_dividedBy.legible rfl false 0 last))
    spelled

end SignedNumeral

/-! ## The families -/

/-- A double that equals an integer is this integer. -/
theorem exactNumber?_of_toInt?
    {value : Float}
    {number : Binary}
    {whole : Int}
    (fields : Binary.ofFloat? value = some number)
    (equals : number.toInt? = some whole) :
    exactNumber? value = some (whole : ℚ) := by
  have magnitude := Binary.magnitude_eq_of_toInt? equals
  rw [exactNumber?, fields]
  unfold Binary.toInt? at equals
  split at equals
  next =>
    cases equals
    rw [natAbs_withSign] at magnitude
    rw [Option.map_some, magnitude, Binary.withSign]
    generalize number.numerator / number.denominator = quotient
    cases number.negative <;> simp
  next => cases equals

namespace Variant

section Families

variable {functions : Elementary} {circle natural : ℝ} {numeral : SignedNumeral}
  {literal : String} (spelled : literal.toList = numeral.characters)

include spelled

/-- What stands behind an operand. -/
theorem toList_behindOperand (suffix : String) :
    (bracketed numeral.negative literal ++ suffix).toList =
      numeral.operandCharacters ++ suffix.toList := by
  rw [String.toList_append, SignedNumeral.toList_bracketed spelled]

/-- The root of a square is a formula for the absolute value. -/
theorem isFormulaFor_rootForm (powers : functions.HasWholePowers) :
    IsFormulaFor functions circle natural
      ("√(" ++ bracketed numeral.negative literal ++ "²)") |(numeral.number : ℝ)| := by
  refine numeral.isFormulaFor_rootOfSquare powers ?_
  rw [String.toList_append, String.toList_append, SignedNumeral.toList_bracketed spelled]
  rfl

/-- The other forms of the first family are formulas for the number. -/
theorem isFormulaFor_parametric
    (powers : functions.HasWholePowers)
    {text : String}
    (member : text ∈ parametricForms literal (bracketed numeral.negative literal))
    (other : text ≠ "√(" ++ bracketed numeral.negative literal ++ "²)") :
    IsFormulaFor functions circle natural text numeral.number := by
  have behind := toList_behindOperand spelled
  simp only [parametricForms, List.mem_cons, List.not_mem_nil, or_false] at member
  rcases member with rfl | rfl | rfl | root | rfl
  · exact numeral.isFormulaFor_literal spelled
  · exact numeral.isFormulaFor_lessOneMoreOne (behind "-1+1")
  · exact numeral.isFormulaFor_timesTwoOverTwo (behind "*2/2")
  · exact absurd root other
  · exact isFormulaFor_power numeral.begins (behind "^1")
      (numeral.denotes_signed functions circle natural) powers rfl

/-- So are those of the neutral family. -/
theorem isFormulaFor_neutral
    (circleNonzero : circle ≠ 0)
    (naturalNonzero : natural ≠ 0)
    {text : String}
    (member : text ∈ neutralForms numeral.negative literal (bracketed numeral.negative literal)) :
    IsFormulaFor functions circle natural text numeral.number := by
  have behind := toList_behindOperand spelled
  have zero : (SignedNumeral.ofNat 0).number = 0 := SignedNumeral.number_ofNat 0
  have one : (SignedNumeral.ofNat 1).number = 1 := SignedNumeral.number_ofNat 1
  simp only [neutralForms, List.mem_append, List.mem_cons, List.not_mem_nil, or_false] at member
  rcases member with (rfl | rfl | rfl | rfl | rfl | rfl) | bars
  · exact numeral.isFormulaFor_plus (.ofNat 0) (behind "+0") (by rw [zero, add_zero])
  · exact numeral.isFormulaFor_times (.ofNat 1) (behind "*1") (by rw [one, mul_one])
  · exact numeral.isFormulaFor_overOne (behind "/1")
  · refine numeral.isFormulaFor_group ?_
    rw [String.toList_append, String.toList_append, spelled]
    rfl
  · exact numeral.isFormulaFor_timesCircleOverCircle circleNonzero (behind "*π/π")
  · exact numeral.isFormulaFor_timesNaturalOverNatural naturalNonzero (behind "*e/e")
  · cases negative : numeral.negative with
    | true =>
        rw [negative, if_pos rfl] at bars
        cases bars
    | false =>
        rw [negative, if_neg Bool.false_ne_true, List.mem_singleton] at bars
        have characters : text.toList = '|' :: (numeral.characters ++ ['|']) := by
          rw [bars, String.toList_append, String.toList_append, spelled]
          rfl
        have notBelow : (0 : ℝ) ≤ numeral.number := by
          rw [SignedNumeral.number, negative, if_neg Bool.false_ne_true, Spelling.decimal,
            Decimal.value]
          positivity
        rw [← abs_of_nonneg notBelow]
        exact numeral.isFormulaFor_bars characters

end Families

section Integers

variable (functions : Elementary) (circle natural : ℝ)

/-- A product that is proposed is a formula for the integer. -/
theorem isFormulaFor_productProposal
    {whole : Int}
    {index : Nat}
    {candidate : Candidate}
    (proposed : productProposal whole index = some candidate) :
    IsFormulaFor functions circle natural candidate.text (whole : ℚ) := by
  unfold productProposal at proposed
  dsimp only at proposed
  split at proposed
  next divides =>
    cases proposed
    have dvd : ((index + 2 : Nat) : Int) ∣ whole :=
      Int.natCast_dvd.mpr (Nat.dvd_of_mod_eq_zero (beq_iff_eq.mp divides))
    have exact : ((index + 2 : Nat) : Int) * (whole / ((index + 2 : Nat) : Int)) = whole :=
      Int.mul_ediv_cancel' dvd
    refine (SignedNumeral.ofNat (index + 2)).isFormulaFor_times
      (.ofInt (whole / ((index + 2 : Nat) : Int))) ?_ ?_
    · rw [String.toList_append, String.toList_append, SignedNumeral.toList_natural,
        SignedNumeral.toList_integerOperand, List.append_assoc]
      rfl
    · rw [SignedNumeral.number_ofNat, SignedNumeral.number_ofInt]
      exact_mod_cast exact
  next => cases proposed

/-- So is a sum. -/
theorem isFormulaFor_sumProposal
    {whole : Int}
    {index : Nat}
    {candidate : Candidate}
    (proposed : sumProposal whole index = some candidate) :
    IsFormulaFor functions circle natural candidate.text (whole : ℚ) := by
  cases proposed
  refine (SignedNumeral.ofNat (index + 1)).isFormulaFor_plus
    (.ofInt (whole - ((index + 1 : Nat) : Int))) ?_ ?_
  · rw [String.toList_append, String.toList_append, SignedNumeral.toList_natural,
      SignedNumeral.toList_integerOperand, List.append_assoc]
    rfl
  · rw [SignedNumeral.number_ofNat, SignedNumeral.number_ofInt]
    push_cast
    ring

/-- So is a quotient of factorials, of a positive integer that is a double. -/
theorem isFormulaFor_ratio
    {value : Float}
    {number : Binary}
    {whole : Int}
    (fields : Binary.ofFloat? value = some number)
    (equals : number.toInt? = some whole)
    (positive : 1 ≤ whole) :
    IsFormulaFor functions circle natural
      (Numeral.integer whole ++ "!/" ++ Numeral.integer (whole - 1) ++ "!") (whole : ℚ) := by
  obtain ⟨predecessor, rfl⟩ : ∃ predecessor : Nat, whole = ((predecessor + 1 : Nat) : Int) :=
    ⟨(whole - 1).toNat, by omega⟩
  have before : ((predecessor + 1 : Nat) : Int) - 1 = (predecessor : Int) := by omega
  have characters (value : Nat) :
      (Numeral.integer (value : Int)).toList = (Spelling.natural value).characters := by
    rw [SignedNumeral.characters_ofInt, SignedNumeral.characters, SignedNumeral.ofInt]
    simp
  have spelled : (Numeral.integer ((predecessor + 1 : Nat) : Int) ++ "!/" ++
      Numeral.integer (predecessor : Int) ++ "!").toList =
        (Spelling.natural (predecessor + 1)).characters ++ ['!'] ++
          '/' :: ((Spelling.natural predecessor).characters ++ ['!']) := by
    rw [String.toList_append, String.toList_append, String.toList_append, characters, characters,
      List.append_assoc, List.append_assoc, List.append_assoc]
    rfl
  have isNatural := isNatural_of_toInt? fields equals (Nat.succ_ne_zero predecessor)
  have form : IsFormulaFor functions circle natural _ _ :=
    isFormulaFor_factorialRatio isNatural spelled
  rw [before]
  simpa using form

end Integers

/-- The number that a family means by a text: the decimal in it, or its absolute value under the
root of its square, or, of the families for integers, the integer that the double is. -/
def Pattern.Means
    (value : Float)
    (literalText operandText text : String)
    (number : ℚ) :
    Pattern → Prop
  | .parametric =>
      number =
        if text = "√(" ++ operandText ++ "²)" then
          |literalNumber literalText|
        else
          literalNumber literalText
  | .neutral => number = literalNumber literalText
  | .factorialRatio | .product | .sum =>
      ∃ whole : Int, exactNumber? value = some (whole : ℚ) ∧ number = whole

/-- The text is a formula for the number that the family means by it. -/
def Pattern.IsSound
    (functions : Elementary)
    (circle natural : ℝ)
    (value : Float)
    (literalText operandText : String)
    (pattern : Pattern)
    (text : String) :
    Prop :=
  ∃ number : ℚ,
    IsFormulaFor functions circle natural text number ∧
      pattern.Means value literalText operandText text number

section

variable {functions : Elementary} {circle natural : ℝ} {value : Float} {number : Binary}
  (fields : Binary.ofFloat? value = some number) (bound : Int)

include fields

/-- The literal is a numeral with the sign of the double. -/
theorem exists_signedNumeral :
    ∃ numeral : SignedNumeral,
      numeral.negative = (Number.float value).isNegative ∧
        (binaryLiteral number).toList = numeral.characters := by
  obtain ⟨spelling, characters, -⟩ := exists_spelling_binaryLiteral number
  rw [signCharacters_eq fields] at characters
  exact ⟨⟨(Number.float value).isNegative, spelling⟩, rfl, characters⟩

/-- The decimal families mean the decimal. -/
theorem yields_sound_decimal
    (powers : functions.HasWholePowers)
    (circleNonzero : circle ≠ 0)
    (naturalNonzero : natural ≠ 0)
    {pattern : Pattern}
    (decimal : pattern = .parametric ∨ pattern = .neutral) :
    Yields
      (Steps.All (pattern.IsSound functions circle natural value (binaryLiteral number)
        (bracketed (Number.float value).isNegative (binaryLiteral number))))
      (fun _ => False) (pattern.steps bound (.float value)) := by
  obtain ⟨numeral, negative, spelled⟩ := exists_signedNumeral fields
  have same := SignedNumeral.literalNumber_eq spelled
  rcases decimal with rfl | rfl
  · have formed : Pattern.parametric.steps bound (.float value) = _ :=
      parametricSteps_of_fields fields
    rw [formed, ← negative]
    refine Steps.all_ofTexts _ fun text member => ⟨_, ?_, rfl⟩
    rw [same]
    split
    next root =>
      rw [root, Rat.cast_abs]
      exact isFormulaFor_rootForm spelled powers
    next other => exact isFormulaFor_parametric spelled powers member other
  · have formed : Pattern.neutral.steps bound (.float value) = _ := neutralSteps_of_fields fields
    rw [formed, ← negative]
    refine Steps.all_ofTexts _ fun text member => ⟨_, ?_, rfl⟩
    rw [same]
    exact isFormulaFor_neutral spelled circleNonzero naturalNonzero member

/-- The families for integers mean the integer that the double is, and propose nothing where it
is none. -/
theorem yields_sound_whole
    {pattern : Pattern}
    (whole : pattern = .factorialRatio ∨ pattern = .product ∨ pattern = .sum)
    (literalText operandText : String) :
    Yields
      (Steps.All (pattern.IsSound functions circle natural value literalText operandText))
      (fun _ => False) (pattern.steps bound (.float value)) := by
  have wholes := wholeValue?_of_fields fields
  have means (whole : Int) (equals : number.toInt? = some whole) :
      ∃ denoted : Int, exactNumber? value = some (denoted : ℚ) ∧ (whole : ℚ) = denoted :=
    ⟨whole, exactNumber?_of_toInt? fields equals, rfl⟩
  rcases whole with rfl | rfl | rfl
  · show Yields _ _ (factorialRatioSteps bound (.float value))
    rw [factorialRatioSteps, bind_of_ok wholes]
    cases equals : number.toInt? with
    | none => exact Steps.all_none _
    | some whole =>
        dsimp only
        split
        next inBounds =>
          rw [Bool.and_eq_true, decide_eq_true_iff] at inBounds
          exact Steps.all_ofTexts _ (List.forall_mem_singleton.mpr
            ⟨_, isFormulaFor_ratio functions circle natural fields equals inBounds.1,
              means whole equals⟩)
        next => exact Steps.all_none _
  · show Yields _ _ (productSteps (.float value))
    rw [productSteps, bind_of_ok wholes]
    cases equals : number.toInt? with
    | none => exact Steps.all_none _
    | some whole =>
        dsimp only
        split
        next => exact Steps.all_none _
        next =>
          exact fun _ _ proposed =>
            ⟨_, isFormulaFor_productProposal functions circle natural proposed,
              means whole equals⟩
  · show Yields _ _ (sumSteps (.float value))
    rw [sumSteps, bind_of_ok wholes]
    cases equals : number.toInt? with
    | none => exact Steps.all_none _
    | some whole =>
        exact fun _ _ proposed =>
          ⟨_, isFormulaFor_sumProposal functions circle natural proposed, means whole equals⟩

end

/-- The families are sound. For every finite double the literal, the operand and the steps of
each family exist, whatever the bound of the factorial ratios. Every candidate is a formula for
the number that its family means by it, whatever numbers other than zero stand for π and e: it
has a tree that denotes the number in the real numbers, and it evaluates to a double unless a
result is too large. -/
theorem candidates_sound
    (functions : Elementary)
    (powers : functions.HasWholePowers)
    (value : Float)
    (finite : value.isFinite = true)
    (circle natural : ℝ)
    (circleNonzero : circle ≠ 0)
    (naturalNonzero : natural ≠ 0)
    (bound : Int) :
    ∃ literalText operandText : String,
      literal (.float value) = .ok literalText ∧
        operand (.float value) = .ok operandText ∧
        ∀ pattern : Pattern, ∃ steps : Steps,
          pattern.steps bound (.float value) = .ok steps ∧
            ∀ candidate ∈ steps.candidates 0 steps.count, ∃ number : ℚ,
              IsFormulaFor functions circle natural candidate.text number ∧
                pattern.Means value literalText operandText candidate.text number := by
  obtain ⟨number, fields⟩ := exists_ofFloat?_of_isFinite finite
  refine ⟨_, _, literal_of_fields fields, operand_of_fields fields, fun pattern => ?_⟩
  have sound : Yields
      (Steps.All (pattern.IsSound functions circle natural value (binaryLiteral number)
        (bracketed (Number.float value).isNegative (binaryLiteral number))))
      (fun _ => False) (pattern.steps bound (.float value)) := by
    cases pattern with
    | parametric =>
        exact yields_sound_decimal fields bound powers circleNonzero naturalNonzero (.inl rfl)
    | neutral =>
        exact yields_sound_decimal fields bound powers circleNonzero naturalNonzero (.inr rfl)
    | factorialRatio => exact yields_sound_whole fields bound (.inl rfl) _ _
    | product => exact yields_sound_whole fields bound (.inr (.inl rfl)) _ _
    | sum => exact yields_sound_whole fields bound (.inr (.inr rfl)) _ _
  cases formed : pattern.steps bound (.float value) with
  | error fault =>
      rw [formed] at sound
      exact sound.elim
  | ok steps =>
      rw [formed] at sound
      exact ⟨steps, rfl, fun candidate member => Steps.All.of_mem_candidates sound member⟩

/-- A library with the first powers, and the square of minus twelve. -/
def squareLibrary : Elementary :=
  { exactLibrary with
    pow := fun base exponent =>
      .ok (if exponent == 1.0 then base else if base == -12.0 then 144.0 else 1.0) }

theorem squareLibrary_hasWholePowers : squareLibrary.HasWholePowers where
  inDomain _ _ _ _ _ _ refused := by cases refused
  square base value _ answered := by
    have second : ((2.0 : Float) == 1.0) = false := by decide
    have same : (if base == -12.0 then 144.0 else 1.0) = value := by
      simpa [squareLibrary, second] using answered
    rw [← same]
    split <;> decide

/-- The negative operand is raised and multiplied with its sign. -/
theorem candidates_sound_negativeTwelve :
    squareLibrary.HasWholePowers ∧
      (-12.0 : Float).isFinite = true ∧
      Real.pi ≠ 0 ∧
      Real.exp 1 ≠ 0 ∧
      ⟨"√((-12)²)", .parametric⟩ ∈ Pattern.parametric.candidates (.float (-12.0)) ∧
      IsFormulaFor squareLibrary Real.pi (Real.exp 1) "√((-12)²)" 12 ∧
      ⟨"2*(-6)", .product⟩ ∈ Pattern.product.candidates (.float (-12.0)) ∧
      IsFormulaFor squareLibrary Real.pi (Real.exp 1) "2*(-6)" (-12) := by
  have finite : (-12.0 : Float).isFinite = true := by decide +kernel
  have written : (literal (.float (-12.0))).toOption = some "-12" := by decide +kernel
  have writtenOperand : (operand (.float (-12.0))).toOption = some "(-12)" := by decide +kernel
  have rootMember : ⟨"√((-12)²)", .parametric⟩ ∈
      Pattern.parametric.candidates (.float (-12.0)) := by
    decide +kernel
  have productMember : ⟨"2*(-6)", .product⟩ ∈ Pattern.product.candidates (.float (-12.0)) := by
    decide +kernel
  obtain ⟨literalText, operandText, formed, formedOperand, sound⟩ :=
    candidates_sound squareLibrary squareLibrary_hasWholePowers (-12.0) finite Real.pi
      (Real.exp 1) Real.pi_ne_zero (Real.exp_ne_zero 1) factorialRatioBound
  rw [formed] at written
  rw [formedOperand] at writtenOperand
  cases written
  cases writtenOperand
  have literalWorth : literalNumber "-12" = -12 :=
    congrArg (- ·) (numeralNumber_natural 12)
  have fields : Binary.ofFloat? (-12.0) = some ⟨true, 6755399441055744, -49⟩ := by
    decide +kernel
  have exact : exactNumber? (-12.0) = some (-12) := by
    rw [exactNumber?, fields]
    norm_num [Binary.magnitude]
  refine ⟨squareLibrary_hasWholePowers, finite, Real.pi_ne_zero, Real.exp_ne_zero 1, rootMember,
    ?_, productMember, ?_⟩
  · obtain ⟨steps, family, formulas⟩ := sound .parametric
    rw [Pattern.candidates, family] at rootMember
    obtain ⟨denoted, formula, means⟩ := formulas _ rootMember
    have number : denoted = 12 := by
      rw [Pattern.Means, if_pos (by decide), literalWorth] at means
      rw [means]
      norm_num
    rw [number] at formula
    exact_mod_cast formula
  · obtain ⟨steps, family, formulas⟩ := sound .product
    rw [Pattern.candidates, family] at productMember
    obtain ⟨denoted, formula, whole, same, means⟩ := formulas _ productMember
    have number : denoted = -12 := means.trans (Option.some.inj (same.symm.trans exact))
    rw [number] at formula
    exact_mod_cast formula

end Variant

end FormulaGrid
