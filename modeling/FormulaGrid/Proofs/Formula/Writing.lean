import FormulaGrid.Proofs.Formula.Contract
import FormulaGrid.Proofs.Formula.Numeral

/-!
Contract: texts that are known to be read as a phrase with a value.

Owns:
- the value of a phrase as a property (`Phrase.IsWorth`);
- a text together with the phrase that it is read as, wherever it stands, and the value of
  this phrase (`Writing`);
- the scan of a numeral in front of what does not go on it (`Spelling.scan`);
- the writings of numerals, and those made of others: groups, signs, powers, products,
  quotients, sums and differences;
- the text of a writing evaluates to its value (`Writing.evaluate_eq`).

A writing is scanned in front of any text that does not go on a numeral, so that writings
can be put side by side with a sign between them.
-/

namespace FormulaGrid

/-- The phrase has the value; a repetition, behind any value. -/
def Phrase.IsWorth
    {Value : Type}
    (meaning : Interpretation Value)
    (value : Value) :
    {category : Category} → Phrase category → Prop
  | .sum, phrase | .product, phrase | .signed, phrase | .power, phrase | .postfixed, phrase
  | .primary, phrase => phrase.value meaning = .ok value
  | .terms, phrase | .factors, phrase | .postfixes, phrase =>
      ∀ start, phrase.value meaning start = .ok value

/-! ## Signs -/

/-- The character is a lexeme of its own, wherever it stands, and does not go on a numeral. -/
structure IsSign (sign : Char) (lexeme : Lexeme) (text : String) : Prop where
  visible : Text.isBlank sign = false
  notNumeral : sign.isDigit = false ∧ sign ≠ '.'
  read : ∀ (first : Bool) (position : Nat) (tail : List Char),
    Lexeme.read first position sign tail = .ok ⟨lexeme, text, 0⟩

theorem isSign_plus : IsSign '+' (.operator .plus) "+" :=
  ⟨by decide, by decide, fun _ _ _ => rfl⟩

theorem isSign_minus : IsSign '-' (.operator .minus) "-" :=
  ⟨by decide, by decide, fun _ _ _ => rfl⟩

theorem isSign_times : IsSign '*' (.operator .times) "*" :=
  ⟨by decide, by decide, fun _ _ _ => rfl⟩

theorem isSign_dividedBy : IsSign '/' (.operator .dividedBy) "/" :=
  ⟨by decide, by decide, fun _ _ _ => rfl⟩

theorem isSign_power : IsSign '^' (.operator .power) "^" :=
  ⟨by decide, by decide, fun _ _ _ => rfl⟩

theorem isSign_opening : IsSign '(' .leftParenthesis "(" :=
  ⟨by decide, by decide, fun _ _ _ => rfl⟩

theorem isSign_closing : IsSign ')' .rightParenthesis ")" :=
  ⟨by decide, by decide, fun _ _ _ => rfl⟩

section

variable {sign : Char} {lexeme : Lexeme} {text : String} (isSign : IsSign sign lexeme text)

include isSign

theorem IsSign.endsNumeral (tail : List Char) : EndsNumeral (sign :: tail) := by
  intro character member
  cases member
  exact isSign.notNumeral

/-- A sign in front of a text is a token in front of its tokens. -/
theorem IsSign.scan
    (first : Bool)
    {position : Nat}
    {tail : List Char}
    {others : List Token}
    (behind : scan false (position + 1) tail = .ok others) :
    scan first position (sign :: tail) = .ok (⟨lexeme, text, position⟩ :: others) :=
  scan_of_read isSign.visible (isSign.read first position tail) behind

end

/-- A numeral is read as its token in front of a text that does not go on it. -/
theorem Spelling.exists_read
    (spelling : Spelling)
    {rest : List Char}
    (ends : EndsNumeral rest) :
    ∃ (head : Char) (tail : List Char),
      spelling.characters = head :: tail ∧
        Text.isBlank head = false ∧
        ∀ (first : Bool) (position : Nat),
          Lexeme.read first position head (tail ++ rest) =
            .ok ⟨.number (numeralValue spelling.characters),
              String.ofList spelling.characters, tail.length⟩ := by
  have span := spelling.numeralSpan_characters ends
  obtain ⟨head, tail, starts, digit⟩ := spelling.exists_characters_eq_cons
  refine ⟨head, tail, starts, (plain_of_isDigit digit).1, fun first position => ?_⟩
  rw [starts] at span ⊢
  unfold Lexeme.read
  rw [← List.cons_append, span]
  rfl

/-- So it is a token in front of the tokens of the text. -/
theorem Spelling.scan
    (spelling : Spelling)
    (first : Bool)
    {position : Nat}
    {rest : List Char}
    {others : List Token}
    (ends : EndsNumeral rest)
    (behind : scan false (position + spelling.characters.length) rest = .ok others) :
    scan first position (spelling.characters ++ rest) =
      .ok (⟨.number (numeralValue spelling.characters), String.ofList spelling.characters,
        position⟩ :: others) := by
  obtain ⟨head, tail, starts, visible, read⟩ := spelling.exists_read ends
  have length : spelling.characters.length = tail.length + 1 := by rw [starts, List.length_cons]
  rw [length] at behind
  have text : spelling.characters ++ rest = head :: (tail ++ rest) := by
    rw [starts, List.cons_append]
  rw [text]
  refine scan_of_read visible (read first position) ?_
  rw [List.drop_left, Nat.add_right_comm]
  exact behind

theorem Spelling.visible (spelling : Spelling) : Text.allBlank spelling.characters = false := by
  obtain ⟨head, tail, starts, digit⟩ := spelling.exists_characters_eq_cons
  have visible : Text.isBlank head = false := (plain_of_isDigit digit).1
  rw [starts]
  exact List.all_eq_false.mpr ⟨head, List.mem_cons_self, by rw [visible]; exact Bool.false_ne_true⟩

/-! ## Writings -/

/-- A text that is read as a phrase with the value, at whatever position it stands. The phrase
nests no deeper than the given depth. -/
structure Writing
    (functions : Elementary)
    (category : Category)
    (depth : Nat)
    (value : Float) where
  characters : List Char
  phrase : Nat → Phrase category
  visible : Text.allBlank characters = false
  scanned : ∀ (first : Bool) (position : Nat) (rest : List Char) (others : List Token),
    EndsNumeral rest →
    scan false (position + characters.length) rest = .ok others →
      scan first position (characters ++ rest) = .ok ((phrase position).tokens ++ others)
  greedy : ∀ position, (phrase position).Greedy
  shallow : ∀ position, (phrase position).depth ≤ depth
  worth : ∀ position, (phrase position).IsWorth (arithmetic functions) value

namespace Writing

variable {functions : Elementary} {category otherCategory : Category} {depth otherDepth : Nat}
  {left right value : Float}

theorem allBlank_append (first second : List Char) :
    Text.allBlank (first ++ second) = (Text.allBlank first && Text.allBlank second) :=
  List.all_append

theorem allBlank_cons (character : Char) (others : List Char) :
    Text.allBlank (character :: others) = (Text.isBlank character && Text.allBlank others) :=
  List.all_cons

section

variable {sign : Char} {lexeme : Lexeme} {text : String} (isSign : IsSign sign lexeme text)

include isSign

/-- Two writings with a sign between them, joined by a construct of the grammar. The second
one may be nested deeper in it. -/
def between
    {third : Category}
    (first : Writing functions category depth left)
    (second : Writing functions otherCategory otherDepth right)
    (join : Phrase category → Mark → Phrase otherCategory → Phrase third)
    (deeper : Nat)
    (tokens : ∀ lower mark upper,
      (join lower mark upper).tokens = lower.tokens ++ mark.token lexeme :: upper.tokens)
    (greedy : ∀ lower mark upper, lower.Greedy → upper.Greedy → (join lower mark upper).Greedy)
    (shallow : ∀ lower mark upper,
      (join lower mark upper).depth ≤ max lower.depth (upper.depth + deeper))
    (worth : ∀ lower mark upper, lower.IsWorth (arithmetic functions) left →
      upper.IsWorth (arithmetic functions) right →
        (join lower mark upper).IsWorth (arithmetic functions) value) :
    Writing functions third (max depth (otherDepth + deeper)) value where
  characters := first.characters ++ sign :: second.characters
  phrase position :=
    join (first.phrase position) ⟨text, position + first.characters.length⟩
      (second.phrase (position + first.characters.length + 1))
  visible := by
    rw [allBlank_append, first.visible, Bool.false_and]
  scanned isFirst position rest others ends behind := by
    rw [List.length_append, List.length_cons] at behind
    have places : position + first.characters.length + 1 + second.characters.length =
        position + (first.characters.length + (second.characters.length + 1)) := by omega
    rw [← places] at behind
    have upper := isSign.scan false (second.scanned false _ rest others ends behind)
    have lower := first.scanned isFirst position _ _ (isSign.endsNumeral _) upper
    rw [List.append_assoc, List.cons_append, lower, tokens, List.append_assoc]
    rfl
  greedy position := greedy _ _ _ (first.greedy _) (second.greedy _)
  shallow position := Nat.le_trans (shallow _ _ _)
    (max_le_max (first.shallow _) (Nat.add_le_add_right (second.shallow _) deeper))
  worth position := worth _ _ _ (first.worth _) (second.worth _)

end

/-- The category of a writing may be exchanged with that of a phrase of the same tokens. -/
def rephrase
    {value : Float}
    (writing : Writing functions category depth value)
    (phrase : Phrase category → Phrase otherCategory)
    (tokens : ∀ inner, (phrase inner).tokens = inner.tokens)
    (greedy : ∀ inner, inner.Greedy → (phrase inner).Greedy)
    (shallow : ∀ inner, (phrase inner).depth ≤ inner.depth)
    (worth : ∀ inner, inner.IsWorth (arithmetic functions) value →
      (phrase inner).IsWorth (arithmetic functions) value) :
    Writing functions otherCategory depth value where
  characters := writing.characters
  phrase position := phrase (writing.phrase position)
  visible := writing.visible
  scanned first position rest others ends behind := by
    rw [tokens]
    exact writing.scanned first position rest others ends behind
  greedy position := greedy _ (writing.greedy position)
  shallow position := Nat.le_trans (shallow _) (writing.shallow position)
  worth position := worth _ (writing.worth position)

/-- A writing may be counted as one that nests deeper. -/
def deepen
    {value : Float}
    (writing : Writing functions category depth value)
    (atMost : depth ≤ otherDepth) :
    Writing functions category otherDepth value :=
  { writing with shallow := fun position => Nat.le_trans (writing.shallow position) atMost }

/-- A primary without postfixes. -/
def postfixed (writing : Writing functions .primary depth value) :
    Writing functions .postfixed depth value :=
  writing.rephrase (fun inner => .postfixed inner .noPostfixes)
    (fun _ => List.append_nil _)
    (fun _ greedy => ⟨greedy, fun _ => rfl⟩)
    (fun inner => by simp [Phrase.depth])
    (fun _ worth => bind_of_ok worth _)

/-- A postfixed phrase without a sign and an exponent. -/
def signed (writing : Writing functions .postfixed depth value) :
    Writing functions .signed depth value :=
  writing.rephrase (fun inner => .unsigned (.unraised inner)) (fun _ => rfl)
    (fun _ => id) (fun _ => Nat.le_refl _) (fun _ => id)

/-- A signed phrase that is a product of its own. -/
def product (writing : Writing functions .signed depth value) :
    Writing functions .product depth value :=
  writing.rephrase (fun inner => .product inner .noFactors)
    (fun _ => List.append_nil _)
    (fun _ greedy => ⟨greedy, trivial⟩)
    (fun inner => by simp [Phrase.depth])
    (fun _ worth => bind_of_ok worth _)

/-- A product that is a sum of its own. -/
def sum (writing : Writing functions .product depth value) :
    Writing functions .sum depth value :=
  writing.rephrase Phrase.ofProduct Phrase.tokens_ofProduct
    (fun _ greedy => ⟨greedy, trivial⟩)
    (fun inner => by simp [Phrase.ofProduct, Phrase.depth])
    (fun inner worth => (Phrase.value_ofProduct _ inner).trans worth)

/-- A sum in parentheses. -/
def group (writing : Writing functions .sum depth value) :
    Writing functions .primary (depth + 1) value where
  characters := '(' :: (writing.characters ++ [')'])
  phrase position :=
    .group ⟨"(", position⟩ (writing.phrase (position + 1))
      ⟨")", position + 1 + writing.characters.length⟩
  visible := by
    rw [allBlank_cons, isSign_opening.visible, Bool.false_and]
  scanned first position rest others ends behind := by
    have places : position + ('(' :: (writing.characters ++ [')'])).length =
        position + 1 + writing.characters.length + 1 := by
      rw [List.length_cons, List.length_append, List.length_singleton]
      omega
    rw [places] at behind
    have closing := isSign_closing.scan false behind
    have inner := writing.scanned false (position + 1) _ _ (isSign_closing.endsNumeral rest)
      closing
    have opening := isSign_opening.scan first inner
    rw [List.cons_append, List.append_assoc, List.singleton_append, opening, Phrase.tokens]
    simp [Mark.token]
  greedy position := writing.greedy (position + 1)
  shallow position := Nat.succ_le_succ (writing.shallow (position + 1))
  worth position := writing.worth (position + 1)

/-- A minus sign in front of a signed phrase. -/
def negated (writing : Writing functions .signed depth value) :
    Writing functions .signed (depth + 1) (-value) where
  characters := '-' :: writing.characters
  phrase position := .negated ⟨"-", position⟩ (writing.phrase (position + 1))
  visible := by
    rw [allBlank_cons, isSign_minus.visible, Bool.false_and]
  scanned first position rest others ends behind := by
    have places : position + ('-' :: writing.characters).length =
        position + 1 + writing.characters.length := by
      rw [List.length_cons]
      omega
    rw [places] at behind
    exact isSign_minus.scan first (writing.scanned false _ rest others ends behind)
  greedy position := writing.greedy (position + 1)
  shallow position := Nat.succ_le_succ (writing.shallow (position + 1))
  worth position := bind_of_ok (writing.worth (position + 1)) _

/-- A power with a signed exponent. -/
def raised
    (base : Writing functions .postfixed depth left)
    (exponent : Writing functions .signed otherDepth right)
    (power : Arithmetic.raise functions left right = .ok value) :
    Writing functions .signed (max depth (otherDepth + 1)) value :=
  between isSign_power base exponent
    (fun lower mark upper => .unsigned (.raised lower mark upper)) 1
    (fun _ _ _ => rfl)
    (fun _ _ _ => And.intro)
    (fun _ _ _ => Nat.le_refl _)
    (fun _ _ _ lower upper => (bind_of_ok lower _).trans ((bind_of_ok upper _).trans power))

/-- A product of two factors. -/
def times
    (first : Writing functions .signed depth left)
    (second : Writing functions .signed otherDepth right)
    (product : Arithmetic.checked "multiplication" (left * right) = .ok value) :
    Writing functions .product (max depth otherDepth) value :=
  between isSign_times first second
    (fun lower mark upper => .product lower (.times mark upper .noFactors)) 0
    (fun lower mark upper => by simp [Phrase.tokens])
    (fun _ _ _ lower upper => ⟨lower, upper, trivial⟩)
    (fun lower mark upper => by simp [Phrase.depth])
    (fun _ _ _ lower upper =>
      (bind_of_ok lower _).trans ((bind_of_ok upper _).trans (bind_of_ok product _)))

/-- A quotient. -/
def dividedBy
    (first : Writing functions .signed depth left)
    (second : Writing functions .signed otherDepth right)
    (quotient : ∀ position, Arithmetic.divide position left right = .ok value) :
    Writing functions .product (max depth otherDepth) value :=
  between isSign_dividedBy first second
    (fun lower mark upper => .product lower (.dividedBy mark upper .noFactors)) 0
    (fun lower mark upper => by simp [Phrase.tokens])
    (fun _ _ _ lower upper => ⟨lower, upper, trivial⟩)
    (fun lower mark upper => by simp [Phrase.depth])
    (fun _ mark _ lower upper =>
      (bind_of_ok lower _).trans
        ((bind_of_ok upper _).trans (bind_of_ok (quotient mark.position) _)))

/-- A sum of two terms. -/
def plus
    (first : Writing functions .product depth left)
    (second : Writing functions .product otherDepth right)
    (sum : Arithmetic.checked "addition" (left + right) = .ok value) :
    Writing functions .sum (max depth otherDepth) value :=
  between isSign_plus first second
    (fun lower mark upper => .sum lower (.plus mark upper .noTerms)) 0
    (fun lower mark upper => by simp [Phrase.tokens])
    (fun _ _ _ lower upper => ⟨lower, upper, trivial⟩)
    (fun lower mark upper => by simp [Phrase.depth])
    (fun _ _ _ lower upper =>
      (bind_of_ok lower _).trans ((bind_of_ok upper _).trans (bind_of_ok sum _)))

/-- A difference. -/
def minus
    (first : Writing functions .product depth left)
    (second : Writing functions .product otherDepth right)
    (difference : Arithmetic.checked "subtraction" (left - right) = .ok value) :
    Writing functions .sum (max depth otherDepth) value :=
  between isSign_minus first second
    (fun lower mark upper => .sum lower (.minus mark upper .noTerms)) 0
    (fun lower mark upper => by simp [Phrase.tokens])
    (fun _ _ _ lower upper => ⟨lower, upper, trivial⟩)
    (fun lower mark upper => by simp [Phrase.depth])
    (fun _ _ _ lower upper =>
      (bind_of_ok lower _).trans ((bind_of_ok upper _).trans (bind_of_ok difference _)))

/-- A numeral that denotes a finite double. -/
def numeral
    (spelling : Spelling)
    (denotes : numeralValue spelling.characters = value)
    (finite : value.isFinite = true) :
    Writing functions .primary 0 value where
  characters := spelling.characters
  phrase position := .number ⟨String.ofList spelling.characters, position⟩ value
  visible := spelling.visible
  scanned first position rest others ends behind := by
    have scanned := spelling.scan first ends behind
    rwa [denotes] at scanned
  greedy _ := trivial
  shallow _ := Nat.le_refl 0
  worth position := if_pos finite

/-- The text of a writing evaluates to its value, unless it nests too deep. -/
theorem evaluate_eq
    {text : String}
    (writing : Writing functions .sum depth value)
    (characters : writing.characters = text.toList)
    (shallow : depth ≤ deepestNesting) :
    evaluate functions text = .ok value := by
  have nothingBehind : EndsNumeral [] := fun _ member => absurd member (by simp)
  have scanned := writing.scanned true 0 [] [] nothingBehind (scan_nil false _)
  rw [List.append_nil, List.append_nil] at scanned
  unfold evaluate tokenize
  rw [← characters, writing.visible, scanned]
  exact (TokenLine.read_tree _ _ (writing.phrase 0) (writing.greedy 0) rfl
    (Nat.le_trans (writing.shallow 0) shallow)).trans (writing.worth 0)

end Writing

end FormulaGrid
