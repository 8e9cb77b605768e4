import FormulaGrid.Formula.Reader

/-!
Contract: the derivation trees of the grammar of formulas.

    sum      := product (("+" | "-") product)*
    product  := signed (("*" | "/") signed)*
    signed   := "-" signed | power
    power    := postfixed ("^" signed)?
    postfixed := primary ("!" | superscript)*
    primary  := number | constant | "(" sum ")" | "|" sum "|"
              | function "(" sum ")" | root postfixed

Owns:
- the categories of the grammar (`Category`), a repetition being a category of its
  own, and the derivation trees of each (`Phrase`);
- the tokens that a tree derives (`Phrase.tokens`), how deep it nests
  (`Phrase.depth`) and what it is worth (`Phrase.value`);
- the trees in which a root takes all it can (`Phrase.Greedy`);
- which tokens do not go on a phrase that they stand behind (`Closes`), and which
  lexemes a power may start with (`Lexeme.startsOperand`).

Does not own: any reading of tokens. A tree is worth what its parts are worth,
combined from left to right, whoever found it.
-/

namespace FormulaGrid

/-- The categories of the grammar. What a repetition goes through is a category:
the terms behind a product, the factors behind a signed phrase, the postfixes
behind a primary. -/
inductive Category where
  | sum
  | terms
  | product
  | factors
  | signed
  | power
  | postfixed
  | postfixes
  | primary

/-- Where a token stands and what text it is known by. -/
structure Mark where
  text : String
  position : Nat

/-- The token with a given lexeme at a mark. -/
def Mark.token (mark : Mark) (lexeme : Lexeme) : Token :=
  ⟨lexeme, mark.text, mark.position⟩

/-- The derivation trees of the grammar. -/
inductive Phrase : Category → Type where
  | sum (first : Phrase .product) (others : Phrase .terms) : Phrase .sum
  | noTerms : Phrase .terms
  | plus (sign : Mark) (term : Phrase .product) (others : Phrase .terms) : Phrase .terms
  | minus (sign : Mark) (term : Phrase .product) (others : Phrase .terms) : Phrase .terms
  | product (first : Phrase .signed) (others : Phrase .factors) : Phrase .product
  | noFactors : Phrase .factors
  | times (sign : Mark) (factor : Phrase .signed) (others : Phrase .factors) :
      Phrase .factors
  | dividedBy (sign : Mark) (divisor : Phrase .signed) (others : Phrase .factors) :
      Phrase .factors
  | negated (sign : Mark) (operand : Phrase .signed) : Phrase .signed
  | unsigned (power : Phrase .power) : Phrase .signed
  | unraised (base : Phrase .postfixed) : Phrase .power
  | raised (base : Phrase .postfixed) (sign : Mark) (exponent : Phrase .signed) :
      Phrase .power
  | postfixed (first : Phrase .primary) (others : Phrase .postfixes) : Phrase .postfixed
  | noPostfixes : Phrase .postfixes
  | factorial (mark : Mark) (others : Phrase .postfixes) : Phrase .postfixes
  | superscript (mark : Mark) (exponent : Float) (others : Phrase .postfixes) :
      Phrase .postfixes
  | number (mark : Mark) (value : Float) : Phrase .primary
  | constant (mark : Mark) (value : Float) : Phrase .primary
  | group (opening : Mark) (inner : Phrase .sum) (closing : Mark) : Phrase .primary
  | bars (opening : Mark) (inner : Phrase .sum) (closing : Mark) : Phrase .primary
  | application
      (word : Mark)
      (name : FunctionName)
      (exponent : Option Nat)
      (logarithmBase : Option Float)
      (opening : Mark)
      (argument : Phrase .sum)
      (closing : Mark) :
      Phrase .primary
  | root (mark : Mark) (index : Float) (radicand : Phrase .postfixed) : Phrase .primary

/-- What a phrase of a category is worth: an outcome, or, for a repetition, the
outcome for each value that it may go on from. -/
abbrev Denotation (Value : Type) : Category → Type
  | .terms | .factors | .postfixes => Value → Except Fault Value
  | .sum | .product | .signed | .power | .postfixed | .primary => Except Fault Value

namespace Phrase

/-- The tokens that a tree derives, from left to right. -/
def tokens : {category : Category} → Phrase category → List Token
  | _, sum first others => first.tokens ++ others.tokens
  | _, noTerms => []
  | _, plus sign term others =>
      sign.token (.operator .plus) :: (term.tokens ++ others.tokens)
  | _, minus sign term others =>
      sign.token (.operator .minus) :: (term.tokens ++ others.tokens)
  | _, product first others => first.tokens ++ others.tokens
  | _, noFactors => []
  | _, times sign factor others =>
      sign.token (.operator .times) :: (factor.tokens ++ others.tokens)
  | _, dividedBy sign divisor others =>
      sign.token (.operator .dividedBy) :: (divisor.tokens ++ others.tokens)
  | _, negated sign operand => sign.token (.operator .minus) :: operand.tokens
  | _, unsigned power => power.tokens
  | _, unraised base => base.tokens
  | _, raised base sign exponent =>
      base.tokens ++ sign.token (.operator .power) :: exponent.tokens
  | _, postfixed first others => first.tokens ++ others.tokens
  | _, noPostfixes => []
  | _, factorial mark others => mark.token .factorial :: others.tokens
  | _, superscript mark exponent others =>
      mark.token (.superscript exponent) :: others.tokens
  | _, number mark value => [mark.token (.number value)]
  | _, constant mark value => [mark.token (.constant value)]
  | _, group opening inner closing =>
      opening.token .leftParenthesis :: (inner.tokens ++ [closing.token .rightParenthesis])
  | _, bars opening inner closing =>
      opening.token .bar :: (inner.tokens ++ [closing.token .bar])
  | _, application word name exponent logarithmBase opening argument closing =>
      word.token (.function name exponent logarithmBase) ::
        opening.token .leftParenthesis ::
          (argument.tokens ++ [closing.token .rightParenthesis])
  | _, root mark index radicand => mark.token (.root index) :: radicand.tokens

/-- How deep a tree nests: one level for each parenthesised group, bar pair,
argument, radicand, operand of a sign and exponent on a path. -/
def depth : {category : Category} → Phrase category → Nat
  | _, sum first others => max first.depth others.depth
  | _, noTerms => 0
  | _, plus _ term others => max term.depth others.depth
  | _, minus _ term others => max term.depth others.depth
  | _, product first others => max first.depth others.depth
  | _, noFactors => 0
  | _, times _ factor others => max factor.depth others.depth
  | _, dividedBy _ divisor others => max divisor.depth others.depth
  | _, negated _ operand => operand.depth + 1
  | _, unsigned power => power.depth
  | _, unraised base => base.depth
  | _, raised base _ exponent => max base.depth (exponent.depth + 1)
  | _, postfixed first others => max first.depth others.depth
  | _, noPostfixes => 0
  | _, factorial _ others => others.depth
  | _, superscript _ _ others => others.depth
  | _, number _ _ => 0
  | _, constant _ _ => 0
  | _, group _ inner _ => inner.depth + 1
  | _, bars _ inner _ => inner.depth + 1
  | _, application _ _ _ _ _ argument _ => argument.depth + 1
  | _, root _ _ radicand => radicand.depth + 1

section Value

variable {Value : Type} (meaning : Interpretation Value)

/-- What a tree is worth: its parts from left to right, then what it makes of
them. A repetition is taken from the left, so sums, differences, products and
quotients associate to the left. -/
def value : {category : Category} → Phrase category → Denotation Value category
  | _, sum first others => do
      let start : Value ← first.value
      others.value start
  | _, noTerms => fun start => .ok start
  | _, plus _ term others => fun start => do
      let right : Value ← term.value
      others.value (← meaning.add start right)
  | _, minus _ term others => fun start => do
      let right : Value ← term.value
      others.value (← meaning.subtract start right)
  | _, product first others => do
      let start : Value ← first.value
      others.value start
  | _, noFactors => fun start => .ok start
  | _, times _ factor others => fun start => do
      let right : Value ← factor.value
      others.value (← meaning.multiply start right)
  | _, dividedBy sign divisor others => fun start => do
      let right : Value ← divisor.value
      others.value (← meaning.divide sign.position start right)
  | _, negated _ operand => do
      let inner : Value ← operand.value
      return meaning.negate inner
  | _, unsigned power => power.value
  | _, unraised base => base.value
  | _, raised base _ exponent => do
      let lower : Value ← base.value
      let upper : Value ← exponent.value
      meaning.raise lower upper
  | _, postfixed first others => do
      let start : Value ← first.value
      others.value start
  | _, noPostfixes => fun start => .ok start
  | _, factorial _ others => fun start => do
      others.value (← meaning.factorial start)
  | _, superscript _ exponent others => fun start => do
      others.value (← meaning.superscript start exponent)
  | _, number mark value => meaning.literal (mark.token (.number value)) value
  | _, constant mark value => meaning.literal (mark.token (.constant value)) value
  | _, group _ inner _ => inner.value
  | _, bars _ inner _ => do
      let inside : Value ← inner.value
      return meaning.absolute inside
  | _, application _ name exponent logarithmBase _ argument _ => do
      let inside : Value ← argument.value
      meaning.apply name exponent logarithmBase inside
  | _, root _ index radicand => do
      let inside : Value ← radicand.value
      meaning.root index inside

end Value

end Phrase

/-! ## Greedy roots -/

namespace Phrase

/-- The primary is a root with its operand. -/
def IsRoot : Phrase .primary → Prop
  | root _ _ _ => True
  | _ => False

/-- Every root takes all the postfixes behind its operand. The grammar alone also
lets them stand behind the root as a whole. -/
def Greedy : {category : Category} → Phrase category → Prop
  | _, sum first others => first.Greedy ∧ others.Greedy
  | _, noTerms => True
  | _, plus _ term others => term.Greedy ∧ others.Greedy
  | _, minus _ term others => term.Greedy ∧ others.Greedy
  | _, product first others => first.Greedy ∧ others.Greedy
  | _, noFactors => True
  | _, times _ factor others => factor.Greedy ∧ others.Greedy
  | _, dividedBy _ divisor others => divisor.Greedy ∧ others.Greedy
  | _, negated _ operand => operand.Greedy
  | _, unsigned power => power.Greedy
  | _, unraised base => base.Greedy
  | _, raised base _ exponent => base.Greedy ∧ exponent.Greedy
  | _, postfixed first others =>
      first.Greedy ∧ (first.IsRoot → others = noPostfixes)
  | _, noPostfixes => True
  | _, factorial _ _ => True
  | _, superscript _ _ _ => True
  | _, number _ _ => True
  | _, constant _ _ => True
  | _, group _ inner _ => inner.Greedy
  | _, bars _ inner _ => inner.Greedy
  | _, application _ _ _ _ _ argument _ => argument.Greedy
  | _, root _ _ radicand => radicand.Greedy

theorem greedy_postfixes (postfixes : Phrase .postfixes) : postfixes.Greedy := by
  cases postfixes <;> trivial

end Phrase

/-! ## What goes on a phrase -/

/-- How tightly a lexeme binds to what stands before it; those that cannot stand
behind an operand bind not at all. -/
def Lexeme.bond : Lexeme → Nat
  | .operator .plus | .operator .minus => 1
  | .operator .times | .operator .dividedBy => 2
  | .operator .power => 3
  | .factorial | .superscript _ => 4
  | _ => 0

/-- How tightly a lexeme must bind to go on a phrase of the category. -/
def Category.bond : Category → Nat
  | .sum | .terms => 1
  | .product | .factors => 2
  | .signed | .power => 3
  | .postfixed | .postfixes => 4
  | .primary => 5

/-- How tightly a lexeme must bind to go on the phrase. What goes on the operand
of a root goes on the root. -/
def Phrase.bond : {category : Category} → Phrase category → Nat
  | .primary, .root _ _ _ => Category.postfixed.bond
  | category, _ => category.bond

/-- What follows does not go on a phrase of the given bond. -/
def Closes (bond : Nat) : List Token → Prop
  | [] => True
  | token :: _ => token.lexeme.bond < bond

/-- What closes a phrase closes every phrase of a tighter bond. -/
theorem Closes.mono
    {looser tighter : Nat}
    {rest : List Token}
    (closes : Closes looser rest)
    (tight : looser ≤ tighter) :
    Closes tighter rest := by
  cases rest with
  | nil => trivial
  | cons token others => exact Nat.lt_of_lt_of_le closes tight

/-- What goes on a looser phrase at most, and not on the given one, closes it. -/
theorem Closes.tighten
    {bond : Nat}
    {token : Token}
    {others : List Token}
    (closes : Closes (bond + 1) (token :: others))
    (different : token.lexeme.bond ≠ bond) :
    Closes bond (token :: others) :=
  Nat.lt_of_le_of_ne (Nat.le_of_lt_succ closes) different

/-- Two tokens at marks are the same if their lexemes and marks are. -/
@[simp] theorem Mark.token_inj
    {left right : Mark}
    {leftLexeme rightLexeme : Lexeme} :
    left.token leftLexeme = right.token rightLexeme ↔
      leftLexeme = rightLexeme ∧ left = right := by
  cases left
  cases right
  simp [Mark.token]

namespace Phrase

/-- The terms behind a product do not go on it. -/
theorem closes_terms
    (first : Phrase .product)
    (terms : Phrase .terms)
    {rest : List Token}
    (closes : Closes terms.bond rest) :
    Closes first.bond (terms.tokens ++ rest) := by
  cases terms with
  | noTerms => exact closes.mono (Nat.le_succ 1)
  | plus | minus => exact Nat.lt_succ_self 1

theorem closes_factors
    (first : Phrase .signed)
    (factors : Phrase .factors)
    {rest : List Token}
    (closes : Closes factors.bond rest) :
    Closes first.bond (factors.tokens ++ rest) := by
  cases factors with
  | noFactors => exact closes.mono (Nat.le_succ 2)
  | times | dividedBy => exact Nat.lt_succ_self 2

theorem closes_postfixes
    (first : Phrase .primary)
    (postfixes : Phrase .postfixes)
    (greedy : first.IsRoot → postfixes = noPostfixes)
    {rest : List Token}
    (closes : Closes postfixes.bond rest) :
    Closes first.bond (postfixes.tokens ++ rest) := by
  cases first with
  | root mark index radicand =>
      rw [greedy trivial] at closes ⊢
      exact closes
  | number | constant | group | bars | application =>
      cases postfixes with
      | noPostfixes => exact closes.mono (Nat.le_succ 4)
      | factorial | superscript => exact Nat.lt_succ_self 4

end Phrase

/-! ## What a phrase starts with -/

/-- The lexeme starts a primary. -/
def Lexeme.startsOperand : Lexeme → Bool
  | .number _ | .constant _ | .leftParenthesis | .bar | .function .. | .root _ => true
  | _ => false

namespace Phrase

/-- A primary starts with a lexeme that starts an operand. -/
theorem exists_tokens_primary (primary : Phrase .primary) :
    ∃ token others, primary.tokens = token :: others ∧
      token.lexeme.startsOperand = true := by
  cases primary <;> exact ⟨_, _, rfl, rfl⟩

theorem exists_tokens_postfixed (phrase : Phrase .postfixed) :
    ∃ token others, phrase.tokens = token :: others ∧
      token.lexeme.startsOperand = true := by
  cases phrase with
  | postfixed first others =>
      obtain ⟨token, rest, starts, operand⟩ := first.exists_tokens_primary
      exact ⟨token, rest ++ others.tokens, by rw [tokens, starts, List.cons_append], operand⟩

theorem exists_tokens_power (power : Phrase .power) :
    ∃ token others, power.tokens = token :: others ∧
      token.lexeme.startsOperand = true := by
  cases power with
  | unraised base => exact base.exists_tokens_postfixed
  | raised base sign exponent =>
      obtain ⟨token, rest, starts, operand⟩ := base.exists_tokens_postfixed
      exact ⟨token, _, by rw [tokens, starts, List.cons_append], operand⟩

theorem tokens_signed_ne_nil (phrase : Phrase .signed) : phrase.tokens ≠ [] := by
  cases phrase with
  | negated => exact List.cons_ne_nil _ _
  | unsigned power =>
      obtain ⟨token, others, starts, -⟩ := power.exists_tokens_power
      exact fun none => List.cons_ne_nil token others (starts.symm.trans none)

/-- A formula has at least one token. -/
theorem tokens_sum_ne_nil (phrase : Phrase .sum) : phrase.tokens ≠ [] := by
  cases phrase with
  | sum first terms =>
      cases first with
      | product first factors =>
          exact List.append_ne_nil_of_left_ne_nil
            (List.append_ne_nil_of_left_ne_nil first.tokens_signed_ne_nil _) _

end Phrase

end FormulaGrid
