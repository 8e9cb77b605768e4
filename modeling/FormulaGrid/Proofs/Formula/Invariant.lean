import FormulaGrid.Proofs.Formula.Phrase
import FormulaGrid.Proofs.Outcome

/-!
Contract: what every construct preserves holds of every phrase.

Owns:
- the meanings each of which makes good values of good ones (`Interpretation.Keeps`);
- the value of every phrase of admitted lexemes is good, or its fault is allowed
  (`Phrase.yields`).

Does not own: which values are good. The rule for each construct is asked for once,
and the induction over phrases is done here.
-/

namespace FormulaGrid

/-- Each construct makes of good values, and of admitted lexemes, good values or
allowed faults. -/
structure Interpretation.Keeps
    {Value : Type}
    (meaning : Interpretation Value)
    (Admitted : Lexeme → Prop)
    (Good : Value → Prop)
    (Allowed : Fault → Prop) :
    Prop where
  literal : ∀ token value, Yields Good Allowed (meaning.literal token value)
  negate : ∀ value, Good value → Good (meaning.negate value)
  add : ∀ left right, Good left → Good right → Yields Good Allowed (meaning.add left right)
  subtract : ∀ left right, Good left → Good right →
    Yields Good Allowed (meaning.subtract left right)
  multiply : ∀ left right, Good left → Good right →
    Yields Good Allowed (meaning.multiply left right)
  divide : ∀ position left right, Good left → Good right →
    Yields Good Allowed (meaning.divide position left right)
  raise : ∀ base exponent, Good base → Good exponent →
    Yields Good Allowed (meaning.raise base exponent)
  superscript : ∀ base exponent, Good base → Admitted (.superscript exponent) →
    Yields Good Allowed (meaning.superscript base exponent)
  factorial : ∀ operand, Good operand → Yields Good Allowed (meaning.factorial operand)
  absolute : ∀ value, Good value → Good (meaning.absolute value)
  root : ∀ index radicand, Admitted (.root index) → Good radicand →
    Yields Good Allowed (meaning.root index radicand)
  apply : ∀ name exponent base argument, Admitted (.function name exponent base) →
    Good argument → Yields Good Allowed (meaning.apply name exponent base argument)

namespace Phrase

variable {Value : Type} {meaning : Interpretation Value} {Admitted : Lexeme → Prop}
  {Good : Value → Prop} {Allowed : Fault → Prop}

/-- What a phrase is worth is good or allowed; a repetition, behind any good value. -/
def IsKept
    (meaning : Interpretation Value)
    (Good : Value → Prop)
    (Allowed : Fault → Prop) :
    {category : Category} → Phrase category → Prop
  | .terms, phrase | .factors, phrase | .postfixes, phrase =>
      ∀ start : Value, Good start → Yields Good Allowed (phrase.value meaning start)
  | .sum, phrase | .product, phrase | .signed, phrase | .power, phrase
  | .postfixed, phrase | .primary, phrase =>
      Yields Good Allowed (phrase.value meaning)

/-- What every construct keeps holds of every phrase of admitted lexemes. -/
theorem isKept
    (keeps : meaning.Keeps Admitted Good Allowed)
    {category : Category}
    (phrase : Phrase category)
    (admitted : ∀ token ∈ phrase.tokens, Admitted token.lexeme) :
    phrase.IsKept meaning Good Allowed := by
  induction phrase with
  | sum first others firstKept othersKept
  | product first others firstKept othersKept
  | postfixed first others firstKept othersKept =>
      simp only [tokens, List.forall_mem_append] at admitted
      exact (firstKept admitted.1).bind (othersKept admitted.2)
  | noTerms | noFactors | noPostfixes => exact fun start good => good
  | plus sign term others termKept othersKept =>
      simp only [tokens, List.forall_mem_cons, List.forall_mem_append] at admitted
      exact fun start good => (termKept admitted.2.1).bind fun right goodRight =>
        (keeps.add start right good goodRight).bind (othersKept admitted.2.2)
  | minus sign term others termKept othersKept =>
      simp only [tokens, List.forall_mem_cons, List.forall_mem_append] at admitted
      exact fun start good => (termKept admitted.2.1).bind fun right goodRight =>
        (keeps.subtract start right good goodRight).bind (othersKept admitted.2.2)
  | times sign factor others factorKept othersKept =>
      simp only [tokens, List.forall_mem_cons, List.forall_mem_append] at admitted
      exact fun start good => (factorKept admitted.2.1).bind fun right goodRight =>
        (keeps.multiply start right good goodRight).bind (othersKept admitted.2.2)
  | dividedBy sign divisor others divisorKept othersKept =>
      simp only [tokens, List.forall_mem_cons, List.forall_mem_append] at admitted
      exact fun start good => (divisorKept admitted.2.1).bind fun right goodRight =>
        (keeps.divide sign.position start right good goodRight).bind (othersKept admitted.2.2)
  | negated sign operand operandKept =>
      simp only [tokens, List.forall_mem_cons] at admitted
      exact (operandKept admitted.2).bind keeps.negate
  | unsigned power powerKept => exact powerKept admitted
  | unraised base baseKept => exact baseKept admitted
  | raised base sign exponent baseKept exponentKept =>
      simp only [tokens, List.forall_mem_cons, List.forall_mem_append] at admitted
      exact (baseKept admitted.1).bind fun lower goodLower =>
        (exponentKept admitted.2.2).bind fun upper goodUpper =>
          keeps.raise lower upper goodLower goodUpper
  | factorial mark others othersKept =>
      simp only [tokens, List.forall_mem_cons] at admitted
      exact fun start good => (keeps.factorial start good).bind (othersKept admitted.2)
  | superscript mark exponent others othersKept =>
      simp only [tokens, List.forall_mem_cons] at admitted
      exact fun start good =>
        (keeps.superscript start exponent good admitted.1).bind (othersKept admitted.2)
  | number mark value => exact keeps.literal _ value
  | constant mark value => exact keeps.literal _ value
  | group opening inner closing innerKept =>
      simp only [tokens, List.forall_mem_cons, List.forall_mem_append] at admitted
      exact innerKept admitted.2.1
  | bars opening inner closing innerKept =>
      simp only [tokens, List.forall_mem_cons, List.forall_mem_append] at admitted
      exact (innerKept admitted.2.1).bind keeps.absolute
  | application word name exponent logarithmBase opening argument closing argumentKept =>
      simp only [tokens, List.forall_mem_cons, List.forall_mem_append] at admitted
      exact (argumentKept admitted.2.2.1).bind
        (keeps.apply name exponent logarithmBase · admitted.1 ·)
  | root mark index radicand radicandKept =>
      simp only [tokens, List.forall_mem_cons] at admitted
      exact (radicandKept admitted.2).bind (keeps.root index · admitted.1 ·)

/-- The value of an expression of admitted lexemes is good, or its fault allowed. -/
theorem yields
    (keeps : meaning.Keeps Admitted Good Allowed)
    (phrase : Phrase .sum)
    (admitted : ∀ token ∈ phrase.tokens, Admitted token.lexeme) :
    Yields Good Allowed (phrase.value meaning) :=
  phrase.isKept keeps admitted

end Phrase

end FormulaGrid
