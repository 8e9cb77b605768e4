import FormulaGrid.Proofs.Formula.Repetition
import FormulaGrid.Proofs.Formula.UniqueReading

/-!
Contract: tokens that may stand at the beginning of a phrase, in front of one that may not.

Owns:
- the tokens before a place begin a phrase of a category, and no phrase of it starts with them
  and the token at the place (`Rejects`);
- the places of the grammar where a phrase stands inside another one (`Leads`); what is rejected
  inside is rejected outside (`Rejects.inside`);
- what is rejected in front of an operand, an argument and the closing of a bracket.

Does not own: any reading of tokens.

The end of a formula counts as a token that nothing goes on with, so the token at a place is the
head of what stands there, if there is any.
-/

namespace FormulaGrid

/-- The tokens before a place begin a phrase of the category. No greedy phrase of it, in front
of what does not go on it, starts with them and goes on with the token at the place. -/
structure Rejects (category : Category) (before stuck : List Token) : Prop where
  begins : ∃ phrase : Phrase category, before <+: phrase.tokens
  ends : ∀ (phrase : Phrase category) (rest ahead : List Token),
    phrase.Greedy → Closes phrase.bond rest → phrase.tokens ++ rest = before ++ ahead →
      ahead.head? ≠ stuck.head?

/-- Whether tokens go on a phrase is told by their head. -/
theorem Closes.of_head?_eq
    {bond : Nat}
    {rest ahead : List Token}
    (closes : Closes bond rest)
    (same : ahead.head? = rest.head?) :
    Closes bond ahead := by
  cases ahead with
  | nil => trivial
  | cons token others =>
      cases rest with
      | nil => cases same
      | cons head tail =>
          obtain rfl : token = head := Option.some.inj same
          exact closes

/-- No lexeme goes on a primary that is no root. -/
theorem closes_primary (rest : List Token) : Closes Category.primary.bond rest := by
  rcases rest with _ | ⟨⟨lexeme, text, position⟩, others⟩
  · trivial
  · show lexeme.bond < 5
    cases lexeme with
    | operator symbol => cases symbol <;> decide
    | _ => simp [Lexeme.bond]

/-- What closes a phrase closes a looser one too, unless it goes on that one. -/
theorem Closes.cases_looser
    {bond : Nat}
    {rest : List Token}
    (closes : Closes (bond + 1) rest) :
    Closes bond rest ∨ ∃ token others, rest = token :: others ∧ token.lexeme.bond = bond := by
  cases rest with
  | nil => exact .inl trivial
  | cons token others =>
      exact (Nat.lt_or_eq_of_le (Nat.le_of_lt_succ closes)).imp_right fun same =>
        ⟨token, others, rfl, same⟩

/-! ## Phrases inside phrases -/

/-- In phrases of the outer category, behind the leading tokens, stands a phrase of the inner
category wherever it can: if what follows starts as the given tokens do, it is one. -/
structure Leads (inner outer : Category) (lead inside : List Token) : Prop where
  wraps : ∀ phrase : Phrase inner, ∃ whole : Phrase outer, lead ++ phrase.tokens <+: whole.tokens
  unwraps : ∀ (whole : Phrase outer) (rest ahead : List Token),
    whole.Greedy → Closes whole.bond rest → whole.tokens ++ rest = lead ++ ahead →
      ahead.head? = inside.head? →
        ∃ (phrase : Phrase inner) (behind : List Token),
          phrase.Greedy ∧ Closes phrase.bond behind ∧ phrase.tokens ++ behind = ahead

/-- What is rejected inside a phrase is rejected in the phrase. -/
theorem Rejects.inside
    {inner outer : Category}
    {lead before stuck : List Token}
    (rejects : Rejects inner before stuck)
    (leads : Leads inner outer lead (before ++ stuck)) :
    Rejects outer (lead ++ before) stuck where
  begins := by
    obtain ⟨phrase, begins⟩ := rejects.begins
    obtain ⟨whole, stands⟩ := leads.wraps phrase
    exact ⟨whole, ((List.prefix_append_right_inj lead).mpr begins).trans stands⟩
  ends whole rest ahead greedy closes same sameHead := by
    rw [List.append_assoc] at same
    have starts : (before ++ ahead).head? = (before ++ stuck).head? := by
      cases before with
      | nil => exact sameHead
      | cons => rfl
    obtain ⟨phrase, behind, greedyInside, closesInside, sameInside⟩ :=
      leads.unwraps whole rest (before ++ ahead) greedy closes same starts
    exact rejects.ends phrase behind ahead greedyInside closesInside sameInside sameHead

namespace Leads

variable {inside : List Token}

/-! ### Postfixed phrases, powers and signs -/

theorem primary_postfixed : Leads .primary .postfixed [] inside where
  wraps phrase := ⟨.postfixed phrase .noPostfixes, by simp [Phrase.tokens]⟩
  unwraps whole rest ahead greedy closes same _ := by
    cases whole with
    | postfixed first others =>
        rw [Phrase.tokens, List.append_assoc] at same
        exact ⟨first, _, greedy.1, Phrase.closes_postfixes first others greedy.2 closes, same⟩

theorem postfixed_power : Leads .postfixed .power [] inside where
  wraps phrase := ⟨.unraised phrase, List.prefix_rfl⟩
  unwraps whole rest ahead greedy closes same _ := by
    cases whole with
    | unraised base => exact ⟨base, rest, greedy, closes.mono (Nat.le_succ 3), same⟩
    | raised base sign exponent =>
        rw [Phrase.tokens, List.append_assoc] at same
        exact ⟨base, sign.token (.operator .power) :: (exponent.tokens ++ rest), greedy.1,
          Nat.lt_succ_self 3, same⟩

/-- Behind a base and a power sign stands the exponent. -/
theorem exponent {base : Phrase .postfixed} (greedy : base.Greedy) (sign : Mark) :
    Leads .signed .power (base.tokens ++ [sign.token (.operator .power)]) inside where
  wraps phrase := ⟨.raised base sign phrase, by simp [Phrase.tokens]⟩
  unwraps whole rest ahead wholeGreedy closes same _ := by
    have raised : Closes base.bond (sign.token (.operator .power) :: ahead) :=
      Nat.lt_succ_self 3
    rw [List.append_assoc, List.singleton_append] at same
    have only := Phrase.onlyReading base greedy
    cases whole with
    | unraised other =>
        obtain ⟨-, rests⟩ := only other _ _ wholeGreedy same.symm raised
          (closes.mono (Nat.le_succ 3))
        exact absurd (Phrase.closes_head closes rests.symm) (Nat.lt_irrefl 3)
    | raised other otherSign exponent =>
        rw [Phrase.tokens, List.append_assoc, List.cons_append] at same
        obtain ⟨-, rests⟩ := only other _ _ wholeGreedy.1 same.symm raised (Nat.lt_succ_self 3)
        obtain ⟨-, behind⟩ := List.cons.inj rests
        exact ⟨exponent, rest, wholeGreedy.2, closes, behind.symm⟩

/-- Where no minus sign stands a signed phrase is a power. -/
theorem power_signed
    (unsigned : ∀ token ∈ inside.head?, token.lexeme ≠ .operator .minus) :
    Leads .power .signed [] inside where
  wraps phrase := ⟨.unsigned phrase, List.prefix_rfl⟩
  unwraps whole rest ahead greedy closes same sameHead := by
    cases whole with
    | negated sign operand =>
        obtain rfl : _ = ahead := same
        exact absurd rfl (unsigned _ sameHead.symm)
    | unsigned power => exact ⟨power, rest, greedy, closes, same⟩

theorem negated (sign : Mark) :
    Leads .signed .signed [sign.token (.operator .minus)] inside where
  wraps phrase := ⟨.negated sign phrase, List.prefix_rfl⟩
  unwraps whole rest ahead greedy closes same _ := by
    cases whole with
    | negated otherSign operand =>
        exact ⟨operand, rest, greedy, closes, (List.cons.inj same).2⟩
    | unsigned power => exact absurd same.symm (power.tokens_power_ne_minus sign _ _)

/-- Behind a root stands its operand. -/
theorem radicand (mark : Mark) (index : Float) :
    Leads .postfixed .primary [mark.token (.root index)] inside where
  wraps phrase := ⟨.root mark index phrase, List.prefix_rfl⟩
  unwraps whole rest ahead greedy closes same _ := by
    cases whole with
    | root otherMark otherIndex operand =>
        exact ⟨operand, rest, greedy, closes, (List.cons.inj same).2⟩
    | number | constant | group | bars | application => simp [Phrase.tokens] at same

end Leads

/-! ## Repetitions -/

namespace Grammar

section Link

variable {item repetition : Category} {itemWorth : Worth item} {worth : WorthBehind repetition}
  {sign : Token}

/-- The sign tells by which construct the repetition goes on, and what follows an item does not
go on it. -/
structure Link.Told (link : Link itemWorth worth sign) : Prop where
  greedy : ∀ phrase others, (link.construct phrase others).Greedy ↔ phrase.Greedy ∧ others.Greedy
  bond : ∀ (phrase : Phrase item) (others : Phrase repetition),
    (link.construct phrase others).bond = others.bond
  closes : ∀ (phrase : Phrase item) (others : Phrase repetition) (rest : List Token),
    Closes others.bond rest → Closes phrase.bond (others.tokens ++ rest)
  only : ∀ (whole : Phrase repetition) (rest ahead : List Token),
    Closes whole.bond rest → whole.tokens ++ rest = sign :: ahead →
      ∃ phrase others, whole = link.construct phrase others

namespace Link.Told

variable {link : Link itemWorth worth sign} (told : link.Told) {inside : List Token}

include told

/-- Behind the sign stands an item; any repetition may stand behind the item. -/
theorem leads_item (others : Phrase repetition) : Leads item repetition [sign] inside where
  wraps phrase := ⟨link.construct phrase others, others.tokens, by
    simp [link.tokens_construct]⟩
  unwraps whole rest ahead greedy closes same _ := by
    obtain ⟨phrase, others, rfl⟩ := told.only whole rest ahead closes same
    rw [link.tokens_construct, List.cons_append, List.append_assoc] at same
    rw [told.bond] at closes
    exact ⟨phrase, others.tokens ++ rest, ((told.greedy phrase others).mp greedy).1,
      told.closes phrase others rest closes, (List.cons.inj same).2⟩

/-- Behind the item the repetition goes on. -/
theorem leads_others
    {phrase : Phrase item}
    (greedy : phrase.Greedy)
    (closesInside : Closes phrase.bond inside) :
    Leads repetition repetition (sign :: phrase.tokens) inside where
  wraps others := ⟨link.construct phrase others, [], by simp [link.tokens_construct]⟩
  unwraps whole rest ahead wholeGreedy closes same sameHead := by
    obtain ⟨second, others, rfl⟩ := told.only whole rest _ closes same
    rw [link.tokens_construct, List.cons_append, List.append_assoc] at same
    obtain ⟨secondGreedy, othersGreedy⟩ := (told.greedy second others).mp wholeGreedy
    rw [told.bond] at closes
    obtain ⟨-, rests⟩ := Phrase.onlyReading phrase greedy second _ _ secondGreedy
      (List.cons.inj same).2.symm (closesInside.of_head?_eq sameHead)
      (told.closes second others rest closes)
    exact ⟨others, rest, othersGreedy, closes, rests.symm⟩

end Link.Told

theorem timesLink_told (mark : Mark) : (timesLink mark).Told where
  greedy _ _ := Iff.rfl
  bond _ _ := rfl
  closes factor others _ := Phrase.closes_factors factor others
  only whole rest ahead closes same := by
    cases whole with
    | noFactors => exact absurd (Phrase.closes_head closes same) (Nat.lt_irrefl 2)
    | times sign factor others =>
        simp only [Phrase.tokens, List.cons_append, List.cons.injEq, Mark.token_inj,
          true_and] at same
        exact ⟨factor, others, by rw [same.1]; rfl⟩
    | dividedBy => simp [Phrase.tokens] at same

theorem dividedByLink_told (mark : Mark) : (dividedByLink mark).Told where
  greedy _ _ := Iff.rfl
  bond _ _ := rfl
  closes divisor others _ := Phrase.closes_factors divisor others
  only whole rest ahead closes same := by
    cases whole with
    | noFactors => exact absurd (Phrase.closes_head closes same) (Nat.lt_irrefl 2)
    | times => simp [Phrase.tokens] at same
    | dividedBy sign divisor others =>
        simp only [Phrase.tokens, List.cons_append, List.cons.injEq,
          Mark.token_inj, true_and] at same
        exact ⟨divisor, others, by rw [same.1]; rfl⟩

theorem plusLink_told (mark : Mark) : (plusLink mark).Told where
  greedy _ _ := Iff.rfl
  bond _ _ := rfl
  closes term others _ := Phrase.closes_terms term others
  only whole rest ahead closes same := by
    cases whole with
    | noTerms => exact absurd (Phrase.closes_head closes same) (Nat.lt_irrefl 1)
    | plus sign term others =>
        simp only [Phrase.tokens, List.cons_append, List.cons.injEq, Mark.token_inj,
          true_and] at same
        exact ⟨term, others, by rw [same.1]; rfl⟩
    | minus => simp [Phrase.tokens] at same

theorem minusLink_told (mark : Mark) : (minusLink mark).Told where
  greedy _ _ := Iff.rfl
  bond _ _ := rfl
  closes term others _ := Phrase.closes_terms term others
  only whole rest ahead closes same := by
    cases whole with
    | noTerms => exact absurd (Phrase.closes_head closes same) (Nat.lt_irrefl 1)
    | plus => simp [Phrase.tokens] at same
    | minus sign term others =>
        simp only [Phrase.tokens, List.cons_append, List.cons.injEq, Mark.token_inj,
          true_and] at same
        exact ⟨term, others, by rw [same.1]; rfl⟩

/-- Every sign of the chain tells its construct, and signs that go on the chain are told from
what closes it: they bind less tightly than what goes on an item. -/
structure Chain.Told (chain : Chain itemWorth worth) : Prop where
  link : ∀ {token} {link : Link itemWorth worth token}, chain.linkAt token = some link → link.Told
  bind : ∀ {Value : Type} (meaning : Interpretation Value),
    Links.Bind (chain.links meaning) repetition.bond
  greedy_empty : chain.empty.Greedy
  bond_empty : chain.empty.bond = repetition.bond
  bond_item : ∀ phrase : Phrase item, phrase.bond = repetition.bond + 1

theorem factorsChain_told : factorsChain.Told where
  link {token link} linked := by
    obtain ⟨lexeme, text, position⟩ := token
    cases lexeme with
    | operator symbol =>
        cases symbol with
        | times => obtain rfl := Option.some.inj linked; exact timesLink_told _
        | dividedBy => obtain rfl := Option.some.inj linked; exact dividedByLink_told _
        | _ => cases linked
    | _ => cases linked
  bind := bind_factors
  greedy_empty := trivial
  bond_empty := rfl
  bond_item _ := rfl

theorem termsChain_told : termsChain.Told where
  link {token link} linked := by
    obtain ⟨lexeme, text, position⟩ := token
    cases lexeme with
    | operator symbol =>
        cases symbol with
        | plus => obtain rfl := Option.some.inj linked; exact plusLink_told _
        | minus => obtain rfl := Option.some.inj linked; exact minusLink_told _
        | _ => cases linked
    | _ => cases linked
  bind := bind_terms
  greedy_empty := trivial
  bond_empty := rfl
  bond_item _ := rfl

end Link

section Sequence

variable {item repetition whole : Category} {itemWorth : Worth item}
  {worth : WorthBehind repetition} {chain : Chain itemWorth worth} {wholeWorth : Worth whole}

/-- The whole is always an item with a repetition behind it that does not go on the item. -/
structure Sequence.Told (sequence : Sequence chain wholeWorth) : Prop where
  greedy : ∀ phrase others,
    (sequence.construct phrase others).Greedy ↔ phrase.Greedy ∧ others.Greedy
  bond : ∀ (phrase : Phrase item) (others : Phrase repetition),
    (sequence.construct phrase others).bond = others.bond
  closes : ∀ (phrase : Phrase item) (others : Phrase repetition) (rest : List Token),
    Closes others.bond rest → Closes phrase.bond (others.tokens ++ rest)
  only : ∀ phrase : Phrase whole, ∃ first others, phrase = sequence.construct first others

namespace Sequence.Told

variable {sequence : Sequence chain wholeWorth} (told : sequence.Told)
  {inside : List Token}

include told

theorem leads_item : Leads item whole [] inside where
  wraps phrase := ⟨sequence.construct phrase chain.empty, [], by
    simp [sequence.tokens_construct, chain.tokens_empty]⟩
  unwraps phrase rest ahead greedy closes same _ := by
    obtain ⟨first, others, rfl⟩ := told.only phrase
    rw [sequence.tokens_construct, List.append_assoc] at same
    rw [told.bond] at closes
    exact ⟨first, others.tokens ++ rest, ((told.greedy first others).mp greedy).1,
      told.closes first others rest closes, same⟩

theorem leads_others
    {first : Phrase item}
    (greedy : first.Greedy)
    (closesInside : Closes first.bond inside) :
    Leads repetition whole first.tokens inside where
  wraps others := ⟨sequence.construct first others, [], by simp [sequence.tokens_construct]⟩
  unwraps phrase rest ahead wholeGreedy closes same sameHead := by
    obtain ⟨second, others, rfl⟩ := told.only phrase
    rw [sequence.tokens_construct, List.append_assoc] at same
    obtain ⟨secondGreedy, othersGreedy⟩ := (told.greedy second others).mp wholeGreedy
    rw [told.bond] at closes
    obtain ⟨-, rests⟩ := Phrase.onlyReading first greedy second _ _ secondGreedy same.symm
      (closesInside.of_head?_eq sameHead) (told.closes second others rest closes)
    exact ⟨others, rest, othersGreedy, closes, rests.symm⟩

end Sequence.Told

theorem productSequence_told : productSequence.Told where
  greedy _ _ := Iff.rfl
  bond _ _ := rfl
  closes first others _ := Phrase.closes_factors first others
  only | .product first others => ⟨first, others, rfl⟩

theorem sumSequence_told : sumSequence.Told where
  greedy _ _ := Iff.rfl
  bond _ _ := rfl
  closes first others _ := Phrase.closes_terms first others
  only | .sum first others => ⟨first, others, rfl⟩

end Sequence

end Grammar

/-! ## Brackets -/

/-- A bracket of the grammar: the tokens that open it and the lexeme that closes it around a
sum. -/
structure Enclosure (opening : List Token) (closing : Lexeme) where
  construct : Phrase .sum → Mark → Phrase .primary
  unbound : closing.bond < 1
  tokens_construct : ∀ inner mark,
    (construct inner mark).tokens = opening ++ (inner.tokens ++ [mark.token closing])
  greedy_construct : ∀ inner mark, (construct inner mark).Greedy ↔ inner.Greedy
  bond_construct : ∀ inner mark, (construct inner mark).bond = Category.primary.bond
  only : ∀ (primary : Phrase .primary) (rest ahead : List Token),
    primary.tokens ++ rest = opening ++ ahead → ∃ inner mark, primary = construct inner mark

namespace Enclosure

def group (mark : Mark) :
    Enclosure [mark.token .leftParenthesis] .rightParenthesis where
  construct := .group mark
  unbound := by decide
  tokens_construct _ _ := rfl
  greedy_construct _ _ := Iff.rfl
  bond_construct _ _ := rfl
  only primary rest ahead same := by
    cases primary with
    | group opening inner closing =>
        simp only [Phrase.tokens, List.cons_append, List.cons.injEq, Mark.token_inj,
          true_and] at same
        exact ⟨inner, closing, by rw [same.1]⟩
    | number | constant | bars | application | root => simp [Phrase.tokens] at same

def bars (mark : Mark) : Enclosure [mark.token .bar] .bar where
  construct := .bars mark
  unbound := by decide
  tokens_construct _ _ := rfl
  greedy_construct _ _ := Iff.rfl
  bond_construct _ _ := rfl
  only primary rest ahead same := by
    cases primary with
    | bars opening inner closing =>
        simp only [Phrase.tokens, List.cons_append, List.cons.injEq, Mark.token_inj,
          true_and] at same
        exact ⟨inner, closing, by rw [same.1]⟩
    | number | constant | group | application | root => simp [Phrase.tokens] at same

def application
    (word : Mark)
    (name : FunctionName)
    (power : Option Nat)
    (base : Option Float)
    (mark : Mark) :
    Enclosure [word.token (.function name power base), mark.token .leftParenthesis]
      .rightParenthesis where
  construct := .application word name power base mark
  unbound := by decide
  tokens_construct _ _ := rfl
  greedy_construct _ _ := Iff.rfl
  bond_construct _ _ := rfl
  only primary rest ahead same := by
    cases primary with
    | application otherWord otherName otherPower otherBase opening inner closing =>
        simp only [Phrase.tokens, List.cons_append, List.cons.injEq, Mark.token_inj,
          Lexeme.function.injEq, true_and] at same
        obtain ⟨⟨⟨rfl, rfl, rfl⟩, rfl⟩, rfl, -⟩ := same
        exact ⟨inner, closing, rfl⟩
    | number | constant | group | bars | root => simp [Phrase.tokens] at same

variable {opening : List Token} {closing : Lexeme} (enclosure : Enclosure opening closing)

include enclosure

/-- Inside a bracket stands a sum. -/
theorem leads {inside : List Token} : Leads .sum .primary opening inside where
  wraps phrase := ⟨enclosure.construct phrase ⟨"", 0⟩, by
    rw [enclosure.tokens_construct, ← List.append_assoc]
    exact List.prefix_append _ _⟩
  unwraps whole rest ahead greedy closes same _ := by
    obtain ⟨inner, mark, rfl⟩ := enclosure.only whole rest ahead same
    rw [enclosure.tokens_construct, List.append_assoc, List.append_cancel_left_eq,
      List.append_assoc, List.singleton_append] at same
    exact ⟨inner, mark.token closing :: rest, (enclosure.greedy_construct inner mark).mp greedy,
      enclosure.unbound, same⟩

/-- Behind the sum in a bracket, another token than the closing one is rejected. -/
theorem rejects_closing
    {inner : Phrase .sum}
    {rest : List Token}
    (greedy : inner.Greedy)
    (closes : Closes inner.bond rest)
    (unfit : ∀ token ∈ rest.head?, token.lexeme ≠ closing) :
    Rejects .primary (opening ++ inner.tokens) rest where
  begins := ⟨enclosure.construct inner ⟨"", 0⟩, by
    rw [enclosure.tokens_construct, ← List.append_assoc]
    exact List.prefix_append _ _⟩
  ends whole behind ahead wholeGreedy _ same sameHead := by
    rw [List.append_assoc] at same
    obtain ⟨second, mark, rfl⟩ := enclosure.only whole behind _ same
    rw [enclosure.tokens_construct, List.append_assoc, List.append_cancel_left_eq,
      List.append_assoc, List.singleton_append] at same
    obtain ⟨-, rests⟩ := Phrase.onlyReading inner greedy second _ _
      ((enclosure.greedy_construct second mark).mp wholeGreedy) same.symm
      (closes.of_head?_eq sameHead) enclosure.unbound
    rw [rests] at sameHead
    exact unfit _ sameHead.symm rfl

end Enclosure

/-! ## Operands and arguments -/

/-- Where an operand is to start, what starts none is rejected. -/
theorem Rejects.operand
    {stuck : List Token}
    (unfit : ∀ token ∈ stuck.head?, token.lexeme.startsOperand = false) :
    Rejects .primary [] stuck where
  begins := ⟨.number ⟨"", 0⟩ 0, List.nil_prefix⟩
  ends phrase rest ahead _ _ same sameHead := by
    obtain ⟨token, others, starts, operand⟩ := phrase.exists_tokens_primary
    rw [starts, List.nil_append] at same
    rw [← same] at sameHead
    exact absurd operand (by simp [unfit token sameHead.symm])

/-- Behind the name of a function, what is no parenthesis is rejected. -/
theorem Rejects.argument
    {stuck : List Token}
    (word : Mark)
    (name : FunctionName)
    (power : Option Nat)
    (base : Option Float)
    (unfit : ∀ token ∈ stuck.head?, token.lexeme ≠ .leftParenthesis) :
    Rejects .primary [word.token (.function name power base)] stuck where
  begins :=
    have one : Phrase .sum := .ofPostfixed (.postfixed (.number ⟨"", 0⟩ 0) .noPostfixes)
    ⟨.application word name power base ⟨"", 0⟩ one ⟨"", 0⟩, by simp [Phrase.tokens]⟩
  ends phrase rest ahead _ _ same sameHead := by
    cases phrase with
    | application otherWord otherName otherPower otherBase opening inner closing =>
        have behind : _ = ahead := (List.cons.inj same).2
        rw [← behind] at sameHead
        exact unfit _ sameHead.symm rfl
    | number | constant | group | bars | root => simp [Phrase.tokens] at same

end FormulaGrid
