import FormulaGrid.Proofs.Formula.Phrase

/-!
Contract: with greedy roots, the grammar of formulas is unambiguous.

Owns:
- unique reading: of two greedy phrases of one category at the front of the same
  tokens, each followed by what does not go on it, both are the same
  (`Phrase.onlyReading`).

The three places where one lexeme has two uses are told apart by what stands
before it: a minus sign and a bar open an operand where one is expected, and go
on or close a phrase where one has ended; a superscript is a postfix or belongs
to the token of a root or a function.
-/

namespace FormulaGrid

namespace Phrase

/-- A power does not start with a sign. -/
theorem tokens_power_ne_minus
    (power : Phrase .power)
    (sign : Mark)
    (before behind : List Token) :
    sign.token (.operator .minus) :: before ≠ power.tokens ++ behind := by
  obtain ⟨token, others, starts, operand⟩ := power.exists_tokens_power
  rw [starts, List.cons_append]
  intro same
  have isMinus := (List.cons.inj same).1
  rw [← isMinus] at operand
  exact Bool.noConfusion operand

/-- The phrase is the only greedy one of its category that the tokens start with,
if what follows it does not go on it. -/
def OnlyReading {category : Category} (left : Phrase category) : Prop :=
  ∀ (right : Phrase category) (leftRest rightRest : List Token),
    right.Greedy →
    left.tokens ++ leftRest = right.tokens ++ rightRest →
    Closes left.bond leftRest →
    Closes right.bond rightRest →
    left = right ∧ leftRest = rightRest

/-- A phrase and a repetition behind it are each the only reading of what they
stand for. -/
theorem OnlyReading.sequence
    {category repetition : Category}
    {first second : Phrase category}
    {others followers : Phrase repetition}
    {leftRest rightRest : List Token}
    (firstOnly : OnlyReading first)
    (othersOnly : OnlyReading others)
    (greedy : second.Greedy ∧ followers.Greedy)
    (same : first.tokens ++ (others.tokens ++ leftRest) =
      second.tokens ++ (followers.tokens ++ rightRest))
    (leftInside : Closes first.bond (others.tokens ++ leftRest))
    (rightInside : Closes second.bond (followers.tokens ++ rightRest))
    (leftCloses : Closes others.bond leftRest)
    (rightCloses : Closes followers.bond rightRest) :
    first = second ∧ others = followers ∧ leftRest = rightRest := by
  obtain ⟨firstSame, remaining⟩ := firstOnly second _ _ greedy.1 same leftInside rightInside
  obtain ⟨othersSame, rests⟩ :=
    othersOnly followers _ _ greedy.2 remaining leftCloses rightCloses
  exact ⟨firstSame, othersSame, rests⟩

/-- So are a phrase and a repetition behind a sign, and so is the sign. -/
theorem OnlyReading.link
    {category repetition : Category}
    {sign otherSign : Mark}
    {lexeme : Lexeme}
    {first second : Phrase category}
    {others followers : Phrase repetition}
    {leftRest rightRest : List Token}
    (firstOnly : OnlyReading first)
    (othersOnly : OnlyReading others)
    (greedy : second.Greedy ∧ followers.Greedy)
    (same : sign.token lexeme :: (first.tokens ++ others.tokens) ++ leftRest =
      otherSign.token lexeme :: (second.tokens ++ followers.tokens) ++ rightRest)
    (leftInside : Closes first.bond (others.tokens ++ leftRest))
    (rightInside : Closes second.bond (followers.tokens ++ rightRest))
    (leftCloses : Closes others.bond leftRest)
    (rightCloses : Closes followers.bond rightRest) :
    sign = otherSign ∧ first = second ∧ others = followers ∧ leftRest = rightRest := by
  simp only [List.cons_append, List.append_assoc, List.cons.injEq, Mark.token_inj,
    true_and] at same
  obtain ⟨signSame, remaining⟩ := same
  exact ⟨signSame, firstOnly.sequence othersOnly greedy remaining leftInside rightInside
    leftCloses rightCloses⟩

/-- A sum in front of a token that closes it is the only reading of what it stands
for, and so is that token. -/
theorem OnlyReading.enclosed
    {inner second : Phrase .sum}
    {closing otherClosing : Mark}
    {lexeme : Lexeme}
    {leftRest rightRest : List Token}
    (innerOnly : OnlyReading inner)
    (greedy : second.Greedy)
    (unbound : lexeme.bond < 1)
    (same : inner.tokens ++ closing.token lexeme :: leftRest =
      second.tokens ++ otherClosing.token lexeme :: rightRest) :
    inner = second ∧ closing = otherClosing ∧ leftRest = rightRest := by
  obtain ⟨innerSame, remaining⟩ := innerOnly second _ _ greedy same unbound unbound
  simp only [List.cons.injEq, Mark.token_inj, true_and] at remaining
  exact ⟨innerSame, remaining⟩

/-- What is known of the first token of what closes a phrase. -/
theorem closes_head
    {bond : Nat}
    {token : Token}
    {rest others : List Token}
    (closes : Closes bond rest)
    (same : rest = token :: others) :
    token.lexeme.bond < bond := by
  rw [same] at closes
  exact closes

/-! ## Sums -/

section Sums

variable {first term : Phrase .product} {others : Phrase .terms}

theorem onlyReading_sum
    (firstOnly : OnlyReading first)
    (othersOnly : OnlyReading others) :
    OnlyReading (sum first others) := by
  intro right leftRest rightRest greedy same leftCloses rightCloses
  cases right with
  | sum second followers =>
      simp only [tokens, List.append_assoc] at same
      obtain ⟨rfl, rfl, rests⟩ := firstOnly.sequence othersOnly greedy same
        (closes_terms first others leftCloses)
        (closes_terms second followers rightCloses) leftCloses rightCloses
      exact ⟨rfl, rests⟩

theorem onlyReading_noTerms : OnlyReading noTerms := by
  intro right leftRest rightRest greedy same leftCloses rightCloses
  cases right with
  | noTerms => exact ⟨rfl, same⟩
  | plus | minus => exact absurd (closes_head leftCloses same) (Nat.lt_irrefl 1)

theorem onlyReading_plus
    {sign : Mark}
    (termOnly : OnlyReading term)
    (othersOnly : OnlyReading others) :
    OnlyReading (plus sign term others) := by
  intro right leftRest rightRest greedy same leftCloses rightCloses
  cases right with
  | noTerms => exact absurd (closes_head rightCloses same.symm) (Nat.lt_irrefl 1)
  | plus otherSign second followers =>
      obtain ⟨rfl, rfl, rfl, rests⟩ := termOnly.link othersOnly greedy same
        (closes_terms term others leftCloses)
        (closes_terms second followers rightCloses) leftCloses rightCloses
      exact ⟨rfl, rests⟩
  | minus => simp [tokens] at same

theorem onlyReading_minus
    {sign : Mark}
    (termOnly : OnlyReading term)
    (othersOnly : OnlyReading others) :
    OnlyReading (minus sign term others) := by
  intro right leftRest rightRest greedy same leftCloses rightCloses
  cases right with
  | noTerms => exact absurd (closes_head rightCloses same.symm) (Nat.lt_irrefl 1)
  | plus => simp [tokens] at same
  | minus otherSign second followers =>
      obtain ⟨rfl, rfl, rfl, rests⟩ := termOnly.link othersOnly greedy same
        (closes_terms term others leftCloses)
        (closes_terms second followers rightCloses) leftCloses rightCloses
      exact ⟨rfl, rests⟩

end Sums

/-! ## Products -/

section Products

variable {first factor divisor : Phrase .signed} {others : Phrase .factors}

theorem onlyReading_product
    (firstOnly : OnlyReading first)
    (othersOnly : OnlyReading others) :
    OnlyReading (product first others) := by
  intro right leftRest rightRest greedy same leftCloses rightCloses
  cases right with
  | product second followers =>
      simp only [tokens, List.append_assoc] at same
      obtain ⟨rfl, rfl, rests⟩ := firstOnly.sequence othersOnly greedy same
        (closes_factors first others leftCloses)
        (closes_factors second followers rightCloses) leftCloses rightCloses
      exact ⟨rfl, rests⟩

theorem onlyReading_noFactors : OnlyReading noFactors := by
  intro right leftRest rightRest greedy same leftCloses rightCloses
  cases right with
  | noFactors => exact ⟨rfl, same⟩
  | times | dividedBy => exact absurd (closes_head leftCloses same) (Nat.lt_irrefl 2)

theorem onlyReading_times
    {sign : Mark}
    (factorOnly : OnlyReading factor)
    (othersOnly : OnlyReading others) :
    OnlyReading (times sign factor others) := by
  intro right leftRest rightRest greedy same leftCloses rightCloses
  cases right with
  | noFactors => exact absurd (closes_head rightCloses same.symm) (Nat.lt_irrefl 2)
  | times otherSign second followers =>
      obtain ⟨rfl, rfl, rfl, rests⟩ := factorOnly.link othersOnly greedy same
        (closes_factors factor others leftCloses)
        (closes_factors second followers rightCloses) leftCloses rightCloses
      exact ⟨rfl, rests⟩
  | dividedBy => simp [tokens] at same

theorem onlyReading_dividedBy
    {sign : Mark}
    (divisorOnly : OnlyReading divisor)
    (othersOnly : OnlyReading others) :
    OnlyReading (dividedBy sign divisor others) := by
  intro right leftRest rightRest greedy same leftCloses rightCloses
  cases right with
  | noFactors => exact absurd (closes_head rightCloses same.symm) (Nat.lt_irrefl 2)
  | times => simp [tokens] at same
  | dividedBy otherSign second followers =>
      obtain ⟨rfl, rfl, rfl, rests⟩ := divisorOnly.link othersOnly greedy same
        (closes_factors divisor others leftCloses)
        (closes_factors second followers rightCloses) leftCloses rightCloses
      exact ⟨rfl, rests⟩

end Products

/-! ## Signs and powers -/

section Powers

variable {operand exponent : Phrase .signed} {power : Phrase .power}
  {base : Phrase .postfixed}

theorem onlyReading_negated
    {sign : Mark}
    (operandOnly : OnlyReading operand) :
    OnlyReading (negated sign operand) := by
  intro right leftRest rightRest greedy same leftCloses rightCloses
  cases right with
  | negated otherSign second =>
      simp only [tokens, List.cons_append, List.cons.injEq, Mark.token_inj,
        true_and] at same
      obtain ⟨rfl, remaining⟩ := same
      obtain ⟨rfl, rests⟩ := operandOnly second _ _ greedy remaining leftCloses rightCloses
      exact ⟨rfl, rests⟩
  | unsigned power => exact absurd same (power.tokens_power_ne_minus sign _ _)

theorem onlyReading_unsigned (powerOnly : OnlyReading power) :
    OnlyReading (unsigned power) := by
  intro right leftRest rightRest greedy same leftCloses rightCloses
  cases right with
  | negated sign second =>
      exact absurd same.symm (power.tokens_power_ne_minus sign _ _)
  | unsigned second =>
      obtain ⟨rfl, rests⟩ := powerOnly second _ _ greedy same leftCloses rightCloses
      exact ⟨rfl, rests⟩

theorem onlyReading_unraised (baseOnly : OnlyReading base) :
    OnlyReading (unraised base) := by
  intro right leftRest rightRest greedy same leftCloses rightCloses
  have baseCloses : Closes base.bond leftRest := leftCloses.mono (Nat.le_succ 3)
  cases right with
  | unraised second =>
      obtain ⟨rfl, rests⟩ := baseOnly second _ _ greedy same baseCloses
        (rightCloses.mono (Nat.le_succ 3))
      exact ⟨rfl, rests⟩
  | raised second sign exponent =>
      simp only [tokens, List.append_assoc] at same
      obtain ⟨-, rests⟩ := baseOnly second _ _ greedy.1 same baseCloses
        (Nat.lt_succ_self 3)
      exact absurd (closes_head leftCloses rests) (Nat.lt_irrefl 3)

theorem onlyReading_raised
    {sign : Mark}
    (baseOnly : OnlyReading base)
    (exponentOnly : OnlyReading exponent) :
    OnlyReading (raised base sign exponent) := by
  intro right leftRest rightRest greedy same leftCloses rightCloses
  cases right with
  | unraised second =>
      simp only [tokens, List.append_assoc] at same
      obtain ⟨-, rests⟩ := baseOnly second _ _ greedy same
        (Nat.lt_succ_self 3) (rightCloses.mono (Nat.le_succ 3))
      exact absurd (closes_head rightCloses rests.symm) (Nat.lt_irrefl 3)
  | raised second otherSign otherExponent =>
      simp only [tokens, List.append_assoc, List.cons_append] at same
      obtain ⟨rfl, remaining⟩ := baseOnly second _ _ greedy.1 same
        (Nat.lt_succ_self 3) (Nat.lt_succ_self 3)
      simp only [List.cons.injEq, Mark.token_inj, true_and] at remaining
      obtain ⟨rfl, behind⟩ := remaining
      obtain ⟨rfl, rests⟩ := exponentOnly otherExponent _ _ greedy.2
        behind leftCloses rightCloses
      exact ⟨rfl, rests⟩

end Powers

/-! ## Postfixes -/

section Postfixes

variable {others : Phrase .postfixes}

theorem onlyReading_postfixed
    {first : Phrase .primary}
    (firstOnly : OnlyReading first)
    (othersOnly : OnlyReading others)
    (leftGreedy : first.IsRoot → others = noPostfixes) :
    OnlyReading (postfixed first others) := by
  intro right leftRest rightRest greedy same leftCloses rightCloses
  cases right with
  | postfixed second followers =>
      simp only [tokens, List.append_assoc] at same
      obtain ⟨rfl, rfl, rests⟩ := firstOnly.sequence othersOnly
        ⟨greedy.1, greedy_postfixes followers⟩ same
        (closes_postfixes first others leftGreedy leftCloses)
        (closes_postfixes second followers greedy.2 rightCloses) leftCloses rightCloses
      exact ⟨rfl, rests⟩

theorem onlyReading_noPostfixes : OnlyReading noPostfixes := by
  intro right leftRest rightRest greedy same leftCloses rightCloses
  cases right with
  | noPostfixes => exact ⟨rfl, same⟩
  | factorial | superscript =>
      exact absurd (closes_head leftCloses same) (Nat.lt_irrefl 4)

theorem onlyReading_factorial
    {mark : Mark}
    (othersOnly : OnlyReading others) :
    OnlyReading (factorial mark others) := by
  intro right leftRest rightRest greedy same leftCloses rightCloses
  cases right with
  | noPostfixes => exact absurd (closes_head rightCloses same.symm) (Nat.lt_irrefl 4)
  | factorial otherMark followers =>
      simp only [tokens, List.cons_append, List.cons.injEq, Mark.token_inj,
        true_and] at same
      obtain ⟨rfl, remaining⟩ := same
      obtain ⟨rfl, rests⟩ := othersOnly followers _ _
        (greedy_postfixes followers) remaining leftCloses rightCloses
      exact ⟨rfl, rests⟩
  | superscript => simp [tokens] at same

theorem onlyReading_superscript
    {mark : Mark}
    {exponent : Float}
    (othersOnly : OnlyReading others) :
    OnlyReading (superscript mark exponent others) := by
  intro right leftRest rightRest greedy same leftCloses rightCloses
  cases right with
  | noPostfixes => exact absurd (closes_head rightCloses same.symm) (Nat.lt_irrefl 4)
  | factorial => simp [tokens] at same
  | superscript otherMark otherExponent followers =>
      simp only [tokens, List.cons_append, List.cons.injEq, Mark.token_inj,
        Lexeme.superscript.injEq] at same
      obtain ⟨⟨rfl, rfl⟩, remaining⟩ := same
      obtain ⟨rfl, rests⟩ := othersOnly followers _ _
        (greedy_postfixes followers) remaining leftCloses rightCloses
      exact ⟨rfl, rests⟩

end Postfixes

/-! ## Primaries -/

section Primaries

variable {inner argument : Phrase .sum}

theorem onlyReading_number {mark : Mark} {value : Float} :
    OnlyReading (number mark value) := by
  intro right leftRest rightRest greedy same leftCloses rightCloses
  cases right with
  | number otherMark otherValue =>
      simp only [tokens, List.cons_append, List.nil_append, List.cons.injEq,
        Mark.token_inj, Lexeme.number.injEq] at same
      obtain ⟨⟨rfl, rfl⟩, rests⟩ := same
      exact ⟨rfl, rests⟩
  | constant | group | bars | application | root => simp [tokens] at same

theorem onlyReading_constant {mark : Mark} {value : Float} :
    OnlyReading (constant mark value) := by
  intro right leftRest rightRest greedy same leftCloses rightCloses
  cases right with
  | constant otherMark otherValue =>
      simp only [tokens, List.cons_append, List.nil_append, List.cons.injEq,
        Mark.token_inj, Lexeme.constant.injEq] at same
      obtain ⟨⟨rfl, rfl⟩, rests⟩ := same
      exact ⟨rfl, rests⟩
  | number | group | bars | application | root => simp [tokens] at same

theorem onlyReading_group
    {opening closing : Mark}
    (innerOnly : OnlyReading inner) :
    OnlyReading (group opening inner closing) := by
  intro right leftRest rightRest greedy same leftCloses rightCloses
  cases right with
  | group otherOpening second otherClosing =>
      simp only [tokens, List.cons_append, List.append_assoc, List.nil_append,
        List.cons.injEq, Mark.token_inj, true_and] at same
      obtain ⟨rfl, remaining⟩ := same
      obtain ⟨rfl, rfl, rests⟩ := innerOnly.enclosed greedy (by decide) remaining
      exact ⟨rfl, rests⟩
  | number | constant | bars | application | root => simp [tokens] at same

theorem onlyReading_bars
    {opening closing : Mark}
    (innerOnly : OnlyReading inner) :
    OnlyReading (bars opening inner closing) := by
  intro right leftRest rightRest greedy same leftCloses rightCloses
  cases right with
  | bars otherOpening second otherClosing =>
      simp only [tokens, List.cons_append, List.append_assoc, List.nil_append,
        List.cons.injEq, Mark.token_inj, true_and] at same
      obtain ⟨rfl, remaining⟩ := same
      obtain ⟨rfl, rfl, rests⟩ := innerOnly.enclosed greedy (by decide) remaining
      exact ⟨rfl, rests⟩
  | number | constant | group | application | root => simp [tokens] at same

theorem onlyReading_application
    {word opening closing : Mark}
    {name : FunctionName}
    {exponent : Option Nat}
    {logarithmBase : Option Float}
    (argumentOnly : OnlyReading argument) :
    OnlyReading (application word name exponent logarithmBase opening argument closing) := by
  intro right leftRest rightRest greedy same leftCloses rightCloses
  cases right with
  | application otherWord otherName otherExponent otherBase otherOpening second
      otherClosing =>
      simp only [tokens, List.cons_append, List.append_assoc, List.nil_append,
        List.cons.injEq, Mark.token_inj, Lexeme.function.injEq, true_and] at same
      obtain ⟨⟨⟨rfl, rfl, rfl⟩, rfl⟩, rfl, remaining⟩ := same
      obtain ⟨rfl, rfl, rests⟩ := argumentOnly.enclosed greedy (by decide) remaining
      exact ⟨rfl, rests⟩
  | number | constant | group | bars | root => simp [tokens] at same

theorem onlyReading_root
    {mark : Mark}
    {index : Float}
    {radicand : Phrase .postfixed}
    (radicandOnly : OnlyReading radicand) :
    OnlyReading (root mark index radicand) := by
  intro right leftRest rightRest greedy same leftCloses rightCloses
  cases right with
  | root otherMark otherIndex second =>
      simp only [tokens, List.cons_append, List.cons.injEq, Mark.token_inj,
        Lexeme.root.injEq] at same
      obtain ⟨⟨rfl, rfl⟩, remaining⟩ := same
      obtain ⟨rfl, rests⟩ :=
        radicandOnly second _ _ greedy remaining leftCloses rightCloses
      exact ⟨rfl, rests⟩
  | number | constant | group | bars | application => simp [tokens] at same

end Primaries

/-! ## All phrases -/

/-- Unique reading: a greedy phrase is the only reading of what it stands for. -/
theorem onlyReading
    {category : Category}
    (left : Phrase category)
    (leftGreedy : left.Greedy) :
    OnlyReading left := by
  -- By induction on the phrase. The first token tells which construct stands on the
  -- other side; what follows a part closes it, so the parts agree one by one.
  induction left with
  | sum first others firstOnly othersOnly =>
      exact onlyReading_sum (firstOnly leftGreedy.1) (othersOnly leftGreedy.2)
  | noTerms => exact onlyReading_noTerms
  | plus sign term others termOnly othersOnly =>
      exact onlyReading_plus (termOnly leftGreedy.1) (othersOnly leftGreedy.2)
  | minus sign term others termOnly othersOnly =>
      exact onlyReading_minus (termOnly leftGreedy.1) (othersOnly leftGreedy.2)
  | product first others firstOnly othersOnly =>
      exact onlyReading_product (firstOnly leftGreedy.1) (othersOnly leftGreedy.2)
  | noFactors => exact onlyReading_noFactors
  | times sign factor others factorOnly othersOnly =>
      exact onlyReading_times (factorOnly leftGreedy.1) (othersOnly leftGreedy.2)
  | dividedBy sign divisor others divisorOnly othersOnly =>
      exact onlyReading_dividedBy (divisorOnly leftGreedy.1) (othersOnly leftGreedy.2)
  | negated sign operand operandOnly => exact onlyReading_negated (operandOnly leftGreedy)
  | unsigned power powerOnly => exact onlyReading_unsigned (powerOnly leftGreedy)
  | unraised base baseOnly => exact onlyReading_unraised (baseOnly leftGreedy)
  | raised base sign exponent baseOnly exponentOnly =>
      exact onlyReading_raised (baseOnly leftGreedy.1) (exponentOnly leftGreedy.2)
  | postfixed first others firstOnly othersOnly =>
      exact onlyReading_postfixed (firstOnly leftGreedy.1)
        (othersOnly (greedy_postfixes others)) leftGreedy.2
  | noPostfixes => exact onlyReading_noPostfixes
  | factorial mark others othersOnly =>
      exact onlyReading_factorial (othersOnly (greedy_postfixes others))
  | superscript mark exponent others othersOnly =>
      exact onlyReading_superscript (othersOnly (greedy_postfixes others))
  | number => exact onlyReading_number
  | constant => exact onlyReading_constant
  | group opening inner closing innerOnly => exact onlyReading_group (innerOnly leftGreedy)
  | bars opening inner closing innerOnly => exact onlyReading_bars (innerOnly leftGreedy)
  | application word name exponent logarithmBase opening argument closing argumentOnly =>
      exact onlyReading_application (argumentOnly leftGreedy)
  | root mark index radicand radicandOnly =>
      exact onlyReading_root (radicandOnly leftGreedy)

/-- Two greedy trees of one formula are the same. -/
theorem eq_of_tokens_eq
    {left right : Phrase .sum}
    (leftGreedy : left.Greedy)
    (rightGreedy : right.Greedy)
    (same : left.tokens = right.tokens) :
    left = right :=
  (onlyReading left leftGreedy right [] [] rightGreedy (by rw [same]) trivial trivial).1

end Phrase

end FormulaGrid
