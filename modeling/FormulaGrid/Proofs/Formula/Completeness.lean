import FormulaGrid.Proofs.Formula.Steps

/-!
Contract: the readers find every phrase of the grammar, and its value.

Owns:
- what it is for a reader to find a phrase (`Grammar.Finds`), whatever stands
  behind it that does not go on it;
- each category's reader finds the greedy phrases of its category that nest no
  deeper than the levels below it (`Phrase.isRead`).

Does not own: what the readers do in front of tokens that no phrase derives.
-/

namespace FormulaGrid

open Grammar

section Completeness

variable {Value : Type} (meaning : Interpretation Value) (finish : Nat)

/-- In front of a phrase, and of anything that does not go on it, the reader has
the phrase's value and leaves what stands behind it. -/
def Grammar.Finds
    {Taken : List Token → List Token → Prop}
    {category : Category}
    (reader : (tokens : List Token) →
      Except Fault (Value × { rest : List Token // Taken tokens rest }))
    (phrase : Phrase category)
    (worth : Except Fault Value) :
    Prop :=
  ∀ rest : List Token,
    Closes phrase.bond rest →
    plain (reader (phrase.tokens ++ rest)) = worth.map fun value => (value, rest)

/-- The phrase is found by the reader of its category that may go down the given
number of levels; a repetition, behind any value. -/
def Phrase.IsRead (levels : Nat) : {category : Category} → Phrase category → Prop
  | .sum, phrase =>
      Finds (readSum meaning finish (Level.above meaning finish levels)) phrase
        (phrase.value meaning)
  | .terms, phrase => ∀ start : Value,
      Finds
        (readChain meaning.terms (readProduct meaning finish (Level.above meaning finish levels))
          start)
        phrase (phrase.value meaning start)
  | .product, phrase =>
      Finds (readProduct meaning finish (Level.above meaning finish levels)) phrase
        (phrase.value meaning)
  | .factors, phrase => ∀ start : Value,
      Finds
        (readChain meaning.factors (readSigned meaning finish (Level.above meaning finish levels))
          start)
        phrase (phrase.value meaning start)
  | .signed, phrase =>
      Finds (readSigned meaning finish (Level.above meaning finish levels)) phrase
        (phrase.value meaning)
  | .power, phrase =>
      Finds (readPower meaning finish (Level.above meaning finish levels)) phrase
        (phrase.value meaning)
  | .postfixed, phrase =>
      Finds (readPostfixed meaning finish (Level.above meaning finish levels)) phrase
        (phrase.value meaning)
  | .postfixes, phrase => ∀ start : Value,
      Finds (readPostfixes meaning start) phrase (phrase.value meaning start)
  | .primary, phrase =>
      Finds (readPrimary meaning finish (Level.above meaning finish levels)) phrase
        (phrase.value meaning)

end Completeness

/-! ## Where nothing goes on -/

namespace Grammar

variable {Value : Type} (meaning : Interpretation Value) (finish : Nat)
  (inner : Level Value)

/-- Nothing is taken on a chain in front of what closes it. -/
theorem plain_readChain_closed
    {links : Links Value}
    {bond : Nat}
    (bind : Links.Bind links bond)
    (item : Reader Value)
    (start : Value)
    {rest : List Token}
    (closes : Closes bond rest) :
    plain (readChain links item start rest) = .ok (start, rest) :=
  plain_readChain_ends (bind.ends closes) start

theorem raiseBase_closed
    (base : Value)
    {rest : List Token}
    (closes : Closes Category.power.bond rest) :
    raiseBase meaning inner (base, rest) = .ok (base, rest) := by
  rcases rest with _ | ⟨⟨lexeme, text, position⟩, others⟩
  · rfl
  · cases lexeme with
    | operator symbol =>
        cases symbol with
        | power => exact absurd closes (Nat.lt_irrefl 3)
        | plus | minus | times | dividedBy => rfl
    | _ => rfl

theorem plain_readPostfixes_closed
    (start : Value)
    {rest : List Token}
    (closes : Closes Category.postfixes.bond rest) :
    plain (readPostfixes meaning start rest) = .ok (start, rest) := by
  rw [plain_readPostfixes]
  rcases rest with _ | ⟨⟨lexeme, text, position⟩, others⟩
  · rfl
  · cases lexeme with
    | factorial | superscript => exact absurd closes (Nat.lt_irrefl 4)
    | _ => rfl

/-- No sign is taken in front of what starts an operand. -/
theorem plain_readSigned_operand
    {token : Token}
    (operand : token.lexeme.startsOperand = true)
    (others : List Token) :
    plain (readSigned meaning finish inner (token :: others)) =
      plain (readPower meaning finish inner (token :: others)) := by
  obtain ⟨lexeme, text, position⟩ := token
  rw [plain_readSigned]
  cases lexeme with
  | operator => exact Bool.noConfusion operand
  | _ => rfl

end Grammar

/-! ## Phrases are read -/

namespace Grammar

variable {Value Other : Type} {rest behind : List Token}

/-- A value that is gone on from: what is left does not depend on it. -/
theorem bind_leaving
    (outcome : Except Fault Other)
    {next : Other → Except Fault (Value × List Token)}
    {worth : Other → Except Fault Value}
    (same : ∀ value, next value = (worth value).map fun value => (value, behind)) :
    outcome >>= next = (outcome >>= worth).map fun value => (value, behind) := by
  cases outcome with
  | error fault => rfl
  | ok value => exact same value

/-- A reading that is gone on from, in front of a known rest. -/
theorem read_leaving
    (outcome : Except Fault Other)
    {next : Other × List Token → Except Fault (Value × List Token)}
    {worth : Other → Except Fault Value}
    (same : ∀ value, next (value, rest) = (worth value).map fun value => (value, behind)) :
    (outcome.map fun value => (value, rest)) >>= next =
      (outcome >>= worth).map fun value => (value, behind) := by
  cases outcome with
  | error fault => rfl
  | ok value => exact same value

/-- A link of a chain is found with its item, if the chain behind the item is. -/
theorem plain_readChain_leaving
    {links : Links Value}
    {item : Reader Value}
    {token : Token}
    {combine : Value → Value → Except Fault Value}
    (goesOn : links token = some combine)
    {others : List Token}
    {itemWorth : Except Fault Value}
    (itemFound : plain (item others) = itemWorth.map fun value => (value, rest))
    {worth : Value → Except Fault Value}
    (behindFound : ∀ total, plain (readChain links item total rest) =
      (worth total).map fun value => (value, behind))
    (start : Value) :
    plain (readChain links item start (token :: others)) =
      (itemWorth >>= fun right => combine start right >>= worth).map
        fun value => (value, behind) := by
  rw [plain_readChain_link goesOn, itemFound]
  exact read_leaving _ fun right => bind_leaving _ fun total => behindFound total

end Grammar

namespace Phrase

variable {Value : Type} {meaning : Interpretation Value} {finish levels : Nat}

section Sums

variable {first term : Phrase .product} {others : Phrase .terms}

theorem isRead_sum
    (firstRead : first.IsRead meaning finish levels)
    (othersRead : others.IsRead meaning finish levels) :
    (sum first others).IsRead meaning finish levels := by
  intro rest closes
  rw [tokens, List.append_assoc, readSum, plain_readSequence,
    firstRead _ (closes_terms first others closes)]
  exact read_leaving _ fun start => othersRead start rest closes

theorem isRead_noTerms : noTerms.IsRead meaning finish levels := by
  intro start rest closes
  exact plain_readChain_closed (bind_terms meaning) _ start closes

theorem isRead_plus
    {sign : Mark}
    (termRead : term.IsRead meaning finish levels)
    (othersRead : others.IsRead meaning finish levels) :
    (plus sign term others).IsRead meaning finish levels := by
  intro start rest closes
  rw [tokens, List.cons_append, List.append_assoc]
  exact plain_readChain_leaving rfl (termRead _ (closes_terms term others closes))
    (fun total => othersRead total rest closes) start

theorem isRead_minus
    {sign : Mark}
    (termRead : term.IsRead meaning finish levels)
    (othersRead : others.IsRead meaning finish levels) :
    (minus sign term others).IsRead meaning finish levels := by
  intro start rest closes
  rw [tokens, List.cons_append, List.append_assoc]
  exact plain_readChain_leaving rfl (termRead _ (closes_terms term others closes))
    (fun total => othersRead total rest closes) start

end Sums

section Products

variable {first factor divisor : Phrase .signed} {others : Phrase .factors}

theorem isRead_product
    (firstRead : first.IsRead meaning finish levels)
    (othersRead : others.IsRead meaning finish levels) :
    (product first others).IsRead meaning finish levels := by
  intro rest closes
  rw [tokens, List.append_assoc, readProduct, plain_readSequence,
    firstRead _ (closes_factors first others closes)]
  exact read_leaving _ fun start => othersRead start rest closes

theorem isRead_noFactors : noFactors.IsRead meaning finish levels := by
  intro start rest closes
  exact plain_readChain_closed (bind_factors meaning) _ start closes

theorem isRead_times
    {sign : Mark}
    (factorRead : factor.IsRead meaning finish levels)
    (othersRead : others.IsRead meaning finish levels) :
    (times sign factor others).IsRead meaning finish levels := by
  intro start rest closes
  rw [tokens, List.cons_append, List.append_assoc]
  exact plain_readChain_leaving rfl (factorRead _ (closes_factors factor others closes))
    (fun total => othersRead total rest closes) start

theorem isRead_dividedBy
    {sign : Mark}
    (divisorRead : divisor.IsRead meaning finish levels)
    (othersRead : others.IsRead meaning finish levels) :
    (dividedBy sign divisor others).IsRead meaning finish levels := by
  intro start rest closes
  rw [tokens, List.cons_append, List.append_assoc]
  exact plain_readChain_leaving rfl (divisorRead _ (closes_factors divisor others closes))
    (fun total => othersRead total rest closes) start

end Products

section Powers

variable {operand exponent : Phrase .signed} {power : Phrase .power}
  {base : Phrase .postfixed}

theorem isRead_negated
    {sign : Mark}
    (operandRead : operand.IsRead meaning finish levels) :
    (negated sign operand).IsRead meaning finish (levels + 1) := by
  intro rest closes
  rw [tokens, List.cons_append, plain_readSigned, Mark.token]
  dsimp only
  have inside : plain (Level.signed (Level.above meaning finish (levels + 1))
      (operand.tokens ++ rest)) = _ :=
    operandRead rest closes
  rw [inside]
  exact read_leaving _ fun inner => rfl

theorem isRead_unsigned (powerRead : power.IsRead meaning finish levels) :
    (unsigned power).IsRead meaning finish levels := by
  intro rest closes
  obtain ⟨token, others, starts, operand⟩ := power.exists_tokens_power
  have same := powerRead rest closes
  rw [starts, List.cons_append] at same
  rw [tokens, starts, List.cons_append, plain_readSigned_operand meaning finish _ operand,
    same]
  rfl

theorem isRead_unraised (baseRead : base.IsRead meaning finish levels) :
    (unraised base).IsRead meaning finish levels := by
  intro rest closes
  rw [tokens, plain_readPower, baseRead rest (closes.mono (Nat.le_succ 3)), value]
  cases base.value meaning with
  | error fault => rfl
  | ok start => exact raiseBase_closed meaning _ start closes

theorem isRead_raised
    {sign : Mark}
    (baseRead : base.IsRead meaning finish (levels + 1))
    (exponentRead : exponent.IsRead meaning finish levels) :
    (raised base sign exponent).IsRead meaning finish (levels + 1) := by
  intro rest closes
  rw [tokens, List.append_assoc, List.cons_append, plain_readPower,
    baseRead (sign.token (.operator .power) :: (exponent.tokens ++ rest))
      (Nat.lt_succ_self 3)]
  have inside : plain (Level.signed (Level.above meaning finish (levels + 1))
      (exponent.tokens ++ rest)) = _ :=
    exponentRead rest closes
  refine read_leaving _ fun lower => ?_
  rw [raiseBase, Mark.token]
  dsimp only
  rw [inside]
  exact read_leaving _ fun upper => rfl

end Powers

section Postfixes

variable {others : Phrase .postfixes}

theorem isRead_postfixed
    {first : Phrase .primary}
    (firstRead : first.IsRead meaning finish levels)
    (othersRead : others.IsRead meaning finish levels)
    (greedy : first.IsRoot → others = noPostfixes) :
    (postfixed first others).IsRead meaning finish levels := by
  intro rest closes
  rw [tokens, List.append_assoc, plain_readPostfixed,
    firstRead _ (closes_postfixes first others greedy closes)]
  exact read_leaving _ fun start => othersRead start rest closes

theorem isRead_noPostfixes : noPostfixes.IsRead meaning finish levels := by
  intro start rest closes
  exact plain_readPostfixes_closed meaning start closes

theorem isRead_factorial
    {mark : Mark}
    (othersRead : others.IsRead meaning finish levels) :
    (factorial mark others).IsRead meaning finish levels := by
  intro start rest closes
  rw [tokens, List.cons_append, plain_readPostfixes, Mark.token]
  exact bind_leaving _ fun value => othersRead value rest closes

theorem isRead_superscript
    {mark : Mark}
    {exponent : Float}
    (othersRead : others.IsRead meaning finish levels) :
    (superscript mark exponent others).IsRead meaning finish levels := by
  intro start rest closes
  rw [tokens, List.cons_append, plain_readPostfixes, Mark.token]
  exact bind_leaving _ fun value => othersRead value rest closes

end Postfixes

section Primaries

variable {inner argument : Phrase .sum}

theorem isRead_number {mark : Mark} {value : Float} :
    (number mark value).IsRead meaning finish levels := by
  intro rest closes
  rw [tokens, List.cons_append, plain_readPrimary]
  rfl

theorem isRead_constant {mark : Mark} {value : Float} :
    (constant mark value).IsRead meaning finish levels := by
  intro rest closes
  rw [tokens, List.cons_append, plain_readPrimary]
  rfl

/-- A sum is read one level further down, in front of a token that closes it. -/
theorem IsRead.enclosed
    (innerRead : inner.IsRead meaning finish levels)
    {lexeme : Lexeme}
    (unbound : lexeme.bond < 1)
    (closing : Mark)
    (rest : List Token) :
    plain (Level.sum (Level.above meaning finish (levels + 1))
        (inner.tokens ++ ([closing.token lexeme] ++ rest))) =
      (inner.value meaning).map fun value => (value, [closing.token lexeme] ++ rest) :=
  innerRead _ unbound

theorem isRead_group
    {opening closing : Mark}
    (innerRead : inner.IsRead meaning finish levels) :
    (group opening inner closing).IsRead meaning finish (levels + 1) := by
  intro rest closes
  rw [tokens, List.cons_append, List.append_assoc, plain_readPrimary, Mark.token]
  dsimp only
  rw [plain_readGroup, innerRead.enclosed (by decide), value]
  cases inner.value meaning <;> rfl

theorem isRead_bars
    {opening closing : Mark}
    (innerRead : inner.IsRead meaning finish levels) :
    (bars opening inner closing).IsRead meaning finish (levels + 1) := by
  intro rest closes
  rw [tokens, List.cons_append, List.append_assoc, plain_readPrimary, Mark.token]
  dsimp only
  rw [plain_readBars, innerRead.enclosed (by decide)]
  exact read_leaving _ fun inner => rfl

theorem isRead_application
    {word opening closing : Mark}
    {name : FunctionName}
    {exponent : Option Nat}
    {logarithmBase : Option Float}
    (argumentRead : argument.IsRead meaning finish levels) :
    (application word name exponent logarithmBase opening argument closing).IsRead meaning
      finish (levels + 1) := by
  intro rest closes
  rw [tokens, List.cons_append, List.cons_append, List.append_assoc, plain_readPrimary,
    Mark.token]
  dsimp only
  rw [plain_readArgument, Mark.token]
  dsimp only
  rw [plain_readGroup, argumentRead.enclosed (by decide), value]
  cases argument.value meaning with
  | error fault => rfl
  | ok inside => rfl

theorem isRead_root
    {mark : Mark}
    {index : Float}
    {radicand : Phrase .postfixed}
    (radicandRead : radicand.IsRead meaning finish levels) :
    (root mark index radicand).IsRead meaning finish (levels + 1) := by
  intro rest closes
  rw [tokens, List.cons_append, plain_readPrimary, Mark.token]
  dsimp only
  have inside : plain (Level.postfixed (Level.above meaning finish (levels + 1))
      (radicand.tokens ++ rest)) = _ :=
    radicandRead rest closes
  rw [inside]
  exact read_leaving _ fun inside => rfl

end Primaries

/-- What nests below a level leaves that level. -/
theorem exists_below {depth : Nat} (shallow : depth + 1 ≤ levels) :
    ∃ below, levels = below + 1 ∧ depth ≤ below :=
  ⟨levels - 1, by omega, by omega⟩

/-- Every greedy phrase is read, if it nests no deeper than the levels allow. -/
theorem isRead
    (meaning : Interpretation Value)
    (finish : Nat)
    {category : Category}
    (phrase : Phrase category)
    (levels : Nat)
    (greedy : phrase.Greedy)
    (shallow : phrase.depth ≤ levels) :
    phrase.IsRead meaning finish levels := by
  -- By induction on the phrase. A part that is enclosed, negated or raised to is read
  -- one level further down, and its depth leaves that level.
  induction phrase generalizing levels with
  | sum first others firstRead othersRead =>
      have shallowParts := Nat.max_le.mp shallow
      exact isRead_sum (firstRead levels greedy.1 shallowParts.1)
        (othersRead levels greedy.2 shallowParts.2)
  | noTerms => exact isRead_noTerms
  | plus sign term others termRead othersRead =>
      have shallowParts := Nat.max_le.mp shallow
      exact isRead_plus (termRead levels greedy.1 shallowParts.1)
        (othersRead levels greedy.2 shallowParts.2)
  | minus sign term others termRead othersRead =>
      have shallowParts := Nat.max_le.mp shallow
      exact isRead_minus (termRead levels greedy.1 shallowParts.1)
        (othersRead levels greedy.2 shallowParts.2)
  | product first others firstRead othersRead =>
      have shallowParts := Nat.max_le.mp shallow
      exact isRead_product (firstRead levels greedy.1 shallowParts.1)
        (othersRead levels greedy.2 shallowParts.2)
  | noFactors => exact isRead_noFactors
  | times sign factor others factorRead othersRead =>
      have shallowParts := Nat.max_le.mp shallow
      exact isRead_times (factorRead levels greedy.1 shallowParts.1)
        (othersRead levels greedy.2 shallowParts.2)
  | dividedBy sign divisor others divisorRead othersRead =>
      have shallowParts := Nat.max_le.mp shallow
      exact isRead_dividedBy (divisorRead levels greedy.1 shallowParts.1)
        (othersRead levels greedy.2 shallowParts.2)
  | negated sign operand operandRead =>
      obtain ⟨below, rfl, shallowInside⟩ := exists_below shallow
      exact isRead_negated (operandRead below greedy shallowInside)
  | unsigned power powerRead => exact isRead_unsigned (powerRead levels greedy shallow)
  | unraised base baseRead => exact isRead_unraised (baseRead levels greedy shallow)
  | raised base sign exponent baseRead exponentRead =>
      have shallowParts := Nat.max_le.mp shallow
      obtain ⟨below, rfl, shallowExponent⟩ := exists_below shallowParts.2
      exact isRead_raised (baseRead _ greedy.1 shallowParts.1)
        (exponentRead below greedy.2 shallowExponent)
  | postfixed first others firstRead othersRead =>
      have shallowParts := Nat.max_le.mp shallow
      exact isRead_postfixed (firstRead levels greedy.1 shallowParts.1)
        (othersRead levels (greedy_postfixes others) shallowParts.2) greedy.2
  | noPostfixes => exact isRead_noPostfixes
  | factorial mark others othersRead =>
      exact isRead_factorial (othersRead levels (greedy_postfixes others) shallow)
  | superscript mark exponent others othersRead =>
      exact isRead_superscript (othersRead levels (greedy_postfixes others) shallow)
  | number => exact isRead_number
  | constant => exact isRead_constant
  | group opening inner closing innerRead =>
      obtain ⟨below, rfl, shallowInside⟩ := exists_below shallow
      exact isRead_group (innerRead below greedy shallowInside)
  | bars opening inner closing innerRead =>
      obtain ⟨below, rfl, shallowInside⟩ := exists_below shallow
      exact isRead_bars (innerRead below greedy shallowInside)
  | application word name exponent logarithmBase opening argument closing argumentRead =>
      obtain ⟨below, rfl, shallowInside⟩ := exists_below shallow
      exact isRead_application (argumentRead below greedy shallowInside)
  | root mark index radicand radicandRead =>
      obtain ⟨below, rfl, shallowInside⟩ := exists_below shallow
      exact isRead_root (radicandRead below greedy shallowInside)

end Phrase

end FormulaGrid
