import FormulaGrid.Proofs.Formula.Completeness
import FormulaGrid.Proofs.Formula.Stuck

/-!
Contract: repetitions are taken from the front of tokens, or are stuck there.

Owns:
- the readings behind a value that is already there (`Grammar.DecidesBehind`);
- the signs by which a repetition goes on (`Grammar.Link`), and one step of a
  repetition (`Grammar.Link.decidesBehind`);
- the repetitions that are read as chains (`Grammar.Chain`): the factors and the terms.
  A chain is decided if its item is (`Grammar.Chain.decides`);
- an item with a chain behind it (`Grammar.Sequence`), which is decided if its item
  is (`Grammar.Sequence.decides`).

Does not own: the readers of the items.
-/

namespace FormulaGrid

namespace Grammar

/-! ## Repetitions -/

/-- The readings of the same tokens behind any value, under every meaning. -/
abbrev ReadingsBehind :=
  (Value : Type) → Interpretation Value → Value → Except Fault (Value × List Token)

/-- What a repetition is worth behind any value, under every meaning. -/
abbrev WorthBehind (repetition : Category) :=
  (Value : Type) → Interpretation Value → Phrase repetition → Value → Except Fault Value

/-- A repetition, not nested too deep, is taken from the front. -/
def UnderstandsBehind
    {repetition : Category}
    (limit : Nat)
    (worth : WorthBehind repetition)
    (tokens : List Token)
    (readings : ReadingsBehind) :
    Prop :=
  ∃ (phrase : Phrase repetition) (rest : List Token),
    tokens = phrase.tokens ++ rest ∧
      phrase.depth < limit ∧
      ∀ (Value : Type) (meaning : Interpretation Value) (start : Value),
        readings Value meaning start =
          (worth Value meaning phrase start).map fun value => (value, rest)

/-- The readings come no further than a place. Before that, also the part of the
repetition that has been read may have failed behind the value it started from. -/
def IsStuckBehind
    {repetition : Category}
    (finish : Nat)
    (worth : WorthBehind repetition)
    (tokens : List Token)
    (readings : ReadingsBehind) :
    Prop :=
  ∃ (before stuck : List Token) (fault : Fault),
    tokens = before ++ stuck ∧
      SyntaxFault finish stuck fault ∧
      ∀ (Value : Type) (meaning : Interpretation Value) (start : Value),
        ∃ found, readings Value meaning start = .error found ∧
          (found = fault ∨ Blamed meaning before found ∨
            ∃ (part : Phrase repetition) (behind : List Token),
              before = part.tokens ++ behind ∧
                worth Value meaning part start = .error found)

/-- The reader of a repetition takes one or is stuck. -/
def DecidesBehind
    {repetition : Category}
    (finish limit : Nat)
    (worth : WorthBehind repetition)
    (readings : List Token → ReadingsBehind)
    (tokens : List Token) :
    Prop :=
  UnderstandsBehind limit worth tokens (readings tokens) ∨
    IsStuckBehind finish worth tokens (readings tokens)

/-- A sign by which a repetition goes on: the phrases it makes, and how the value in
front of it and the value behind it are combined. -/
structure Link {item repetition : Category} (itemWorth : Worth item)
    (worth : WorthBehind repetition) (sign : Token) where
  construct : Phrase item → Phrase repetition → Phrase repetition
  combine : {Value : Type} → Interpretation Value → Value → Value → Except Fault Value
  tokens_construct : ∀ phrase others,
    (construct phrase others).tokens = sign :: (phrase.tokens ++ others.tokens)
  depth_construct : ∀ phrase others,
    (construct phrase others).depth = max phrase.depth others.depth
  worth_construct : ∀ Value meaning phrase others start,
    worth Value meaning (construct phrase others) start =
      itemWorth Value meaning phrase >>= fun right =>
        combine meaning start right >>= worth Value meaning others

/-- A repetition that is read as a chain: the signs by which it goes on, and the phrase
that it is where it does not. -/
structure Chain {item repetition : Category} (itemWorth : Worth item)
    (worth : WorthBehind repetition) where
  links : {Value : Type} → Interpretation Value → Links Value
  linkAt : (token : Token) → Option (Link itemWorth worth token)
  empty : Phrase repetition
  links_eq : ∀ {Value : Type} (meaning : Interpretation Value) token,
    links meaning token = (linkAt token).map fun link => link.combine meaning
  tokens_empty : empty.tokens = []
  depth_empty : empty.depth = 0
  worth_empty : ∀ Value meaning start, worth Value meaning empty start = .ok start

namespace Link

variable {item repetition : Category} {itemWorth : Worth item}
  {worth : WorthBehind repetition} {sign : Token} (link : Link itemWorth worth sign)
  {finish limit : Nat} {itemReadings : List Token → Readings}
  {readings : List Token → ReadingsBehind} {others : List Token} {empty : Phrase repetition}

/-- What fails behind the item, or in what the item is combined to, fails as the
repetition that ends behind the item. -/
theorem exists_part
    {Value : Type}
    {meaning : Interpretation Value}
    {start : Value}
    {phrase : Phrase item}
    {before : List Token}
    {found : Fault}
    (tokens_empty : empty.tokens = [])
    (failed : (itemWorth Value meaning phrase >>= fun right =>
      link.combine meaning start right >>= worth Value meaning empty) = .error found) :
    ∃ (part : Phrase repetition) (behind : List Token),
      sign :: (phrase.tokens ++ before) = part.tokens ++ behind ∧
        worth Value meaning part start = .error found := by
  refine ⟨link.construct phrase empty, before, ?_, ?_⟩
  · rw [link.tokens_construct, tokens_empty, List.append_nil, List.cons_append]
  · rw [link.worth_construct, failed]

/-- A repetition is stuck where the repetition behind its first item is. -/
theorem isStuckBehind
    (tokens_empty : empty.tokens = [])
    (steps : ∀ Value meaning start,
      readings (sign :: others) Value meaning start =
        itemReadings others Value meaning >>= fun read =>
          link.combine meaning start read.1 >>= fun total =>
            readings read.2 Value meaning total)
    {phrase : Phrase item}
    {behind : List Token}
    (derived : others = phrase.tokens ++ behind)
    (same : ∀ (Value : Type) (meaning : Interpretation Value),
      itemReadings others Value meaning =
        (itemWorth Value meaning phrase).map fun value => (value, behind))
    (stuck : IsStuckBehind finish worth behind (readings behind)) :
    IsStuckBehind finish worth (sign :: others) (readings (sign :: others)) := by
  obtain ⟨before, place, fault, rfl, syntaxFault, fails⟩ := stuck
  refine ⟨sign :: (phrase.tokens ++ before), place, fault, ?_, syntaxFault, ?_⟩
  · rw [derived, List.cons_append, List.append_assoc]
  intro Value meaning start
  rw [steps, same]
  cases itemValue : itemWorth Value meaning phrase with
  | error found =>
      exact ⟨found, rfl, .inr (.inr (link.exists_part tokens_empty (by rw [itemValue]; rfl)))⟩
  | ok right =>
      cases combined : link.combine meaning start right with
      | error found =>
          refine ⟨found, ?_, .inr (.inr (link.exists_part tokens_empty ?_))⟩
          · show link.combine meaning start right >>= _ = _
            exact bind_failed combined
          · rw [itemValue]
            show link.combine meaning start right >>= _ = _
            exact bind_failed combined
      | ok total =>
          obtain ⟨found, failed, cause⟩ := fails Value meaning total
          refine ⟨found, ?_, ?_⟩
          · show link.combine meaning start right >>= _ = _
            rw [combined]
            exact failed
          · rcases cause with rfl | blamed | ⟨part, beyond, rfl, partFailed⟩
            · exact .inl rfl
            · exact .inr (.inl (blamed.within (sign :: phrase.tokens)))
            · refine .inr (.inr ⟨link.construct phrase part, beyond, ?_, ?_⟩)
              · rw [link.tokens_construct, List.cons_append, List.append_assoc]
              · rw [link.worth_construct, itemValue]
                show link.combine meaning start right >>= _ = _
                rw [combined]
                exact partFailed

/-- A repetition that goes on by a sign is taken or stuck, if the reading of the item
behind the sign and of what is left behind the item is. -/
theorem decidesBehind
    (tokens_empty : empty.tokens = [])
    (steps : ∀ Value meaning start,
      readings (sign :: others) Value meaning start =
        itemReadings others Value meaning >>= fun read =>
          link.combine meaning start read.1 >>= fun total =>
            readings read.2 Value meaning total)
    (itemDecides : Decides finish limit itemWorth itemReadings)
    (restDecides : ∀ rest : List Token, rest.length ≤ others.length →
      DecidesBehind finish limit worth readings rest) :
    DecidesBehind finish limit worth readings (sign :: others) := by
  rcases itemDecides others with ⟨phrase, behind, derived, shallow, same⟩ | stuck
  · have shorter : behind.length ≤ others.length := by
      rw [derived, List.length_append]
      exact Nat.le_add_left _ _
    rcases restDecides behind shorter with
      ⟨followers, rest, rfl, shallowRest, sameRest⟩ | stuck
    · refine .inl ⟨link.construct phrase followers, rest, ?_, ?_, ?_⟩
      · rw [link.tokens_construct, derived, List.cons_append, List.append_assoc]
      · rw [link.depth_construct]
        exact Nat.max_lt.mpr ⟨shallow, shallowRest⟩
      · intro Value meaning start
        rw [steps, same, link.worth_construct]
        exact read_leaving _ fun right => bind_leaving _ fun total =>
          sameRest Value meaning total
    · exact .inr (link.isStuckBehind tokens_empty steps derived same stuck)
  · obtain ⟨before, place, fault, rfl, syntaxFault, fails⟩ := stuck
    refine .inr ⟨sign :: before, place, fault, rfl, syntaxFault, ?_⟩
    intro Value meaning start
    obtain ⟨found, failed, cause⟩ := fails Value meaning
    rw [steps]
    exact ⟨found, bind_failed failed,
      cause.imp_right fun blamed => .inl (blamed.within [sign])⟩

end Link

/-- Factors go on by a product sign. -/
def timesLink (mark : Mark) :
    Link
      (fun _ meaning (phrase : Phrase .signed) => phrase.value meaning)
      (fun _ meaning (phrase : Phrase .factors) => phrase.value meaning)
      (mark.token (.operator .times)) where
  construct := .times mark
  combine meaning := meaning.multiply
  tokens_construct _ _ := rfl
  depth_construct _ _ := rfl
  worth_construct _ _ _ _ _ := rfl

/-- Factors go on by a quotient sign. -/
def dividedByLink (mark : Mark) :
    Link
      (fun _ meaning (phrase : Phrase .signed) => phrase.value meaning)
      (fun _ meaning (phrase : Phrase .factors) => phrase.value meaning)
      (mark.token (.operator .dividedBy)) where
  construct := .dividedBy mark
  combine meaning := meaning.divide mark.position
  tokens_construct _ _ := rfl
  depth_construct _ _ := rfl
  worth_construct _ _ _ _ _ := rfl

/-- Terms go on by a plus sign. -/
def plusLink (mark : Mark) :
    Link
      (fun _ meaning (phrase : Phrase .product) => phrase.value meaning)
      (fun _ meaning (phrase : Phrase .terms) => phrase.value meaning)
      (mark.token (.operator .plus)) where
  construct := .plus mark
  combine meaning := meaning.add
  tokens_construct _ _ := rfl
  depth_construct _ _ := rfl
  worth_construct _ _ _ _ _ := rfl

/-- Terms go on by a minus sign. -/
def minusLink (mark : Mark) :
    Link
      (fun _ meaning (phrase : Phrase .product) => phrase.value meaning)
      (fun _ meaning (phrase : Phrase .terms) => phrase.value meaning)
      (mark.token (.operator .minus)) where
  construct := .minus mark
  combine meaning := meaning.subtract
  tokens_construct _ _ := rfl
  depth_construct _ _ := rfl
  worth_construct _ _ _ _ _ := rfl

namespace Chain

variable {item repetition : Category} {itemWorth : Worth item}
  {worth : WorthBehind repetition} (chain : Chain itemWorth worth) {finish limit : Nat}
  {itemReader : (Value : Type) → Interpretation Value → Reader Value}

/-- Where no link follows, the empty chain is taken. -/
theorem decidesBehind_end
    {tokens : List Token}
    (ends : ∀ token ∈ tokens.head?, chain.linkAt token = none) :
    DecidesBehind finish (limit + 1) worth
      (fun tokens Value meaning start =>
        plain (readChain (chain.links meaning) (itemReader Value meaning) start tokens))
      tokens := by
  refine .inl ⟨chain.empty, tokens, ?_, ?_, fun Value meaning start => ?_⟩
  · rw [chain.tokens_empty, List.nil_append]
  · rw [chain.depth_empty]
    exact Nat.succ_pos limit
  · rw [chain.worth_empty]
    refine plain_readChain_ends (fun token isFirst => ?_) start
    rw [chain.links_eq, ends token isFirst, Option.map_none]

/-- A chain is taken or stuck, if its item is. -/
theorem decides
    (itemDecides : Decides finish (limit + 1) itemWorth
      fun tokens Value meaning => plain (itemReader Value meaning tokens))
    (tokens : List Token) :
    DecidesBehind finish (limit + 1) worth
      (fun tokens Value meaning start =>
        plain (readChain (chain.links meaning) (itemReader Value meaning) start tokens))
      tokens := by
  induction tokens using chain_induction chain.linkAt with
  | ends tokens ends => exact chain.decidesBehind_end ends
  | goesOn token others link linked inductionHypothesis =>
      refine link.decidesBehind chain.tokens_empty ?_ itemDecides inductionHypothesis
      intro Value meaning start
      exact plain_readChain_link (by rw [chain.links_eq, linked, Option.map_some]) start others

end Chain

/-- Factors are read as a chain of signed phrases. -/
def factorsChain :
    Chain
      (fun _ meaning (phrase : Phrase .signed) => phrase.value meaning)
      (fun _ meaning (phrase : Phrase .factors) => phrase.value meaning) where
  links meaning := meaning.factors
  linkAt
    | ⟨.operator .times, text, position⟩ => some (timesLink ⟨text, position⟩)
    | ⟨.operator .dividedBy, text, position⟩ => some (dividedByLink ⟨text, position⟩)
    | _ => none
  empty := .noFactors
  links_eq meaning token := by
    obtain ⟨lexeme, text, position⟩ := token
    cases lexeme with
    | operator symbol => cases symbol <;> rfl
    | _ => rfl
  tokens_empty := rfl
  depth_empty := rfl
  worth_empty _ _ _ := rfl

/-- Terms are read as a chain of products. -/
def termsChain :
    Chain
      (fun _ meaning (phrase : Phrase .product) => phrase.value meaning)
      (fun _ meaning (phrase : Phrase .terms) => phrase.value meaning) where
  links meaning := meaning.terms
  linkAt
    | ⟨.operator .plus, text, position⟩ => some (plusLink ⟨text, position⟩)
    | ⟨.operator .minus, text, position⟩ => some (minusLink ⟨text, position⟩)
    | _ => none
  empty := .noTerms
  links_eq meaning token := by
    obtain ⟨lexeme, text, position⟩ := token
    cases lexeme with
    | operator symbol => cases symbol <;> rfl
    | _ => rfl
  tokens_empty := rfl
  depth_empty := rfl
  worth_empty _ _ _ := rfl

/-! ## Products and sums -/

/-- A category that is an item and a chain behind it, and that can stand as a sum of
its own. -/
structure Sequence {item repetition whole : Category} {itemWorth : Worth item}
    {worth : WorthBehind repetition} (chain : Chain itemWorth worth)
    (wholeWorth : Worth whole) where
  construct : Phrase item → Phrase repetition → Phrase whole
  ofWhole : Phrase whole → Phrase .sum
  tokens_construct : ∀ phrase others,
    (construct phrase others).tokens = phrase.tokens ++ others.tokens
  depth_construct : ∀ phrase others,
    (construct phrase others).depth = max phrase.depth others.depth
  worth_construct : ∀ Value meaning phrase others,
    wholeWorth Value meaning (construct phrase others) =
      itemWorth Value meaning phrase >>= worth Value meaning others
  tokens_ofWhole : ∀ phrase, (ofWhole phrase).tokens = phrase.tokens
  value_ofWhole : ∀ {Value : Type} (meaning : Interpretation Value) phrase,
    (ofWhole phrase).value meaning = wholeWorth Value meaning phrase

namespace Sequence

variable {item repetition whole : Category} {itemWorth : Worth item}
  {worth : WorthBehind repetition} {chain : Chain itemWorth worth} {wholeWorth : Worth whole}
  (sequence : Sequence chain wholeWorth) {finish limit : Nat}
  {itemReader : (Value : Type) → Interpretation Value → Reader Value}

include sequence

/-- What fails with part of the repetition is an expression of its own. -/
theorem blamed
    {Value : Type}
    {meaning : Interpretation Value}
    {phrase : Phrase item}
    {part : Phrase repetition}
    {before beyond : List Token}
    {found : Fault}
    (derived : before = part.tokens ++ beyond)
    (failed : (itemWorth Value meaning phrase >>= worth Value meaning part) =
      .error found) :
    Blamed meaning (phrase.tokens ++ before) found := by
  refine ⟨[], sequence.ofWhole (sequence.construct phrase part), beyond, ?_, ?_⟩
  · rw [sequence.tokens_ofWhole, sequence.tokens_construct, derived, List.nil_append,
      List.append_assoc]
  · rw [sequence.value_ofWhole, sequence.worth_construct, failed]

/-- A sequence is stuck where the chain behind its item is. -/
theorem isStuck
    {phrase : Phrase item}
    {behind : List Token}
    (same : ∀ (Value : Type) (meaning : Interpretation Value),
      plain (itemReader Value meaning (phrase.tokens ++ behind)) =
        (itemWorth Value meaning phrase).map fun value => (value, behind))
    (stuck : IsStuckBehind finish worth behind fun Value meaning start =>
      plain (readChain (chain.links meaning) (itemReader Value meaning) start behind)) :
    IsStuck finish (phrase.tokens ++ behind) fun Value meaning =>
      plain (readSequence (chain.links meaning) (itemReader Value meaning)
        (phrase.tokens ++ behind)) := by
  obtain ⟨before, place, fault, rfl, syntaxFault, fails⟩ := stuck
  refine ⟨phrase.tokens ++ before, place, fault, by rw [List.append_assoc], syntaxFault, ?_⟩
  intro Value meaning
  dsimp only
  rw [plain_readSequence, same]
  cases itemValue : itemWorth Value meaning phrase with
  | error found =>
      have derived : before = chain.empty.tokens ++ before := by
        rw [chain.tokens_empty, List.nil_append]
      exact ⟨found, rfl, .inr (sequence.blamed derived (by rw [itemValue]; rfl))⟩
  | ok start =>
      obtain ⟨found, failed, cause⟩ := fails Value meaning start
      refine ⟨found, failed, ?_⟩
      rcases cause with rfl | blamed | ⟨part, beyond, derived, partFailed⟩
      · exact .inl rfl
      · exact .inr (blamed.within phrase.tokens)
      · refine .inr (sequence.blamed derived ?_)
        rw [itemValue]
        exact partFailed

/-- A sequence is taken or stuck, if its item is. -/
theorem decides
    (itemDecides : Decides finish (limit + 1) itemWorth
      fun tokens Value meaning => plain (itemReader Value meaning tokens)) :
    Decides finish (limit + 1) wholeWorth fun tokens Value meaning =>
      plain (readSequence (chain.links meaning) (itemReader Value meaning) tokens) := by
  intro tokens
  rcases itemDecides tokens with ⟨phrase, behind, rfl, shallow, same⟩ | stuck
  · dsimp only at same
    rcases chain.decides itemDecides behind with ⟨followers, rest, rfl, shallowRest, sameRest⟩ | stuck
    · refine .inl ⟨sequence.construct phrase followers, rest, ?_, ?_, ?_⟩
      · rw [sequence.tokens_construct, List.append_assoc]
      · rw [sequence.depth_construct]
        exact Nat.max_lt.mpr ⟨shallow, shallowRest⟩
      · intro Value meaning
        dsimp only
        rw [plain_readSequence, same, sequence.worth_construct]
        exact read_leaving _ fun start => sameRest Value meaning start
    · exact .inr (sequence.isStuck same stuck)
  · refine .inr (stuck.passedOn [] ?_)
    intro Value meaning found failed
    dsimp only
    rw [plain_readSequence]
    exact bind_failed failed

end Sequence

/-- A product is a signed phrase and the factors behind it. -/
def productSequence :
    Sequence factorsChain
      (fun _ meaning (phrase : Phrase .product) => phrase.value meaning) where
  construct := .product
  ofWhole := .ofProduct
  tokens_construct _ _ := rfl
  depth_construct _ _ := rfl
  worth_construct _ _ _ _ := rfl
  tokens_ofWhole := Phrase.tokens_ofProduct
  value_ofWhole := Phrase.value_ofProduct

/-- A sum is a product and the terms behind it. -/
def sumSequence :
    Sequence termsChain
      (fun _ meaning (phrase : Phrase .sum) => phrase.value meaning) where
  construct := .sum
  ofWhole := id
  tokens_construct _ _ := rfl
  depth_construct _ _ := rfl
  worth_construct _ _ _ _ := rfl
  tokens_ofWhole _ := rfl
  value_ofWhole _ _ := rfl

end Grammar

end FormulaGrid
