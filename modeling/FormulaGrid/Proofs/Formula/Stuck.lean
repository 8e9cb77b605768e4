import FormulaGrid.Proofs.Formula.Phrase

/-!
Contract: what it is for the reading of a formula to be stuck.

Owns:
- the phrases that are sums of their own (`Phrase.ofProduct` and the like);
- the faults of the grammar at a place (`Grammar.SyntaxFault`) and the faults of an
  expression that stands before it (`Grammar.Blamed`);
- the readings of tokens under every meaning at once, which take a phrase
  (`Grammar.Understands`) or are stuck at a place (`Grammar.IsStuck`).

Which phrase is taken, and where a reading is stuck, depends on the tokens alone;
only what a phrase is worth depends on the meaning. That is why the meanings come
behind the phrase and behind the place.
-/

namespace FormulaGrid

/-! ## Phrases as sums -/

namespace Phrase

/-- A product that is a sum of its own. -/
def ofProduct (phrase : Phrase .product) : Phrase .sum :=
  sum phrase noTerms

/-- A signed phrase that is a sum of its own. -/
def ofSigned (phrase : Phrase .signed) : Phrase .sum :=
  ofProduct (product phrase noFactors)

/-- A postfixed phrase that is a sum of its own. -/
def ofPostfixed (phrase : Phrase .postfixed) : Phrase .sum :=
  ofSigned (unsigned (unraised phrase))

@[simp] theorem tokens_ofProduct (phrase : Phrase .product) :
    (ofProduct phrase).tokens = phrase.tokens :=
  List.append_nil _

@[simp] theorem tokens_ofSigned (phrase : Phrase .signed) :
    (ofSigned phrase).tokens = phrase.tokens := by
  rw [ofSigned, tokens_ofProduct]
  exact List.append_nil _

@[simp] theorem tokens_ofPostfixed (phrase : Phrase .postfixed) :
    (ofPostfixed phrase).tokens = phrase.tokens := by
  rw [ofPostfixed, tokens_ofSigned]
  rfl

section Value

variable {Value : Type} (meaning : Interpretation Value)

@[simp] theorem value_ofProduct (phrase : Phrase .product) :
    (ofProduct phrase).value meaning = phrase.value meaning := by
  show (phrase.value meaning >>= Except.ok) = _
  cases phrase.value meaning <;> rfl

@[simp] theorem value_ofSigned (phrase : Phrase .signed) :
    (ofSigned phrase).value meaning = phrase.value meaning := by
  rw [ofSigned, value_ofProduct]
  show (phrase.value meaning >>= Except.ok) = _
  cases phrase.value meaning <;> rfl

@[simp] theorem value_ofPostfixed (phrase : Phrase .postfixed) :
    (ofPostfixed phrase).value meaning = phrase.value meaning := by
  rw [ofPostfixed, value_ofSigned]
  rfl

end Value

end Phrase

namespace Grammar

/-- What would go on behind a failure is not reached. -/
theorem bind_failed
    {First Second : Type}
    {outcome : Except Fault First}
    {next : First → Except Fault Second}
    {fault : Fault}
    (failed : outcome = .error fault) :
    outcome >>= next = .error fault := by
  rw [failed]
  rfl

/-! ## Faults of the grammar and of what stands before them -/

/-- A fault that the grammar finds in front of the given tokens. -/
inductive SyntaxFault (finish : Nat) (stuck : List Token) : Fault → Prop where
  | unexpected (wanted : Wanted) : SyntaxFault finish stuck (unexpected finish wanted stuck)
  | tooDeep : SyntaxFault finish stuck (.formula (.nestedTooDeep (nextPosition finish stuck)))

/-- The fault is that of a whole expression among the given tokens. -/
def Blamed
    {Value : Type}
    (meaning : Interpretation Value)
    (before : List Token)
    (fault : Fault) :
    Prop :=
  ∃ (ahead : List Token) (expression : Phrase .sum) (behind : List Token),
    before = ahead ++ (expression.tokens ++ behind) ∧
      expression.value meaning = .error fault

/-- An expression among some tokens is among more of them. -/
theorem Blamed.within
    {Value : Type}
    {meaning : Interpretation Value}
    {before : List Token}
    {fault : Fault}
    (blamed : Blamed meaning before fault)
    (further : List Token) :
    Blamed meaning (further ++ before) fault := by
  obtain ⟨ahead, expression, behind, rfl, fails⟩ := blamed
  exact ⟨further ++ ahead, expression, behind, by rw [List.append_assoc], fails⟩

/-- The readings of the same tokens under every meaning. -/
abbrev Readings :=
  (Value : Type) → Interpretation Value → Except Fault (Value × List Token)

/-- What a phrase of a category is worth under every meaning. -/
abbrev Worth (category : Category) :=
  (Value : Type) → Interpretation Value → Phrase category → Except Fault Value

/-- A phrase of the category, not nested too deep, is taken from the front. -/
def Understands
    {category : Category}
    (limit : Nat)
    (worth : Worth category)
    (tokens : List Token)
    (readings : Readings) :
    Prop :=
  ∃ (phrase : Phrase category) (rest : List Token),
    tokens = phrase.tokens ++ rest ∧
      phrase.depth < limit ∧
      ∀ (Value : Type) (meaning : Interpretation Value),
        readings Value meaning = (worth Value meaning phrase).map fun value => (value, rest)

/-- The readings come no further than a place. Each ends with the grammar's fault
there, or before that with the fault of an expression that it has read. -/
def IsStuck (finish : Nat) (tokens : List Token) (readings : Readings) : Prop :=
  ∃ (before stuck : List Token) (fault : Fault),
    tokens = before ++ stuck ∧
      SyntaxFault finish stuck fault ∧
      ∀ (Value : Type) (meaning : Interpretation Value),
        ∃ found, readings Value meaning = .error found ∧
          (found = fault ∨ Blamed meaning before found)

/-- A reader takes a phrase of its category or is stuck. -/
def Decides
    {category : Category}
    (finish limit : Nat)
    (worth : Worth category)
    (readings : List Token → Readings) :
    Prop :=
  ∀ tokens : List Token,
    Understands limit worth tokens (readings tokens) ∨ IsStuck finish tokens (readings tokens)

namespace IsStuck

variable {finish : Nat} {tokens : List Token} {readings next : Readings}

/-- Stuck at once. -/
theorem here
    {fault : Fault}
    (syntaxFault : SyntaxFault finish tokens fault)
    (fails : ∀ Value meaning, readings Value meaning = .error fault) :
    IsStuck finish tokens readings :=
  ⟨[], tokens, fault, rfl, syntaxFault, fun Value meaning =>
    ⟨fault, fails Value meaning, .inl rfl⟩⟩

/-- What passes the faults of a stuck reading on is stuck at the same place. -/
theorem passedOn
    (stuck : IsStuck finish tokens readings)
    (ahead : List Token)
    (passes : ∀ Value meaning found,
      readings Value meaning = .error found → next Value meaning = .error found) :
    IsStuck finish (ahead ++ tokens) next := by
  obtain ⟨before, place, fault, rfl, syntaxFault, fails⟩ := stuck
  refine ⟨ahead ++ before, place, fault, by rw [List.append_assoc], syntaxFault, ?_⟩
  intro Value meaning
  obtain ⟨found, failed, cause⟩ := fails Value meaning
  exact ⟨found, passes Value meaning found failed, cause.imp_right fun blamed =>
    blamed.within ahead⟩

/-- Behind an expression, the fault of the expression comes first. -/
theorem behind
    {whole : List Token}
    (stuck : IsStuck finish tokens readings)
    (expression : Phrase .sum)
    (derived : whole = expression.tokens ++ tokens)
    (first : ∀ Value meaning found,
      expression.value meaning = .error found → next Value meaning = .error found)
    (second : ∀ Value meaning value found,
      expression.value meaning = .ok value →
        readings Value meaning = .error found → next Value meaning = .error found) :
    IsStuck finish whole next := by
  obtain ⟨before, place, fault, rfl, syntaxFault, fails⟩ := stuck
  refine ⟨expression.tokens ++ before, place, fault, by rw [derived, List.append_assoc],
    syntaxFault, ?_⟩
  intro Value meaning
  cases worth : expression.value meaning with
  | error found =>
      exact ⟨found, first Value meaning found worth,
        .inr ⟨[], expression, before, rfl, worth⟩⟩
  | ok value =>
      obtain ⟨found, failed, cause⟩ := fails Value meaning
      exact ⟨found, second Value meaning value found worth failed, cause.imp_right fun blamed =>
        blamed.within expression.tokens⟩

end IsStuck

end Grammar

end FormulaGrid
