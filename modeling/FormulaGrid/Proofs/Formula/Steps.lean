import FormulaGrid.Proofs.Formula.Phrase
import FormulaGrid.Proofs.Outcome

/-!
Contract: what each reader of the grammar does, one construct at a time.

Owns:
- a reading without the proof that tokens were taken (`Grammar.plain`);
- one equation for each reader: the readers that it calls, and what it does with
  what they leave;
- a repetition ends in front of what does not go on it.

Does not own: which phrases are read. The equations are all that the proofs about
the readers know of them.
-/

namespace FormulaGrid

namespace Grammar

variable {Value : Type}

/-- What was read and what is left, without the proof that tokens were taken. -/
def plain
    {Taken : List Token → Prop}
    (outcome : Except Fault (Value × { rest : List Token // Taken rest })) :
    Except Fault (Value × List Token) :=
  outcome.map fun read => (read.1, read.2.val)

/-- What a reading without proofs leaves was left with its proof. -/
theorem taken_of_plain
    {Taken : List Token → Prop}
    {outcome : Except Fault (Value × { rest : List Token // Taken rest })}
    {read : Value × List Token}
    (found : plain outcome = .ok read) :
    Taken read.2 := by
  obtain ⟨kept, -, rfl⟩ := exists_of_map_eq_ok found
  exact kept.2.property

section Plain

variable {Taken Left : List Token → Prop}

/-- A proof about what is left is forgotten, whatever it was. -/
theorem plain_weaken
    (outcome : Except Fault (Value × { rest : List Token // Taken rest }))
    (weaken : ∀ rest : { rest : List Token // Taken rest }, Left rest.val) :
    plain (outcome >>= fun read => pure (read.1, ⟨read.2.val, weaken read.2⟩)) =
      plain outcome := by
  cases outcome <;> rfl

/-- A value behind which a given rest is left. -/
theorem plain_leaving
    (outcome : Except Fault Value)
    (rest : { rest : List Token // Taken rest }) :
    plain (outcome >>= fun value => pure (value, rest)) =
      outcome.map fun value => (value, rest.val) := by
  cases outcome <;> rfl

/-- What goes on behind a reading knows only its plain form. -/
theorem plain_bind
    {Given : List Token → Prop}
    (outcome : Except Fault (Value × { rest : List Token // Given rest }))
    (next : Value × { rest : List Token // Given rest } →
      Except Fault (Value × { rest : List Token // Taken rest }))
    (plainNext : Value × List Token → Except Fault (Value × List Token))
    (same : ∀ read, plain (next read) = plainNext (read.1, read.2.val)) :
    plain (outcome >>= next) = plain outcome >>= plainNext := by
  cases outcome with
  | error fault => rfl
  | ok read => exact same read

end Plain

variable (meaning : Interpretation Value) (finish : Nat) (inner : Level Value)

/-! ## Groups, bars and arguments -/

/-- Behind the inside of a group its closing parenthesis is taken. -/
def closeGroup (read : Value × List Token) : Except Fault (Value × List Token) :=
  match read.2 with
  | ⟨.rightParenthesis, _, _⟩ :: others => .ok (read.1, others)
  | others => .error (unexpected finish .closingParenthesis others)

/-- A group is a sum and its closing parenthesis. -/
theorem plain_readGroup (tokens : List Token) :
    plain (readGroup finish inner tokens) =
      plain (inner.sum tokens) >>= closeGroup finish := by
  apply plain_bind
  intro read
  obtain ⟨value, ⟨_ | ⟨⟨lexeme, text, position⟩, others⟩, shorter⟩⟩ := read
  · rfl
  · cases lexeme <;> rfl

/-- Behind the inside of a bar pair its closing bar is taken. -/
def closeBars (read : Value × List Token) : Except Fault (Value × List Token) :=
  match read.2 with
  | ⟨.bar, _, _⟩ :: others => .ok (meaning.absolute read.1, others)
  | others => .error (unexpected finish .closingBar others)

theorem plain_readBars (tokens : List Token) :
    plain (readBars meaning finish inner tokens) =
      plain (inner.sum tokens) >>= closeBars meaning finish := by
  apply plain_bind
  intro read
  obtain ⟨value, ⟨_ | ⟨⟨lexeme, text, position⟩, others⟩, shorter⟩⟩ := read
  · rfl
  · cases lexeme <;> rfl

theorem plain_readArgument (name : FunctionName) (tokens : List Token) :
    plain (readArgument finish inner name tokens) =
      match tokens with
      | ⟨.leftParenthesis, _, _⟩ :: others => plain (readGroup finish inner others)
      | others => .error (unexpected finish (.argumentOf name.word) others) := by
  rcases tokens with _ | ⟨⟨lexeme, text, position⟩, others⟩
  · rfl
  · cases lexeme with
    | leftParenthesis => exact plain_weaken (readGroup finish inner others) _
    | _ => rfl

/-! ## Primaries and postfixes -/

/-- The first token tells which primary it is. -/
theorem plain_readPrimary (token : Token) (others : List Token) :
    plain (readPrimary meaning finish inner (token :: others)) =
      match token.lexeme with
      | .number value | .constant value =>
          (meaning.literal token value).map fun value => (value, others)
      | .leftParenthesis => plain (readGroup finish inner others)
      | .bar => plain (readBars meaning finish inner others)
      | .function name power base =>
          plain (readArgument finish inner name others) >>= fun read =>
            (meaning.apply name power base read.1).map fun value => (value, read.2)
      | .root index =>
          plain (inner.postfixed others) >>= fun read =>
            (meaning.root index read.1).map fun value => (value, read.2)
      | _ => .error (unexpected finish .operand (token :: others)) := by
  obtain ⟨lexeme, text, position⟩ := token
  unfold readPrimary
  cases lexeme with
  | number value | constant value => exact plain_leaving _ _
  | leftParenthesis => exact plain_weaken (readGroup finish inner others) _
  | bar => exact plain_weaken (readBars meaning finish inner others) _
  | function name power base =>
      exact plain_bind (readArgument finish inner name others) _ _
        fun read => plain_leaving _ _
  | root index =>
      exact plain_bind (inner.postfixed others) _ _ fun read => plain_leaving _ _
  | operator | factorial | superscript | rightParenthesis => rfl

/-- The postfixes behind a value are taken one by one. -/
theorem plain_readPostfixes (value : Value) (tokens : List Token) :
    plain (readPostfixes meaning value tokens) =
      match tokens with
      | ⟨.factorial, _, _⟩ :: others =>
          meaning.factorial value >>= fun value =>
            plain (readPostfixes meaning value others)
      | ⟨.superscript exponent, _, _⟩ :: others =>
          meaning.superscript value exponent >>= fun value =>
            plain (readPostfixes meaning value others)
      | others => .ok (value, others) := by
  rcases tokens with _ | ⟨⟨lexeme, text, position⟩, others⟩
  · rfl
  · rw [readPostfixes]
    cases lexeme with
    | factorial =>
        dsimp only
        cases meaning.factorial value with
        | error fault => rfl
        | ok value => exact plain_weaken (readPostfixes meaning value others) _
    | superscript exponent =>
        dsimp only
        cases meaning.superscript value exponent with
        | error fault => rfl
        | ok value => exact plain_weaken (readPostfixes meaning value others) _
    | _ => rfl

/-- A postfixed value is a primary and the postfixes behind it. -/
theorem plain_readPostfixed (tokens : List Token) :
    plain (readPostfixed meaning finish inner tokens) =
      plain (readPrimary meaning finish inner tokens) >>= fun read =>
        plain (readPostfixes meaning read.1 read.2) := by
  apply plain_bind
  intro read
  exact plain_weaken (readPostfixes meaning read.1 read.2.val) _

/-! ## Powers and signs -/

/-- Behind a base its exponent is taken, if a power sign follows. -/
def raiseBase (read : Value × List Token) : Except Fault (Value × List Token) :=
  match read.2 with
  | ⟨.operator .power, _, _⟩ :: others =>
      plain (inner.signed others) >>= fun exponent =>
        (meaning.raise read.1 exponent.1).map fun value => (value, exponent.2)
  | others => .ok (read.1, others)

/-- A power is a postfixed value and the exponent behind it. -/
theorem plain_readPower (tokens : List Token) :
    plain (readPower meaning finish inner tokens) =
      plain (readPostfixed meaning finish inner tokens) >>= raiseBase meaning inner := by
  apply plain_bind
  intro read
  obtain ⟨value, ⟨_ | ⟨⟨lexeme, text, position⟩, others⟩, shorter⟩⟩ := read
  · rfl
  · cases lexeme with
    | operator symbol =>
        cases symbol with
        | power =>
            exact plain_bind (inner.signed others) _ _ fun exponent => plain_leaving _ _
        | _ => rfl
    | _ => rfl

/-- A minus sign is taken with the signed value behind it. -/
theorem plain_readSigned (tokens : List Token) :
    plain (readSigned meaning finish inner tokens) =
      match tokens with
      | ⟨.operator .minus, _, _⟩ :: others =>
          plain (inner.signed others) >>= fun read =>
            .ok (meaning.negate read.1, read.2)
      | others => plain (readPower meaning finish inner others) := by
  rcases tokens with _ | ⟨⟨lexeme, text, position⟩, others⟩
  · rfl
  · cases lexeme with
    | operator symbol =>
        cases symbol with
        | minus => exact plain_bind (inner.signed others) _ _ fun read => rfl
        | _ => rfl
    | _ => rfl

/-! ## Products and sums -/

section Chains

variable (links : Links Value) (item : Reader Value)

/-- A chain goes on behind a token that it goes on by, and ends in front of any other. -/
theorem plain_readChain (value : Value) (token : Token) (others : List Token) :
    plain (readChain links item value (token :: others)) =
      match links token with
      | none => .ok (value, token :: others)
      | some combine =>
          plain (item others) >>= fun read =>
            combine value read.1 >>= fun value =>
              plain (readChain links item value read.2) := by
  rw [readChain]
  cases links token with
  | none => rfl
  | some combine =>
      refine plain_bind (item others) _ _ fun read => ?_
      dsimp only
      cases combine value read.1 with
      | error fault => rfl
      | ok value => exact plain_weaken (readChain links item value _) _

theorem plain_readChain_nil (value : Value) :
    plain (readChain links item value []) = .ok (value, []) := by
  rw [readChain]
  rfl

theorem plain_readSequence (tokens : List Token) :
    plain (readSequence links item tokens) =
      plain (item tokens) >>= fun read => plain (readChain links item read.1 read.2) := by
  apply plain_bind
  intro read
  exact plain_weaken (readChain links item read.1 read.2.val) _

/-- The chain goes on by the tokens of one bond. -/
def Links.Bind (bond : Nat) : Prop :=
  ∀ token, (links token).isSome = true ↔ token.lexeme.bond = bond

variable {links item}

/-- It ends in front of what closes what the tokens of the bond go on. -/
theorem Links.Bind.ends
    {bond : Nat}
    (bind : Links.Bind links bond)
    {tokens : List Token}
    (closes : Closes bond tokens) :
    ∀ token ∈ tokens.head?, links token = none := by
  intro token isFirst
  cases tokens with
  | nil => cases isFirst
  | cons first others =>
      cases isFirst
      refine Option.not_isSome_iff_eq_none.mp fun linked => ?_
      exact absurd ((bind token).mp linked) (Nat.ne_of_lt closes)

/-- What follows where the chain ends, and goes on a looser phrase at most, closes it. -/
theorem Links.Bind.closes
    {bond : Nat}
    (bind : Links.Bind links bond)
    {tokens : List Token}
    (ends : ∀ token ∈ tokens.head?, links token = none)
    (looser : Closes (bond + 1) tokens) :
    Closes bond tokens := by
  cases tokens with
  | nil => trivial
  | cons token others =>
      refine looser.tighten fun same => ?_
      have goesOn := (bind token).mpr same
      rw [ends token rfl] at goesOn
      cases goesOn

theorem plain_readChain_link
    {token : Token}
    {combine : Value → Value → Except Fault Value}
    (goesOn : links token = some combine)
    (value : Value)
    (others : List Token) :
    plain (readChain links item value (token :: others)) =
      plain (item others) >>= fun read =>
        combine value read.1 >>= fun value => plain (readChain links item value read.2) := by
  rw [plain_readChain, goesOn]

theorem plain_readChain_ends
    {tokens : List Token}
    (ends : ∀ token ∈ tokens.head?, links token = none)
    (value : Value) :
    plain (readChain links item value tokens) = .ok (value, tokens) := by
  cases tokens with
  | nil => exact plain_readChain_nil links item value
  | cons token others => rw [plain_readChain, ends token rfl]

universe u

/-- Induction along a chain. What holds where no link follows, and holds of a link if it
holds of all that may be left behind the item of the link, holds of all tokens. -/
theorem chain_induction
    {Link : Token → Type u}
    (linkAt : (token : Token) → Option (Link token))
    {Holds : List Token → Prop}
    (ends : ∀ tokens, (∀ token ∈ tokens.head?, linkAt token = none) → Holds tokens)
    (goesOn : ∀ token others link, linkAt token = some link →
      (∀ rest : List Token, rest.length ≤ others.length → Holds rest) →
      Holds (token :: others))
    (tokens : List Token) :
    Holds tokens := by
  induction length : tokens.length using Nat.strongRecOn generalizing tokens with
  | ind length inductionHypothesis =>
      subst length
      cases tokens with
      | nil => exact ends [] nofun
      | cons token others =>
          cases linked : linkAt token with
          | none => exact ends _ (by rintro _ ⟨⟩; exact linked)
          | some link =>
              exact goesOn token others link linked fun rest shorter =>
                inductionHypothesis _ (Nat.lt_succ_of_le shorter) rest rfl

end Chains

/-- Terms go on by the tokens of their bond. -/
theorem bind_terms : Links.Bind meaning.terms Category.terms.bond := by
  rintro ⟨lexeme, text, position⟩
  cases lexeme with
  | operator symbol => cases symbol <;> simp [Interpretation.terms, Lexeme.bond, Category.bond]
  | _ => simp [Interpretation.terms, Lexeme.bond, Category.bond]

theorem bind_factors : Links.Bind meaning.factors Category.factors.bond := by
  rintro ⟨lexeme, text, position⟩
  cases lexeme with
  | operator symbol => cases symbol <;> simp [Interpretation.factors, Lexeme.bond, Category.bond]
  | _ => simp [Interpretation.factors, Lexeme.bond, Category.bond]

end Grammar

end FormulaGrid
