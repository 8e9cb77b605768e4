import FormulaGrid.Proofs.Formula.GreedyRoots
import FormulaGrid.Proofs.Formula.Repetition

/-!
Contract: in front of any tokens a reader takes a phrase of its category and has that
phrase's value, or it is stuck at a place.

Owns:
- the readers of a level, each of which does so (`Grammar.LevelDecides`);
- the step from one level to the level around it, category by category;
- the readers of every level (`Grammar.levelDecides_above`).

Does not own: which of several phrases is taken. The readers take greedy ones, but
that follows from completeness and unique reading.
-/

namespace FormulaGrid

namespace Grammar

/-- The readers of a level, each of which takes a phrase or is stuck. -/
structure LevelDecides
    (finish limit : Nat)
    (level : (Value : Type) → Interpretation Value → Level Value) : Prop where
  sum : Decides finish limit (fun _ meaning (phrase : Phrase .sum) => phrase.value meaning)
    fun tokens Value meaning => plain ((level Value meaning).sum tokens)
  signed : Decides finish limit (fun _ meaning (phrase : Phrase .signed) => phrase.value meaning)
    fun tokens Value meaning => plain ((level Value meaning).signed tokens)
  postfixed : Decides finish limit
    (fun _ meaning (phrase : Phrase .postfixed) => phrase.value meaning)
    fun tokens Value meaning => plain ((level Value meaning).postfixed tokens)

section Level

variable {finish limit : Nat} {level : (Value : Type) → Interpretation Value → Level Value}
  (inner : LevelDecides finish limit level)

/-! ## Groups, bars and arguments -/

/-- Behind the inside of a group stands its closing parenthesis, or a fault. -/
theorem closeGroup_cases (finish : Nat) (rest : List Token) :
    (∃ (closing : Mark) (others : List Token),
      rest = closing.token .rightParenthesis :: others ∧
        ∀ {Value : Type} (value : Value),
          closeGroup finish (value, rest) = .ok (value, others)) ∨
      ∀ {Value : Type} (value : Value), closeGroup finish (value, rest) =
        .error (unexpected finish .closingParenthesis rest) := by
  rcases rest with _ | ⟨⟨lexeme, text, position⟩, others⟩
  · exact .inr fun _ => rfl
  · cases lexeme with
    | rightParenthesis => exact .inl ⟨⟨text, position⟩, others, rfl, fun _ => rfl⟩
    | _ => exact .inr fun _ => rfl

theorem closeBars_cases (finish : Nat) (rest : List Token) :
    (∃ (closing : Mark) (others : List Token),
      rest = closing.token .bar :: others ∧
        ∀ {Value : Type} (meaning : Interpretation Value) (value : Value),
          closeBars meaning finish (value, rest) = .ok (meaning.absolute value, others)) ∨
      ∀ {Value : Type} (meaning : Interpretation Value) (value : Value),
        closeBars meaning finish (value, rest) =
          .error (unexpected finish .closingBar rest) := by
  rcases rest with _ | ⟨⟨lexeme, text, position⟩, others⟩
  · exact .inr fun _ _ => rfl
  · cases lexeme with
    | bar => exact .inl ⟨⟨text, position⟩, others, rfl, fun _ _ => rfl⟩
    | _ => exact .inr fun _ _ => rfl

include inner in
theorem decides_group (tokens : List Token) :
    (∃ (phrase : Phrase .sum) (closing : Mark) (rest : List Token),
      tokens = phrase.tokens ++ closing.token .rightParenthesis :: rest ∧
        phrase.depth < limit ∧
        ∀ (Value : Type) (meaning : Interpretation Value),
          plain (readGroup finish (level Value meaning) tokens) =
            (phrase.value meaning).map fun value => (value, rest)) ∨
      IsStuck finish tokens fun Value meaning =>
        plain (readGroup finish (level Value meaning) tokens) := by
  rcases inner.sum tokens with ⟨phrase, rest, rfl, shallow, same⟩ | stuck
  · dsimp only at same
    rcases closeGroup_cases finish rest with ⟨closing, others, rfl, closes⟩ | fails
    · refine .inl ⟨phrase, closing, others, rfl, shallow, ?_⟩
      intro Value meaning
      rw [plain_readGroup, same]
      cases phrase.value meaning with
      | error fault => rfl
      | ok value => exact closes value
    · refine .inr
        (.behind (.here (.unexpected .closingParenthesis) fun _ _ => rfl) phrase rfl ?_ ?_)
      · intro Value meaning found worth
        rw [plain_readGroup, same, worth]
        rfl
      · intro Value meaning value found worth failed
        rw [plain_readGroup, same, worth]
        exact (fails value).trans failed
  · refine .inr (stuck.passedOn [] ?_)
    intro Value meaning found failed
    rw [plain_readGroup]
    exact bind_failed failed

include inner in
theorem decides_bars (tokens : List Token) :
    (∃ (phrase : Phrase .sum) (closing : Mark) (rest : List Token),
      tokens = phrase.tokens ++ closing.token .bar :: rest ∧
        phrase.depth < limit ∧
        ∀ (Value : Type) (meaning : Interpretation Value),
          plain (readBars meaning finish (level Value meaning) tokens) =
            (phrase.value meaning).map fun value => (meaning.absolute value, rest)) ∨
      IsStuck finish tokens fun Value meaning =>
        plain (readBars meaning finish (level Value meaning) tokens) := by
  rcases inner.sum tokens with ⟨phrase, rest, rfl, shallow, same⟩ | stuck
  · dsimp only at same
    rcases closeBars_cases finish rest with ⟨closing, others, rfl, closes⟩ | fails
    · refine .inl ⟨phrase, closing, others, rfl, shallow, ?_⟩
      intro Value meaning
      rw [plain_readBars, same]
      cases phrase.value meaning with
      | error fault => rfl
      | ok value => exact closes meaning value
    · refine .inr (.behind (.here (.unexpected .closingBar) fun _ _ => rfl) phrase rfl ?_ ?_)
      · intro Value meaning found worth
        rw [plain_readBars, same, worth]
        rfl
      · intro Value meaning value found worth failed
        rw [plain_readBars, same, worth]
        exact (fails meaning value).trans failed
  · refine .inr (stuck.passedOn [] ?_)
    intro Value meaning found failed
    rw [plain_readBars]
    exact bind_failed failed

include inner in
theorem decides_argument (name : FunctionName) (tokens : List Token) :
    (∃ (opening : Mark) (phrase : Phrase .sum) (closing : Mark) (rest : List Token),
      tokens = opening.token .leftParenthesis ::
          (phrase.tokens ++ closing.token .rightParenthesis :: rest) ∧
        phrase.depth < limit ∧
        ∀ (Value : Type) (meaning : Interpretation Value),
          plain (readArgument finish (level Value meaning) name tokens) =
            (phrase.value meaning).map fun value => (value, rest)) ∨
      IsStuck finish tokens fun Value meaning =>
        plain (readArgument finish (level Value meaning) name tokens) := by
  simp only [plain_readArgument]
  rcases tokens with _ | ⟨⟨lexeme, text, position⟩, others⟩
  · exact .inr (.here (.unexpected (.argumentOf name.word)) fun _ _ => rfl)
  · cases lexeme with
    | leftParenthesis =>
        rcases decides_group inner others with ⟨phrase, closing, rest, rfl, shallow, same⟩ | stuck
        · exact .inl ⟨⟨text, position⟩, phrase, closing, rest, rfl, shallow, same⟩
        · exact .inr (stuck.passedOn [_] fun _ _ _ failed => failed)
    | _ => exact .inr (.here (.unexpected (.argumentOf name.word)) fun _ _ => rfl)

/-! ## Primaries and postfixes -/

include inner in
/-- A primary is taken, or the reading of it is stuck. -/
theorem decides_primary :
    Decides finish (limit + 1) (fun _ meaning (phrase : Phrase .primary) => phrase.value meaning)
      fun tokens Value meaning =>
        plain (readPrimary meaning finish (level Value meaning) tokens) := by
  intro tokens
  rcases tokens with _ | ⟨⟨lexeme, text, position⟩, others⟩
  · exact .inr (.here (.unexpected .operand) fun _ _ => rfl)
  · simp only [plain_readPrimary]
    cases lexeme with
    | number value =>
        exact .inl ⟨.number ⟨text, position⟩ value, others, rfl, Nat.succ_pos _,
          fun _ _ => rfl⟩
    | constant value =>
        exact .inl ⟨.constant ⟨text, position⟩ value, others, rfl, Nat.succ_pos _,
          fun _ _ => rfl⟩
    | leftParenthesis =>
        rcases decides_group inner others with ⟨phrase, closing, rest, rfl, shallow, same⟩ | stuck
        · refine .inl ⟨.group ⟨text, position⟩ phrase closing, rest, ?_,
            Nat.succ_lt_succ shallow, same⟩
          simp [Phrase.tokens, Mark.token]
        · exact .inr (stuck.passedOn [_] fun _ _ _ failed => failed)
    | bar =>
        rcases decides_bars inner others with ⟨phrase, closing, rest, rfl, shallow, same⟩ | stuck
        · refine .inl ⟨.bars ⟨text, position⟩ phrase closing, rest, ?_,
            Nat.succ_lt_succ shallow, ?_⟩
          · simp [Phrase.tokens, Mark.token]
          · intro Value meaning
            dsimp only
            rw [same, Phrase.value]
            cases phrase.value meaning <;> rfl
        · exact .inr (stuck.passedOn [_] fun _ _ _ failed => failed)
    | function name power base =>
        rcases decides_argument inner name others with
          ⟨opening, phrase, closing, rest, rfl, shallow, same⟩ | stuck
        · refine .inl ⟨.application ⟨text, position⟩ name power base opening phrase closing,
            rest, ?_, Nat.succ_lt_succ shallow, ?_⟩
          · simp [Phrase.tokens, Mark.token]
          · intro Value meaning
            dsimp only
            rw [same, Phrase.value]
            exact read_leaving _ fun argument => rfl
        · exact .inr (stuck.passedOn [_] fun _ _ _ failed => bind_failed failed)
    | root index =>
        rcases inner.postfixed others with ⟨phrase, rest, rfl, shallow, same⟩ | stuck
        · refine .inl ⟨.root ⟨text, position⟩ index phrase, rest, rfl,
            Nat.succ_lt_succ shallow, ?_⟩
          intro Value meaning
          dsimp only at same ⊢
          rw [same, Phrase.value]
          exact read_leaving _ fun radicand => rfl
        · exact .inr (stuck.passedOn [_] fun _ _ _ failed => bind_failed failed)
    | operator | factorial | superscript | rightParenthesis =>
        exact .inr (.here (.unexpected .operand) fun _ _ => rfl)

/-- The postfixes behind a value are taken; nothing is stuck there. -/
theorem understands_postfixes (tokens : List Token) :
    ∃ (phrase : Phrase .postfixes) (rest : List Token),
      tokens = phrase.tokens ++ rest ∧
        ∀ (Value : Type) (meaning : Interpretation Value) (start : Value),
          plain (readPostfixes meaning start tokens) =
            (phrase.value meaning start).map fun value => (value, rest) := by
  induction tokens with
  | nil => exact ⟨.noPostfixes, [], rfl, fun _ _ _ => rfl⟩
  | cons token others inductionHypothesis =>
      obtain ⟨lexeme, text, position⟩ := token
      obtain ⟨phrase, rest, rfl, same⟩ := inductionHypothesis
      cases lexeme with
      | factorial =>
          refine ⟨.factorial ⟨text, position⟩ phrase, rest, rfl, ?_⟩
          intro Value meaning start
          rw [plain_readPostfixes]
          exact bind_leaving _ fun value => same Value meaning value
      | superscript exponent =>
          refine ⟨.superscript ⟨text, position⟩ exponent phrase, rest, rfl, ?_⟩
          intro Value meaning start
          rw [plain_readPostfixes]
          exact bind_leaving _ fun value => same Value meaning value
      | _ => exact ⟨.noPostfixes, _, rfl, fun _ _ _ => rfl⟩

include inner in
/-- A postfixed phrase is taken, or the reading of it is stuck. -/
theorem decides_postfixed :
    Decides finish (limit + 1) (fun _ meaning (phrase : Phrase .postfixed) => phrase.value meaning)
      fun tokens Value meaning =>
        plain (readPostfixed meaning finish (level Value meaning) tokens) := by
  intro tokens
  simp only [plain_readPostfixed]
  rcases decides_primary inner tokens with ⟨first, behind, rfl, shallow, same⟩ | stuck
  · obtain ⟨others, rest, rfl, sameOthers⟩ := understands_postfixes behind
    refine .inl ⟨.postfixed first others, rest, ?_, ?_, ?_⟩
    · rw [Phrase.tokens, List.append_assoc]
    · rw [Phrase.depth, Phrase.depth_postfixes, Nat.max_zero]
      exact shallow
    · intro Value meaning
      dsimp only at same ⊢
      rw [same, Phrase.value]
      exact read_leaving _ fun start => sameOthers Value meaning start
  · exact .inr (stuck.passedOn [] fun _ _ _ failed => bind_failed failed)

/-! ## Powers and signs -/

/-- Behind a base stands a power sign, or the base is all. -/
theorem raiseBase_cases (rest : List Token) :
    (∃ (sign : Mark) (others : List Token),
      rest = sign.token (.operator .power) :: others) ∨
      ∀ {Value : Type} (meaning : Interpretation Value) (inner : Level Value) (base : Value),
        raiseBase meaning inner (base, rest) = .ok (base, rest) := by
  rcases rest with _ | ⟨⟨lexeme, text, position⟩, others⟩
  · exact .inr fun _ _ _ => rfl
  · cases lexeme with
    | operator symbol =>
        cases symbol with
        | power => exact .inl ⟨⟨text, position⟩, others, rfl⟩
        | _ => exact .inr fun _ _ _ => rfl
    | _ => exact .inr fun _ _ _ => rfl

include inner in
theorem decides_power :
    Decides finish (limit + 1) (fun _ meaning (phrase : Phrase .power) => phrase.value meaning)
      fun tokens Value meaning =>
        plain (readPower meaning finish (level Value meaning) tokens) := by
  intro tokens
  simp only [plain_readPower]
  rcases decides_postfixed inner tokens with ⟨base, behind, rfl, shallow, same⟩ | stuck
  · dsimp only at same
    rcases raiseBase_cases behind with ⟨sign, others, rfl⟩ | closes
    · rcases inner.signed others with ⟨exponent, rest, rfl, shallowExponent, sameExponent⟩ | stuck
      · refine .inl ⟨.raised base sign exponent, rest, ?_, ?_, ?_⟩
        · rw [Phrase.tokens, List.append_assoc, List.cons_append]
        · exact Nat.max_lt.mpr ⟨shallow, Nat.succ_lt_succ shallowExponent⟩
        · intro Value meaning
          dsimp only at sameExponent ⊢
          rw [same, Phrase.value]
          refine read_leaving _ fun lower => ?_
          rw [raiseBase, Mark.token]
          dsimp only
          rw [sameExponent]
          exact read_leaving _ fun upper => rfl
      · have signStuck := stuck.passedOn [sign.token (.operator .power)]
          fun _ _ _ failed => failed
        refine .inr (signStuck.behind (.ofPostfixed base) ?_ ?_ ?_)
        · rw [Phrase.tokens_ofPostfixed, List.singleton_append]
        · intro Value meaning found worth
          rw [Phrase.value_ofPostfixed] at worth
          rw [same, worth]
          rfl
        · intro Value meaning value found worth failed
          rw [Phrase.value_ofPostfixed] at worth
          rw [same, worth]
          show plain ((level Value meaning).signed others) >>= _ = _
          exact bind_failed failed
    · refine .inl ⟨.unraised base, behind, rfl, shallow, ?_⟩
      intro Value meaning
      dsimp only
      rw [same, Phrase.value]
      cases base.value meaning with
      | error fault => rfl
      | ok value => exact closes meaning (level Value meaning) value
  · exact .inr (stuck.passedOn [] fun _ _ _ failed => bind_failed failed)

/-- In front stands a minus sign, or no sign is taken. -/
theorem readSigned_cases (finish : Nat) (tokens : List Token) :
    (∃ (sign : Mark) (others : List Token),
      tokens = sign.token (.operator .minus) :: others) ∨
      ∀ {Value : Type} (meaning : Interpretation Value) (inner : Level Value),
        plain (readSigned meaning finish inner tokens) =
          plain (readPower meaning finish inner tokens) := by
  rcases tokens with _ | ⟨⟨lexeme, text, position⟩, others⟩
  · exact .inr fun _ _ => rfl
  · cases lexeme with
    | operator symbol =>
        cases symbol with
        | minus => exact .inl ⟨⟨text, position⟩, others, rfl⟩
        | _ => exact .inr fun _ _ => rfl
    | _ => exact .inr fun _ _ => rfl

include inner in
theorem decides_signed :
    Decides finish (limit + 1) (fun _ meaning (phrase : Phrase .signed) => phrase.value meaning)
      fun tokens Value meaning =>
        plain (readSigned meaning finish (level Value meaning) tokens) := by
  intro tokens
  rcases readSigned_cases finish tokens with ⟨sign, others, rfl⟩ | closes
  · simp only [plain_readSigned, Mark.token]
    rcases inner.signed others with ⟨operand, rest, rfl, shallow, same⟩ | stuck
    · refine .inl ⟨.negated sign operand, rest, rfl, Nat.succ_lt_succ shallow, ?_⟩
      intro Value meaning
      dsimp only at same ⊢
      rw [same, Phrase.value]
      exact read_leaving _ fun inside => rfl
    · exact .inr (stuck.passedOn [_] fun _ _ _ failed => bind_failed failed)
  · simp only [closes]
    rcases decides_power inner tokens with ⟨power, rest, rfl, shallow, same⟩ | stuck
    · exact .inl ⟨.unsigned power, rest, rfl, shallow, same⟩
    · exact .inr stuck

/-! ## Products and sums -/

include inner in
theorem decides_product :
    Decides finish (limit + 1) (fun _ meaning (phrase : Phrase .product) => phrase.value meaning)
      fun tokens Value meaning =>
        plain (readProduct meaning finish (level Value meaning) tokens) :=
  productSequence.decides (decides_signed inner)

include inner in
theorem decides_sum :
    Decides finish (limit + 1) (fun _ meaning (phrase : Phrase .sum) => phrase.value meaning)
      fun tokens Value meaning =>
        plain (readSum meaning finish (level Value meaning) tokens) :=
  sumSequence.decides (decides_product inner)

end Level

/-! ## Levels -/

/-- Where no level is left, every reader is stuck at once. -/
theorem levelDecides_exhausted (finish : Nat) :
    LevelDecides finish 0 fun _ _ => Level.exhausted finish where
  sum _ := .inr (.here .tooDeep fun _ _ => rfl)
  signed _ := .inr (.here .tooDeep fun _ _ => rfl)
  postfixed _ := .inr (.here .tooDeep fun _ _ => rfl)

/-- The readers of every level take a phrase that nests no deeper than the levels
below, or are stuck. -/
theorem levelDecides_above (finish levels : Nat) :
    LevelDecides finish levels fun _ meaning => Level.above meaning finish levels := by
  induction levels with
  | zero => exact levelDecides_exhausted finish
  | succ below inductionHypothesis =>
      exact ⟨decides_sum inductionHypothesis, decides_signed inductionHypothesis,
        decides_postfixed inductionHypothesis⟩

end Grammar

end FormulaGrid
