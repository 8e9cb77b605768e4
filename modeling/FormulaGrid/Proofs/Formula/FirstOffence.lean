import FormulaGrid.Proofs.Formula.Origins
import FormulaGrid.Proofs.Formula.Rejection
import FormulaGrid.Proofs.Formula.Safety

/-!
Contract: a reading fails at the first token that fits no formula.

Owns:
- the readings of a category without arithmetic (`Grammar.Settles`): they take a greedy phrase
  in front of what does not go on it, or reject the token at a place, or find the limit of
  nesting;
- the readers of every level settle (`Grammar.levelSettles_above`);
- the tokens in front of an unexpected one begin a formula, and with it they begin none
  (`evaluate_unexpected`).
-/

namespace FormulaGrid

open Grammar

namespace Grammar

/-- A reading without arithmetic has one of three outcomes. -/
inductive Settles (finish : Nat) (category : Category) (tokens : List Token) :
    Except Fault (Unit × List Token) → Prop where
  | taken
      (phrase : Phrase category)
      (rest : List Token)
      (derived : tokens = phrase.tokens ++ rest)
      (greedy : phrase.Greedy)
      (closes : Closes phrase.bond rest) :
      Settles finish category tokens (.ok ((), rest))
  | rejected
      (before stuck : List Token)
      (wanted : Wanted)
      (derived : tokens = before ++ stuck)
      (rejects : Rejects category before stuck) :
      Settles finish category tokens (.error (unexpected finish wanted stuck))
  | tooDeep (position : Nat) :
      Settles finish category tokens (.error (.formula (.nestedTooDeep position)))

/-- A reading that goes on behind a phrase inside. -/
theorem Settles.andThen
    {finish : Nat}
    {inner outer : Category}
    {lead inside : List Token}
    {outcome : Except Fault (Unit × List Token)}
    {next : Unit × List Token → Except Fault (Unit × List Token)}
    (settles : Settles finish inner inside outcome)
    (leads : Leads inner outer lead inside)
    (goesOn : ∀ (phrase : Phrase inner) (rest : List Token),
      inside = phrase.tokens ++ rest → phrase.Greedy → Closes phrase.bond rest →
        Settles finish outer (lead ++ inside) (next ((), rest))) :
    Settles finish outer (lead ++ inside) (outcome >>= next) := by
  cases settles with
  | taken phrase rest derived greedy closes => exact goesOn phrase rest derived greedy closes
  | rejected before stuck wanted derived rejects =>
      subst derived
      exact .rejected (lead ++ before) stuck wanted (List.append_assoc _ _ _).symm
        (rejects.inside leads)
  | tooDeep position => exact .tooDeep position

/-- Without arithmetic nothing is done behind a reading. -/
theorem bind_unit (outcome : Except Fault (Unit × List Token)) :
    (outcome >>= fun read => .ok ((), read.2)) = outcome := by
  cases outcome <;> rfl

/-- A reading that stops behind a phrase inside. -/
theorem Settles.within
    {finish : Nat}
    {inner outer : Category}
    {lead inside : List Token}
    {outcome : Except Fault (Unit × List Token)}
    (settles : Settles finish inner inside outcome)
    (leads : Leads inner outer lead inside)
    (stops : ∀ (phrase : Phrase inner) (rest : List Token),
      inside = phrase.tokens ++ rest → phrase.Greedy → Closes phrase.bond rest →
        Settles finish outer (lead ++ inside) (.ok ((), rest))) :
    Settles finish outer (lead ++ inside) outcome := by
  rw [← bind_unit outcome]
  exact settles.andThen leads stops

/-- The readers of a level settle. -/
structure LevelSettles (finish : Nat) (level : Level Unit) : Prop where
  sum : ∀ tokens, Settles finish .sum tokens (plain (level.sum tokens))
  signed : ∀ tokens, Settles finish .signed tokens (plain (level.signed tokens))
  postfixed : ∀ tokens, Settles finish .postfixed tokens (plain (level.postfixed tokens))

section Level

variable {finish : Nat} {level : Level Unit}

/-! ## Brackets -/

/-- A bracket is closed behind its sum, or another token is rejected there. -/
theorem settles_enclosure
    {opening : List Token}
    {closing : Lexeme}
    (enclosure : Enclosure opening closing)
    {close : Unit × List Token → Except Fault (Unit × List Token)}
    {wanted : Wanted}
    (closed : ∀ (mark : Mark) (others : List Token),
      close ((), mark.token closing :: others) = .ok ((), others))
    (unclosed : ∀ rest : List Token, (∀ token ∈ rest.head?, token.lexeme ≠ closing) →
      close ((), rest) = .error (unexpected finish wanted rest))
    {inside : List Token}
    {outcome : Except Fault (Unit × List Token)}
    (settles : Settles finish .sum inside outcome) :
    Settles finish .primary (opening ++ inside) (outcome >>= close) := by
  refine settles.andThen enclosure.leads ?_
  rintro phrase rest rfl greedy closes
  by_cases fits : ∃ mark others, rest = Mark.token mark closing :: others
  · obtain ⟨mark, others, rfl⟩ := fits
    rw [closed]
    refine .taken (enclosure.construct phrase mark) others ?_
      ((enclosure.greedy_construct phrase mark).mpr greedy) ?_
    · rw [enclosure.tokens_construct, List.append_assoc, List.append_assoc,
        List.singleton_append]
    · rw [enclosure.bond_construct]
      exact closes_primary others
  · have unfit : ∀ token ∈ rest.head?, token.lexeme ≠ closing := by
      rintro token member rfl
      cases rest with
      | nil => cases member
      | cons head others =>
          obtain rfl : head = token := Option.some.inj member
          exact fits ⟨⟨head.text, head.position⟩, others, rfl⟩
    rw [unclosed rest unfit]
    exact .rejected _ rest wanted (List.append_assoc _ _ _).symm
      (enclosure.rejects_closing greedy closes unfit)

theorem closeGroup_unfit
    {rest : List Token}
    (unfit : ∀ token ∈ rest.head?, token.lexeme ≠ .rightParenthesis) :
    closeGroup finish ((), rest) = .error (unexpected finish .closingParenthesis rest) := by
  rcases closeGroup_cases finish rest with ⟨closing, others, rfl, -⟩ | fails
  · exact absurd rfl (unfit _ rfl)
  · exact fails ()

theorem closeBars_unfit
    {rest : List Token}
    (unfit : ∀ token ∈ rest.head?, token.lexeme ≠ .bar) :
    closeBars .shape finish ((), rest) = .error (unexpected finish .closingBar rest) := by
  rcases closeBars_cases finish rest with ⟨closing, others, rfl, -⟩ | fails
  · exact absurd rfl (unfit _ rfl)
  · exact fails .shape ()

variable (inner : LevelSettles finish level)

/-! ## Primaries and postfixes -/

include inner in
theorem settles_argument
    (word : Mark)
    (name : FunctionName)
    (power : Option Nat)
    (base : Option Float)
    (tokens : List Token) :
    Settles finish .primary (word.token (.function name power base) :: tokens)
      (plain (readArgument finish level name tokens)) := by
  have rejected
      (unfit : ∀ token ∈ tokens.head?, token.lexeme ≠ .leftParenthesis) :
      Settles finish .primary (word.token (.function name power base) :: tokens)
        (.error (unexpected finish (.argumentOf name.word) tokens)) :=
    .rejected [word.token (.function name power base)] tokens _ rfl
      (.argument word name power base unfit)
  rw [plain_readArgument]
  rcases tokens with _ | ⟨⟨lexeme, text, position⟩, others⟩
  · exact rejected (by simp)
  · cases lexeme with
    | leftParenthesis =>
        dsimp only
        rw [plain_readGroup]
        exact settles_enclosure (.application word name power base ⟨text, position⟩)
          (fun _ _ => rfl) (fun _ => closeGroup_unfit) (inner.sum others)
    | _ => exact rejected (by rintro _ ⟨⟩ ⟨⟩)

include inner in
theorem settles_primary (tokens : List Token) :
    Settles finish .primary tokens (plain (readPrimary .shape finish level tokens)) := by
  have rejected (unfit : ∀ token ∈ tokens.head?, token.lexeme.startsOperand = false) :
      Settles finish .primary tokens (.error (unexpected finish .operand tokens)) :=
    .rejected [] tokens _ rfl (.operand unfit)
  rcases tokens with _ | ⟨⟨lexeme, text, position⟩, others⟩
  · exact rejected (by simp)
  · rw [plain_readPrimary]
    cases lexeme with
    | number value =>
        exact .taken (.number ⟨text, position⟩ value) others rfl trivial (closes_primary others)
    | constant value =>
        exact .taken (.constant ⟨text, position⟩ value) others rfl trivial
          (closes_primary others)
    | leftParenthesis =>
        dsimp only
        rw [plain_readGroup]
        exact settles_enclosure (.group ⟨text, position⟩) (fun _ _ => rfl)
          (fun _ => closeGroup_unfit) (inner.sum others)
    | bar =>
        dsimp only
        rw [plain_readBars]
        exact settles_enclosure (.bars ⟨text, position⟩) (fun _ _ => rfl)
          (fun _ => closeBars_unfit) (inner.sum others)
    | function name power base =>
        show Settles _ _ _ (plain (readArgument finish level name others) >>= fun read =>
          .ok ((), read.2))
        rw [bind_unit]
        exact settles_argument inner ⟨text, position⟩ name power base others
    | root index =>
        refine (inner.postfixed others).andThen (.radicand ⟨text, position⟩ index) ?_
        rintro radicand rest rfl greedy closes
        exact .taken (.root ⟨text, position⟩ index radicand) rest rfl greedy closes
    | operator | factorial | superscript | rightParenthesis =>
        exact rejected (by rintro _ ⟨⟩; rfl)

/-- All postfixes behind a primary are taken. -/
theorem exists_postfixes (tokens : List Token) :
    ∃ (phrase : Phrase .postfixes) (rest : List Token),
      tokens = phrase.tokens ++ rest ∧
        Closes phrase.bond rest ∧
        plain (readPostfixes .shape () tokens) = .ok ((), rest) := by
  induction tokens with
  | nil => exact ⟨.noPostfixes, [], rfl, trivial, rfl⟩
  | cons token others inductionHypothesis =>
      obtain ⟨phrase, rest, rfl, closes, read⟩ := inductionHypothesis
      obtain ⟨lexeme, text, position⟩ := token
      rcases (closes_primary (⟨lexeme, text, position⟩ :: (phrase.tokens ++ rest))).cases_looser
        with closed | ⟨_, _, ⟨⟩, bond⟩
      · exact ⟨.noPostfixes, _, rfl, closed, plain_readPostfixes_closed .shape () closed⟩
      · rw [plain_readPostfixes]
        cases lexeme with
        | factorial => exact ⟨.factorial ⟨text, position⟩ phrase, rest, rfl, closes, read⟩
        | superscript exponent =>
            exact ⟨.superscript ⟨text, position⟩ exponent phrase, rest, rfl, closes, read⟩
        | operator symbol => cases symbol <;> cases bond
        | _ => cases bond

include inner in
theorem settles_postfixed (tokens : List Token) :
    Settles finish .postfixed tokens (plain (readPostfixed .shape finish level tokens)) := by
  rw [plain_readPostfixed]
  refine (settles_primary inner tokens).andThen .primary_postfixed ?_
  rintro first rest rfl greedy closes
  by_cases isRoot : first.IsRoot
  · have closed : Closes Category.postfixed.bond rest := by
      cases first with
      | root => exact closes
      | _ => exact isRoot.elim
    dsimp only
    rw [plain_readPostfixes_closed .shape () closed]
    exact .taken (.postfixed first .noPostfixes) rest
      (by rw [Phrase.tokens, Phrase.tokens, List.append_nil, List.nil_append])
      ⟨greedy, fun _ => rfl⟩ closed
  · obtain ⟨others, behind, rfl, closed, read⟩ := exists_postfixes rest
    dsimp only
    rw [read]
    exact .taken (.postfixed first others) behind
      (by rw [Phrase.tokens, List.append_assoc, List.nil_append])
      ⟨greedy, fun root => absurd root isRoot⟩ closed

/-! ## Powers and signs -/

include inner in
theorem settles_power (tokens : List Token) :
    Settles finish .power tokens (plain (readPower .shape finish level tokens)) := by
  rw [plain_readPower]
  refine (settles_postfixed inner tokens).andThen .postfixed_power ?_
  rintro base rest rfl greedy closes
  rcases closes.cases_looser with closed | ⟨⟨lexeme, text, position⟩, others, rfl, bond⟩
  · rw [raiseBase_closed .shape level () closed]
    exact .taken (.unraised base) rest rfl greedy closed
  · obtain rfl : lexeme = .operator .power := by
      cases lexeme with
      | operator symbol => cases symbol <;> first | rfl | cases bond
      | _ => cases bond
    show Settles _ _ _ (plain (level.signed others) >>= fun read => .ok ((), read.2))
    rw [bind_unit]
    have read := (inner.signed others).within (.exponent greedy ⟨text, position⟩) ?_
    · rw [List.append_assoc, List.singleton_append] at read
      exact read
    · rintro exponent behind rfl exponentGreedy closed
      exact .taken (.raised base ⟨text, position⟩ exponent) behind
        (by simp [Phrase.tokens]) ⟨greedy, exponentGreedy⟩ closed

include inner in
theorem settles_signed (tokens : List Token) :
    Settles finish .signed tokens (plain (readSigned .shape finish level tokens)) := by
  have unsigned (notMinus : ∀ token ∈ tokens.head?, token.lexeme ≠ .operator .minus) :
      Settles finish .signed tokens (plain (readPower .shape finish level tokens)) := by
    refine (settles_power inner tokens).within (.power_signed notMinus) ?_
    rintro power rest rfl greedy closes
    exact .taken (.unsigned power) rest rfl greedy closes
  rw [plain_readSigned]
  rcases tokens with _ | ⟨⟨lexeme, text, position⟩, others⟩
  · exact unsigned (by simp)
  · cases lexeme with
    | operator symbol =>
        cases symbol with
        | minus =>
            refine (inner.signed others).andThen (.negated ⟨text, position⟩) ?_
            rintro operand rest rfl greedy closes
            exact .taken (.negated ⟨text, position⟩ operand) rest rfl greedy closes
        | _ => exact unsigned (by rintro _ ⟨⟩ ⟨⟩)
    | _ => exact unsigned (by rintro _ ⟨⟩ ⟨⟩)

/-! ## Products and sums -/

section Chain

variable {item repetition : Category} {itemWorth : Worth item} {worth : WorthBehind repetition}

/-- Behind a sign an item is taken, and the repetition goes on behind it. -/
theorem settles_link
    {sign : Token}
    {link : Link itemWorth worth sign}
    (told : link.Told)
    (empty : Phrase repetition)
    {others : List Token}
    {outcome : Except Fault (Unit × List Token)}
    (readOthers : List Token → Except Fault (Unit × List Token))
    (settles : Settles finish item others outcome)
    (goesOn : ∀ (phrase : Phrase item) (rest : List Token),
      others = phrase.tokens ++ rest → Closes phrase.bond rest →
        Settles finish repetition rest (readOthers rest)) :
    Settles finish repetition (sign :: others) (outcome >>= fun read => readOthers read.2) := by
  show Settles finish repetition ([sign] ++ others) _
  refine settles.andThen (told.leads_item empty) ?_
  rintro phrase rest rfl greedy closes
  have behind := (goesOn phrase rest rfl closes).within (told.leads_others greedy closes) ?_
  · rw [List.cons_append] at behind
    exact behind
  · rintro followers left rfl followersGreedy closed
    refine .taken (link.construct phrase followers) left ?_
      ((told.greedy phrase followers).mpr ⟨greedy, followersGreedy⟩) ?_
    · rw [link.tokens_construct, List.cons_append, List.cons_append, List.append_assoc]
    · rw [told.bond]
      exact closed

variable {chain : Chain itemWorth worth} (chainTold : chain.Told) {itemReader : Reader Unit}
  (itemSettles : ∀ tokens, Settles finish item tokens (plain (itemReader tokens)))

include chainTold itemSettles

/-- A chain settles behind what goes on no item of it, if its items do. -/
theorem settles_chain
    (combines : ∀ {token combine}, chain.links .shape token = some combine →
      combine () () = .ok ())
    (value : Unit)
    (tokens : List Token) :
    Closes (repetition.bond + 1) tokens →
      Settles finish repetition tokens
        (plain (readChain (chain.links .shape) itemReader value tokens)) := by
  induction tokens using chain_induction (chain.links .shape) generalizing value with
  | ends tokens stops =>
      intro closes
      rw [plain_readChain_ends stops]
      refine .taken chain.empty tokens ?_ chainTold.greedy_empty ?_
      · rw [chain.tokens_empty, List.nil_append]
      · rw [chainTold.bond_empty]
        exact (chainTold.bind .shape).closes stops closes
  | goesOn token others combine linked inductionHypothesis =>
      intro _
      obtain ⟨link, linkedAt, -⟩ : ∃ link, chain.linkAt token = some link ∧ _ :=
        Option.map_eq_some_iff.mp ((chain.links_eq .shape token).symm.trans linked)
      have skips (read : Unit × List Token) :
          (combine value read.1 >>= fun value =>
              plain (readChain (chain.links .shape) itemReader value read.2)) =
            plain (readChain (chain.links .shape) itemReader () read.2) := by
        rw [combines linked]
        rfl
      rw [plain_readChain_link linked]
      simp only [skips]
      refine settles_link (chainTold.link linkedAt) chain.empty
        (fun rest => plain (readChain (chain.links .shape) itemReader () rest))
        (itemSettles others) ?_
      intro phrase rest derived closes
      refine inductionHypothesis rest ?_ () ?_
      · rw [derived, List.length_append]
        exact Nat.le_add_left _ _
      · rw [← chainTold.bond_item phrase]
        exact closes

/-- An item and the chain behind it settle, if the items of the chain do. -/
theorem settles_sequence
    {whole : Category}
    {wholeWorth : Worth whole}
    {sequence : Sequence chain wholeWorth}
    (told : sequence.Told)
    (combines : ∀ {token combine}, chain.links .shape token = some combine →
      combine () () = .ok ())
    (tokens : List Token) :
    Settles finish whole tokens (plain (readSequence (chain.links .shape) itemReader tokens)) := by
  rw [plain_readSequence]
  show Settles finish whole ([] ++ tokens) _
  refine (itemSettles tokens).andThen told.leads_item ?_
  rintro phrase rest rfl greedy closes
  have chainSettles := settles_chain chainTold itemSettles combines () rest
    (by rw [← chainTold.bond_item phrase]; exact closes)
  refine chainSettles.within (told.leads_others greedy closes) ?_
  rintro followers left rfl followersGreedy closed
  refine .taken (sequence.construct phrase followers) left ?_
    ((told.greedy phrase followers).mpr ⟨greedy, followersGreedy⟩) ?_
  · rw [sequence.tokens_construct, List.append_assoc]
  · rw [told.bond]
    exact closed

end Chain

include inner in
theorem settles_product (tokens : List Token) :
    Settles finish .product tokens (plain (readProduct .shape finish level tokens)) := by
  refine settles_sequence factorsChain_told (settles_signed inner) productSequence_told ?_ tokens
  rintro ⟨lexeme, text, position⟩ combine goesOn
  cases lexeme with
  | operator symbol => cases symbol <;> cases goesOn <;> rfl
  | _ => cases goesOn

include inner in
theorem settles_sum (tokens : List Token) :
    Settles finish .sum tokens (plain (readSum .shape finish level tokens)) := by
  refine settles_sequence termsChain_told (settles_product inner) sumSequence_told ?_ tokens
  rintro ⟨lexeme, text, position⟩ combine goesOn
  cases lexeme with
  | operator symbol => cases symbol <;> cases goesOn <;> rfl
  | _ => cases goesOn

end Level

/-! ## Levels -/

/-- The readers of every level settle. -/
theorem levelSettles_above (finish levels : Nat) :
    LevelSettles finish (Level.above .shape finish levels) := by
  induction levels with
  | zero => exact ⟨fun _ => .tooDeep _, fun _ => .tooDeep _, fun _ => .tooDeep _⟩
  | succ below inductionHypothesis =>
      exact ⟨settles_sum inductionHypothesis, settles_signed inductionHypothesis,
        settles_postfixed inductionHypothesis⟩

end Grammar

/-! ## Formulas -/

/-- The tokens of a formula with its end behind them. -/
def ended (tokens : List Token) : List (Option Token) :=
  tokens.map some ++ [none]

/-- A formula that starts with some tokens goes on behind them with what starts there. -/
theorem exists_ahead
    {before tokens : List Token}
    {next : Option Token}
    (starts : before.map some ++ [next] <+: ended tokens) :
    ∃ ahead, tokens = before ++ ahead ∧ ahead.head? = next := by
  induction before generalizing tokens with
  | nil =>
      cases tokens with
      | nil => exact ⟨[], rfl, (List.cons_prefix_cons.mp starts).1.symm⟩
      | cons token others => exact ⟨_, rfl, (List.cons_prefix_cons.mp starts).1.symm⟩
  | cons token others inductionHypothesis =>
      cases tokens with
      | nil => exact absurd (List.cons_prefix_cons.mp starts).1 (by simp)
      | cons head tail =>
          obtain ⟨same, behind⟩ := List.cons_prefix_cons.mp starts
          obtain ⟨ahead, rfl, next⟩ := inductionHypothesis behind
          exact ⟨ahead, by rw [Option.some.inj same, List.cons_append], next⟩

namespace TokenLine

/-- Where a formula is read no further, the tokens before the place begin a formula, and no
formula goes on behind them with the token at the place. -/
theorem rejects
    {line : TokenLine}
    {wanted : Wanted}
    {found : Option String}
    {position : Nat}
    (failed : line.read .shape = .error (.formula (.unexpected wanted found position))) :
    ∃ before stuck : List Token,
      line.tokens = before ++ stuck ∧
        unexpected line.finish wanted stuck = .formula (.unexpected wanted found position) ∧
        (∃ sentence : Phrase .sum, before <+: sentence.tokens) ∧
        ∀ (sentence : Phrase .sum) (ahead : List Token),
          sentence.tokens = before ++ ahead → ahead.head? ≠ stuck.head? := by
  have settles := settles_sum (levelSettles_above line.finish deepestNesting) line.tokens
  rw [read_eq] at failed
  generalize plain (readSum .shape line.finish _ line.tokens) = outcome at settles failed
  cases settles with
  | taken phrase rest derived greedy closes =>
      cases rest with
      | nil => cases failed
      | cons token others =>
          cases failed
          refine ⟨phrase.tokens, token :: others, derived, rfl, ⟨phrase, List.prefix_rfl⟩, ?_⟩
          intro sentence ahead same sameHead
          -- The sentence would be the phrase that was taken, with nothing behind it.
          obtain ⟨settled, settles⟩ := sentence.exists_greedy
          have sameTokens : phrase.tokens ++ ahead = settled.tokens ++ [] := by
            rw [settles.sameTokens, same, List.append_nil]
          obtain ⟨-, rfl⟩ := Phrase.onlyReading phrase greedy settled _ _ settles.greedy
            sameTokens (closes.of_head?_eq sameHead) trivial
          cases sameHead
  | rejected before stuck other derived rejects =>
      have fault : unexpected line.finish other stuck =
          .formula (.unexpected wanted found position) := Except.error.inj failed
      obtain rfl : other = wanted := by
        cases stuck <;> cases fault <;> rfl
      refine ⟨before, stuck, derived, fault, rejects.begins, ?_⟩
      intro sentence ahead same
      obtain ⟨settled, settles⟩ := sentence.exists_greedy
      exact rejects.ends settled [] ahead settles.greedy trivial
        (by rw [settles.sameTokens, same, List.append_nil])
  | tooDeep place => cases failed

end TokenLine

/-- Evaluation points at the first token that does not fit. Let it find a token unexpected, or
the end of the text. The tokens before its position begin a formula of the grammar, whatever the
limit of nesting. No formula begins with them and the token at the position, or the end. -/
theorem evaluate_unexpected
    (functions : Elementary)
    {text : String}
    {wanted : Wanted}
    {found : Option String}
    {position : Nat}
    (failed : evaluate functions text = .error (.formula (.unexpected wanted found position))) :
    ∃ (line : TokenLine) (before stuck : List Token),
      tokenize text = .ok line ∧
        line.tokens = before ++ stuck ∧
        (∀ token ∈ before, token.position < position) ∧
        (∀ token ∈ stuck, position ≤ token.position) ∧
        stuck.head?.map Token.text = found ∧
        stuck.head?.map Token.position = (if position = text.length then none else some position) ∧
        (∃ sentence : Phrase .sum, before <+: sentence.tokens) ∧
        ∀ sentence : Phrase .sum,
          ¬ (before.map some ++ [stuck.head?] <+: ended sentence.tokens) := by
  obtain ⟨line, tokenized, shapeFailed⟩ := exists_unexpected_shape failed
  obtain ⟨before, stuck, derived, fault, begins, ends⟩ := TokenLine.rejects shapeFailed
  obtain ⟨ordered, within⟩ := tokenize_positions tokenized
  have finish := (scan_of_tokenize tokenized).2
  have place : nextPosition line.finish stuck = position := by
    cases stuck <;> cases fault <;> rfl
  refine ⟨line, before, stuck, tokenized, derived, ?_, ?_, ?_, ?_, begins, ?_⟩
  · rw [← place]
    exact before_place tokenized derived
  · rw [derived] at ordered
    cases stuck with
    | nil => exact List.forall_mem_nil _
    | cons token others =>
        obtain rfl : token.position = position := place
        have behind := (List.pairwise_cons.mp (List.pairwise_append.mp ordered).2.1).1
        exact List.forall_mem_cons.mpr
          ⟨Nat.le_refl _, fun later member => Nat.le_of_lt (behind later member)⟩
  · cases stuck <;> cases fault <;> rfl
  · cases stuck with
    | nil =>
        obtain rfl : line.finish = position := place
        rw [if_pos finish]
        rfl
    | cons token others =>
        obtain rfl : token.position = position := place
        have before_end := within token (by rw [derived]; simp)
        rw [if_neg (by omega)]
        rfl
  · intro sentence starts
    obtain ⟨ahead, same, sameHead⟩ := exists_ahead starts
    exact ends sentence ahead same sameHead

/-- Inside bars a closing parenthesis is unexpected behind a plus sign: there is a formula that
begins with the three tokens before it, and none with the four. -/
theorem evaluate_unexpected_parenthesis :
    evaluate sampleLibrary "|1+)|" = .error (.formula (.unexpected .operand (some ")") 3)) ∧
      ∃ (line : TokenLine) (before stuck : List Token),
        tokenize "|1+)|" = .ok line ∧
          line.tokens = before ++ stuck ∧
          (∀ token ∈ before, token.position < 3) ∧
          stuck.head?.map Token.text = some ")" ∧
          (∃ sentence : Phrase .sum, before <+: sentence.tokens) ∧
          ∀ sentence : Phrase .sum,
            ¬ (before.map some ++ [stuck.head?] <+: ended sentence.tokens) := by
  have failed : evaluate sampleLibrary "|1+)|" =
      .error (.formula (.unexpected .operand (some ")") 3)) :=
    eq_error_of_causeOf? (by decide +kernel)
  obtain ⟨line, before, stuck, tokenized, derived, earlier, -, text, -, begins, ends⟩ :=
    evaluate_unexpected sampleLibrary failed
  exact ⟨failed, line, before, stuck, tokenized, derived, earlier, text, begins, ends⟩

end FormulaGrid
