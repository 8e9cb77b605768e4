import FormulaGrid.Proofs.Formula.Contract
import FormulaGrid.Proofs.Formula.Leftover
import FormulaGrid.Proofs.Formula.Settling

/-!
Contract: every walk of a cursor ends, and takes what the readers of the grammar take.

Owns:
- what the readers make of the tokens ahead on an errand (`Errand.reading`);
- the steps after which a walk has ended (`Errand.steps`);
- the walk of each errand settles, if the walks that it sends for do (`settles_body`),
  and so do all (`settles_walk`);
- progress of the walks that go by the rules of the grammar (`walk_progress`).

The measure is the number of tokens ahead, and for walks that send for one another in
front of the same token, the order of the rules. A repetition comes last in that order,
because whoever sends for it has taken a token before.
-/

namespace FormulaGrid

open Grammar

/-! ## The readings of errands -/

section Reading

variable {Value : Type} (meaning : Interpretation Value)
  (unnamed : Option Token → Value → Except Fault Value) (finish : Nat)

/-- An application, whatever it is behind. -/
def readApplication (inner : Level Value) (tokens : List Token) :
    Except Fault (Value × List Token) :=
  match tokens.tail with
  | ⟨.leftParenthesis, _, _⟩ :: others =>
      plain (readGroup finish inner others) >>= fun read =>
        (applied meaning unnamed tokens.head? read.1).map fun value => (value, read.2)
  | others => .error (unexpected finish (.argumentOf (calledBy tokens.head?)) others)

/-- What the readers of the grammar make of tokens on an errand. -/
def Errand.reading (levels : Nat) (tokens : List Token) :
    Errand Value → Except Fault (Value × List Token)
  | .rule .formula =>
      plain (readSum meaning finish (Level.above meaning finish levels) tokens) >>= fun read =>
        (TokenLine.closeLine finish read).map fun value => (value, [])
  | .rule .sum => plain (readSum meaning finish (Level.above meaning finish levels) tokens)
  | .rule .product =>
      plain (readProduct meaning finish (Level.above meaning finish levels) tokens)
  | .rule .signed => plain (readSigned meaning finish (Level.above meaning finish levels) tokens)
  | .rule .power => plain (readPower meaning finish (Level.above meaning finish levels) tokens)
  | .rule .postfixed =>
      plain (readPostfixed meaning finish (Level.above meaning finish levels) tokens)
  | .rule .primary =>
      plain (readPrimary meaning finish (Level.above meaning finish levels) tokens)
  | .rule .application =>
      readApplication meaning unnamed finish (Level.above meaning finish levels) tokens
  | .terms value =>
      plain (readChain meaning.terms (readProduct meaning finish (Level.above meaning finish levels))
        value tokens)
  | .factors value =>
      plain (readChain meaning.factors (readSigned meaning finish (Level.above meaning finish levels))
        value tokens)
  | .postfixes value => plain (readPostfixes meaning value tokens)

end Reading

/-- The place of an errand among those that send for one another without taking a token. -/
def Errand.rank {Value : Type} : Errand Value → Nat
  | .rule .formula => 8
  | .rule .sum => 7
  | .rule .product => 6
  | .rule .signed => 5
  | .rule .power => 4
  | .rule .postfixed => 3
  | .rule .primary => 2
  | .rule .application | .terms _ | .factors _ | .postfixes _ => 1

theorem Errand.rank_pos {Value : Type} (errand : Errand Value) : 0 < errand.rank := by
  unfold rank
  split <;> decide

theorem Errand.rank_le {Value : Type} (errand : Errand Value) : errand.rank ≤ 8 := by
  unfold rank
  split <;> decide

/-- The steps that are enough for an errand. -/
def Errand.steps {Value : Type} (line : TokenLine) (cursor : Cursor) (errand : Errand Value) :
    Nat :=
  8 * (line.tokens.length - cursor.index) + errand.rank

namespace Walk

variable {Value : Type} {meaning : Interpretation Value}
  {unnamed : Option Token → Value → Except Fault Value} {line : TokenLine} {steps : Nat}

theorem Follows.levels {start middle : Cursor} (follows : Follows line start middle) :
    middle.levels = start.levels :=
  congrArg (deepestNesting - ·) follows.level

/-- A reader has taken a token. -/
theorem Follows.index_lt
    {start middle : Cursor}
    {value : Value}
    {outcome : Except Fault (Value × Rest (start.ahead line))}
    (follows : Follows line start middle)
    (found : plain outcome = .ok (value, middle.ahead line)) :
    start.index < middle.index := by
  have shorter : (middle.ahead line).length < (start.ahead line).length := taken_of_plain found
  have within := follows.within
  simp only [Cursor.ahead, List.length_drop] at shorter
  omega

/-- The walks that are sent for settle, in so many steps as are enough for them. -/
def Sends
    (meaning : Interpretation Value)
    (unnamed : Option Token → Value → Except Fault Value)
    (line : TokenLine)
    (steps : Nat)
    (send : Nat → Errand Value → Walk Value) :
    Prop :=
  ∀ (errand : Errand Value) (start : Cursor), start.index ≤ line.tokens.length →
    errand.steps line start ≤ steps →
    Settles line steps start
      (errand.reading meaning unnamed line.finish start.levels (start.ahead line))
      fun more => send more errand

/-- A function is applied as the readers apply it. -/
theorem readPrimary_function
    (finish : Nat)
    (inner : Level Value)
    (name : FunctionName)
    (power : Option Nat)
    (base : Option Float)
    (text : String)
    (position : Nat)
    (others : List Token) :
    plain (readPrimary meaning finish inner (⟨.function name power base, text, position⟩ :: others)) =
      readApplication meaning unnamed finish inner
        (⟨.function name power base, text, position⟩ :: others) := by
  rw [plain_readPrimary]
  dsimp only
  rw [plain_readArgument, readApplication]
  rcases others with _ | ⟨⟨lexeme, text, position⟩, others⟩
  · rfl
  · cases lexeme <;> rfl

section Sends

variable {send : Nat → Errand Value → Walk Value} (sends : Sends meaning unnamed line steps send)
  {start : Cursor} {errand : Errand Value} (enough : errand.steps line start ≤ steps + 1)
include sends enough

/-- Without a token taken, an errand sends for those below it. -/
theorem Sends.inPlace
    (within : start.index ≤ line.tokens.length)
    (other : Errand Value)
    (below : other.rank < errand.rank) :
    Settles line steps start
      (other.reading meaning unnamed line.finish start.levels (start.ahead line))
      fun more => send more other := by
  refine sends other start within ?_
  simp only [Errand.steps] at enough ⊢
  omega

/-- Behind a token an errand sends for any. -/
theorem Sends.further
    (middle : Cursor)
    (within : middle.index ≤ line.tokens.length)
    (further : start.index < middle.index)
    (other : Errand Value) :
    Settles line steps middle
      (other.reading meaning unnamed line.finish middle.levels (middle.ahead line))
      fun more => send more other := by
  refine sends other middle within ?_
  have lowest := errand.rank_pos
  have highest := other.rank_le
  simp only [Errand.steps] at enough ⊢
  omega

/-- Behind a token an errand also sends for a rule one level deeper. -/
theorem Sends.deeper
    {middle : Cursor}
    (within : middle.index ≤ line.tokens.length)
    (further : start.index < middle.index)
    (rule : Rule)
    (pick : Level Value → Reader Value)
    (lends : ∀ levels tokens,
      Errand.reading meaning unnamed line.finish levels tokens (.rule rule) =
        plain (pick (Level.above meaning line.finish (levels + 1)) tokens))
    (tooDeep : ∀ tokens, pick (Level.exhausted line.finish) tokens =
      .error (.formula (.nestedTooDeep (nextPosition line.finish tokens)))) :
    Settles line steps middle
      (plain (pick (Level.above meaning line.finish middle.levels) (middle.ahead line)))
      fun more => nested line (send more (.rule rule)) := by
  refine .nested pick tooDeep within ?_
  have settles := sends.further enough middle.opened within further (.rule rule)
  rw [lends] at settles
  exact settles

end Sends

section Bodies

variable {send : Nat → Errand Value → Walk Value} (sends : Sends meaning unnamed line steps send)
  {start : Cursor}
include sends

/-! ## The walks of the rules -/

/-- A rule that takes an item and sends for the repetition behind it. -/
theorem settles_sequence
    {errand : Errand Value}
    {outcome : Except Fault (Value × Rest (start.ahead line))}
    (within : start.index ≤ line.tokens.length)
    (enough : errand.steps line start ≤ steps + 1)
    (item : Errand Value)
    (repetition : Value → Errand Value)
    (below : item.rank < errand.rank)
    (itemReading : item.reading meaning unnamed line.finish start.levels (start.ahead line) =
      plain outcome) :
    Settles line steps start
      (plain outcome >>= fun read =>
        (repetition read.1).reading meaning unnamed line.finish start.levels read.2)
      fun more => send more item >>= fun value => send more (repetition value) := by
  rw [← itemReading]
  refine (sends.inPlace enough within item below).bind fun value middle follows found => ?_
  rw [itemReading] at found
  rw [← follows.levels]
  exact sends.further enough middle follows.within (follows.index_lt found) (repetition value)

/-- Behind its sign a link is what its rule takes, and the repetition behind that. -/
theorem settles_link
    {errand : Errand Value}
    {token : Token}
    {others : List Token}
    (enough : errand.steps line start ≤ steps + 1)
    (found : start.ahead line = token :: others)
    (rule : Rule)
    (combine : Value → Except Fault Value)
    (repetition : Value → Errand Value) :
    Settles line steps start
      (Errand.reading meaning unnamed line.finish start.levels others (.rule rule) >>= fun read =>
        combine read.1 >>= fun value =>
          (repetition value).reading meaning unnamed line.finish start.levels read.2)
      fun more => link line (send more) rule combine repetition := by
  obtain ⟨-, inside, rfl⟩ := exists_of_ahead found
  have further : start.index < start.stepped.index := Nat.lt_succ_self _
  refine .take found ((sends.further enough start.stepped inside further (.rule rule)).bind
    fun right middle follows _ => .settled follows.within fun value => ?_)
  rw [show start.levels = middle.levels from follows.levels.symm]
  exact sends.further enough middle follows.within (Nat.lt_of_lt_of_le further follows.forward)
    (repetition value)

theorem settles_formula
    (within : start.index ≤ line.tokens.length)
    (enough : (Errand.rule .formula : Errand Value).steps line start ≤ steps + 1) :
    Settles line steps start
      (Errand.reading meaning unnamed line.finish start.levels (start.ahead line) (.rule .formula))
      fun more => formula line (send more) := by
  refine (sends.inPlace enough within (.rule .sum) (Nat.lt_succ_self 7)).bind
    fun value middle follows _ => .look follows.within ?_
  rcases ahead : middle.ahead line with _ | ⟨token, others⟩
  · exact .pure follows.within ahead value
  · exact settles_unexpected follows.within ahead .operatorOrEnd

/-- A chain goes on by the tokens that link, and is taken as the readers take it. -/
theorem settles_chain
    {errand : Errand Value}
    (within : start.index ≤ line.tokens.length)
    (enough : errand.steps line start ≤ steps + 1)
    (links : Links Value)
    (item : Reader Value)
    (rule : Rule)
    (repetition : Value → Errand Value)
    (itemReading : ∀ tokens,
      Errand.reading meaning unnamed line.finish start.levels tokens (.rule rule) =
        plain (item tokens))
    (chainReading : ∀ value tokens,
      (repetition value).reading meaning unnamed line.finish start.levels tokens =
        plain (readChain links item value tokens))
    (value : Value) :
    Settles line steps start (plain (readChain links item value (start.ahead line)))
      fun more => chain line (send more) links rule repetition value := by
  refine .look within ?_
  rcases found : start.ahead line with _ | ⟨token, others⟩
  · rw [plain_readChain_nil]
    exact .pure within found value
  · cases linked : links token with
    | none =>
        rw [plain_readChain, linked]
        simp only [List.head?_cons, Option.bind_some, linked]
        exact .pure within found value
    | some combine =>
        rw [plain_readChain_link linked, ← itemReading]
        simp only [List.head?_cons, Option.bind_some, linked, ← chainReading]
        exact settles_link sends enough found rule (combine value) repetition

theorem settles_signed
    (within : start.index ≤ line.tokens.length)
    (enough : (Errand.rule .signed : Errand Value).steps line start ≤ steps + 1) :
    Settles line steps start
      (Errand.reading meaning unnamed line.finish start.levels (start.ahead line) (.rule .signed))
      fun more => signed meaning line (send more) := by
  have unsigned := sends.inPlace enough within (.rule .power) (Nat.lt_succ_self 4)
  rw [Errand.reading] at unsigned
  rw [Errand.reading, plain_readSigned]
  refine .look within ?_
  rcases found : start.ahead line with _ | ⟨⟨lexeme, text, position⟩, others⟩
  · rw [found] at unsigned
    exact unsigned
  · rw [found] at unsigned
    cases lexeme with
    | operator symbol =>
        cases symbol with
        | minus =>
            obtain ⟨-, inside, rfl⟩ := exists_of_ahead found
            exact .take found ((sends.deeper enough inside (Nat.lt_succ_self _) .signed (·.signed)
              (fun _ _ => rfl) (fun _ => rfl)).bind fun operand middle follows _ =>
                .pure follows.within rfl (meaning.negate operand))
        | _ => exact unsigned
    | _ => exact unsigned

theorem settles_power
    (within : start.index ≤ line.tokens.length)
    (enough : (Errand.rule .power : Errand Value).steps line start ≤ steps + 1) :
    Settles line steps start
      (Errand.reading meaning unnamed line.finish start.levels (start.ahead line) (.rule .power))
      fun more => power meaning line (send more) := by
  rw [Errand.reading, plain_readPower]
  refine (sends.inPlace enough within (.rule .postfixed) (Nat.lt_succ_self 3)).bind
    fun base middle follows found => .look follows.within ?_
  have further := follows.index_lt found
  rw [← follows.levels]
  rcases ahead : middle.ahead line with _ | ⟨⟨lexeme, text, position⟩, others⟩
  · exact .pure follows.within ahead base
  · cases lexeme with
    | operator symbol =>
        cases symbol with
        | power =>
            obtain ⟨-, inside, rfl⟩ := exists_of_ahead ahead
            exact .take ahead ((sends.deeper enough inside (Nat.lt_succ_of_lt further) .signed
              (·.signed) (fun _ _ => rfl) (fun _ => rfl)).bind fun exponent behind followsOn _ =>
                settles_settle followsOn.within rfl (meaning.raise base exponent))
        | _ => exact .pure follows.within ahead base
    | _ => exact .pure follows.within ahead base

theorem settles_postfixes
    (within : start.index ≤ line.tokens.length)
    (value : Value)
    (enough : (Errand.postfixes value).steps line start ≤ steps + 1) :
    Settles line steps start
      (Errand.reading meaning unnamed line.finish start.levels (start.ahead line) (.postfixes value))
      fun more => postfixes meaning line (send more) value := by
  rw [Errand.reading, plain_readPostfixes]
  refine .look within ?_
  rcases found : start.ahead line with _ | ⟨⟨lexeme, text, position⟩, others⟩
  · exact .pure within found value
  · cases lexeme with
    | factorial | superscript =>
        obtain ⟨-, inside, rfl⟩ := exists_of_ahead found
        exact .take found (.settled inside fun value =>
          sends.further enough start.stepped inside (Nat.lt_succ_self _) (.postfixes value))
    | _ => exact .pure within found value

/-- What stands between a token and its closing one, one level deeper. -/
theorem settles_enclosed
    {errand : Errand Value}
    {middle : Cursor}
    {fits : Lexeme → Bool}
    {wanted : Wanted}
    (enough : errand.steps line start ≤ steps + 1)
    (within : middle.index ≤ line.tokens.length)
    (further : start.index < middle.index)
    (close : Value × List Token → Except Fault (Value × List Token))
    (finishing : Value → Except Fault Value)
    (fit : ∀ value token others, fits token.lexeme = true →
      close (value, token :: others) = (finishing value).map fun value => (value, others))
    (unfit : ∀ value tokens,
      (∀ token others, tokens = token :: others → fits token.lexeme = false) →
        close (value, tokens) = .error (Grammar.unexpected line.finish wanted tokens)) :
    Settles line steps middle
      (plain ((Level.above meaning line.finish middle.levels).sum (middle.ahead line)) >>= close)
      fun more => nested line (send more (.rule .sum)) >>= fun value =>
        expect line fits wanted >>= fun _ => settle (finishing value) := by
  refine (sends.deeper enough within further .sum (·.sum) (fun _ _ => rfl) (fun _ => rfl)).bind
    fun value behind follows _ => .expect follows.within (fun token others found fitting => ?_)
      (unfit value _)
  obtain ⟨-, inside, rfl⟩ := exists_of_ahead found
  rw [found, fit value token _ fitting]
  exact settles_settle inside rfl (finishing value)

/-- The inside of a group, of which something is made behind the closing parenthesis. -/
theorem settles_group
    {errand : Errand Value}
    {middle : Cursor}
    (enough : errand.steps line start ≤ steps + 1)
    (within : middle.index ≤ line.tokens.length)
    (further : start.index < middle.index)
    (finishing : Value → Except Fault Value) :
    Settles line steps middle
      (plain (readGroup line.finish (Level.above meaning line.finish middle.levels)
          (middle.ahead line)) >>= fun read =>
        (finishing read.1).map fun value => (value, read.2))
      fun more => nested line (send more (.rule .sum)) >>= fun value =>
        expect line (· matches .rightParenthesis) .closingParenthesis >>= fun _ =>
          settle (finishing value) := by
  rw [plain_readGroup, bind_assoc]
  refine settles_enclosed sends enough within further _ finishing ?_ ?_
  · rintro value ⟨lexeme, text, position⟩ others fitting
    cases lexeme with
    | rightParenthesis => rfl
    | _ => exact absurd fitting Bool.false_ne_true
  · intro value tokens unfit
    rcases tokens with _ | ⟨⟨lexeme, text, position⟩, others⟩
    · rfl
    · cases lexeme with
      | rightParenthesis => exact absurd (unfit _ _ rfl).symm Bool.false_ne_true
      | _ => rfl

theorem settles_bars
    {errand : Errand Value}
    {middle : Cursor}
    (enough : errand.steps line start ≤ steps + 1)
    (within : middle.index ≤ line.tokens.length)
    (further : start.index < middle.index) :
    Settles line steps middle
      (plain (readBars meaning line.finish (Level.above meaning line.finish middle.levels)
        (middle.ahead line)))
      fun more => nested line (send more (.rule .sum)) >>= fun value =>
        expect line (· matches .bar) .closingBar >>= fun _ => return meaning.absolute value := by
  rw [plain_readBars]
  refine settles_enclosed sends enough within further _ (fun value => .ok (meaning.absolute value))
    ?_ ?_
  · rintro value ⟨lexeme, text, position⟩ others fitting
    cases lexeme with
    | bar => rfl
    | _ => exact absurd fitting Bool.false_ne_true
  · intro value tokens unfit
    rcases tokens with _ | ⟨⟨lexeme, text, position⟩, others⟩
    · rfl
    · cases lexeme with
      | bar => exact absurd (unfit _ _ rfl).symm Bool.false_ne_true
      | _ => rfl

theorem settles_application
    (within : start.index ≤ line.tokens.length)
    (enough : (Errand.rule .application : Errand Value).steps line start ≤ steps + 1) :
    Settles line steps start
      (Errand.reading meaning unnamed line.finish start.levels (start.ahead line)
        (.rule .application))
      fun more => application meaning unnamed line (send more) := by
  rw [Errand.reading, readApplication]
  refine .step within (fun token others found => ?_) fun found => ?_
  · obtain ⟨-, inside, rfl⟩ := exists_of_ahead found
    rw [found]
    refine .expect inside (fun opening behind next fitting => ?_) fun unfit => ?_
    · obtain ⟨-, insideStill, rfl⟩ := exists_of_ahead next
      obtain ⟨lexeme, text, position⟩ := opening
      cases lexeme with
      | leftParenthesis =>
          rw [next]
          exact settles_group sends enough insideStill (Nat.lt_succ_of_lt (Nat.lt_succ_self _))
            (applied meaning unnamed (some token))
      | _ => exact absurd fitting Bool.false_ne_true
    · rcases next : start.stepped.ahead line with _ | ⟨⟨lexeme, text, position⟩, behind⟩
      · rfl
      · cases lexeme with
        | leftParenthesis => exact absurd (unfit _ _ next).symm Bool.false_ne_true
        | _ => rfl
  · -- At the end no parenthesis stands either.
    refine .expect within (fun opening behind next _ => ?_) fun _ => by rw [found]; rfl
    rw [found] at next
    exact absurd next (List.cons_ne_nil _ _).symm

theorem settles_primary
    (within : start.index ≤ line.tokens.length)
    (enough : (Errand.rule .primary : Errand Value).steps line start ≤ steps + 1) :
    Settles line steps start
      (Errand.reading meaning unnamed line.finish start.levels (start.ahead line) (.rule .primary))
      fun more => primary meaning line (send more) := by
  have apply := sends.inPlace enough within (.rule .application) (Nat.lt_succ_self 1)
  rw [Errand.reading] at apply
  rw [Errand.reading]
  refine .look within ?_
  rcases found : start.ahead line with _ | ⟨⟨lexeme, text, position⟩, others⟩
  · exact settles_unexpected within found .operand
  · rw [found] at apply
    obtain ⟨-, inside, rfl⟩ := exists_of_ahead found
    have further : start.index < start.stepped.index := Nat.lt_succ_self _
    cases lexeme with
    | function name power base =>
        rw [readPrimary_function]
        exact apply
    | number value | constant value =>
        rw [plain_readPrimary]
        exact .take found (settles_settle inside rfl (meaning.literal _ value))
    | leftParenthesis =>
        rw [plain_readPrimary]
        have group := settles_group sends enough inside further Except.ok
        rw [show ∀ reading : Except Fault (Value × List Token),
          (reading >>= fun read => (Except.ok read.1).map fun value => (value, read.2)) = reading
          from bind_pure] at group
        exact .take found group
    | bar =>
        rw [plain_readPrimary]
        exact .take found (settles_bars sends enough inside further)
    | root index =>
        rw [plain_readPrimary]
        exact .take found ((sends.deeper enough inside further .postfixed (·.postfixed)
          (fun _ _ => rfl) (fun _ => rfl)).bind fun radicand behind follows _ =>
            settles_settle follows.within rfl (meaning.root index radicand))
    | operator | factorial | superscript | rightParenthesis =>
        rw [plain_readPrimary]
        exact settles_unexpected within found .operand

/-- The walk of each errand settles, if the walks that it sends for do. -/
theorem settles_body
    (errand : Errand Value)
    (within : start.index ≤ line.tokens.length)
    (enough : errand.steps line start ≤ steps + 1) :
    Settles line steps start
      (errand.reading meaning unnamed line.finish start.levels (start.ahead line))
      fun more => body meaning unnamed line (send more) errand := by
  cases errand with
  | rule rule =>
      cases rule with
      | formula => exact settles_formula sends within enough
      | sum =>
          rw [Errand.reading, readSum, plain_readSequence]
          exact settles_sequence sends within enough (.rule .product) .terms
            (Nat.lt_succ_self 6) rfl
      | product =>
          rw [Errand.reading, readProduct, plain_readSequence]
          exact settles_sequence sends within enough (.rule .signed) .factors
            (Nat.lt_succ_self 5) rfl
      | signed => exact settles_signed sends within enough
      | power => exact settles_power sends within enough
      | postfixed =>
          rw [Errand.reading, plain_readPostfixed]
          exact settles_sequence sends within enough (.rule .primary) .postfixes
            (Nat.lt_succ_self 2) rfl
      | primary => exact settles_primary sends within enough
      | application => exact settles_application sends within enough
  | terms value =>
      exact settles_chain sends within enough meaning.terms _ .product .terms (fun _ => rfl)
        (fun _ _ => rfl) value
  | factors value =>
      exact settles_chain sends within enough meaning.factors _ .signed .factors (fun _ => rfl)
        (fun _ _ => rfl) value
  | postfixes value => exact settles_postfixes sends within value enough

end Bodies

end Walk

section Runs

open Walk

variable {Value : Type} (meaning : Interpretation Value)
  (unnamed : Option Token → Value → Except Fault Value) (line : TokenLine)

/-- Every walk settles as its reading, in the steps that are enough for it. -/
theorem settles_walk (steps : Nat) :
    Sends meaning unnamed line steps (walk meaning unnamed line) := by
  induction steps with
  | zero =>
      intro errand start within enough
      have positive := errand.rank_pos
      rw [Errand.steps] at enough
      omega
  | succ steps inductionHypothesis =>
      intro errand start within enough
      have settles := settles_body inductionHypothesis errand within enough
      exact Settles.succ settles fun more => rfl

/-- The value of a formula is what the walk of a formula ends with from its first entry. -/
theorem TokenLine.exists_walk_read :
    ∃ final : Cursor, ∀ steps, 8 * line.tokens.length + 8 ≤ steps →
      walk meaning unnamed line steps (.rule .formula) ⟨0, 0⟩ =
        ((line.read meaning).mapError .fault, final) := by
  obtain ⟨outcome, final, ran, -, -, read, -⟩ :=
    settles_walk meaning unnamed line _ (.rule .formula) ⟨0, 0⟩ (Nat.zero_le _) (Nat.le_refl _)
  have same : line.read meaning = outcome := by
    calc line.read meaning
        = Except.map Prod.fst (Errand.reading meaning unnamed line.finish deepestNesting
            line.tokens (.rule .formula)) := by
          rw [line.read_eq meaning, Errand.reading]
          rcases plain (readSum meaning line.finish _ line.tokens) with _ | read
          · rfl
          · show closeLine line.finish read = Except.map Prod.fst ((closeLine line.finish read).map _)
            cases closeLine line.finish read <;> rfl
      _ = Except.map Prod.fst (outcome.map fun value => (value, final.ahead line)) :=
          congrArg (Except.map Prod.fst) read
      _ = outcome := by cases outcome <;> rfl
  exact ⟨final, fun steps enough => by rw [same]; exact ran steps enough⟩

end Runs

/-! ## Progress -/

/-- What binds as tightly as this, or more, is not left behind what a rule has taken from
a given entry on. Behind a formula nothing is left, and what goes on the operand of a root
goes on the root. -/
def Rule.bond (first : Option Token) : Rule → Nat
  | .formula => 0
  | .sum => Category.sum.bond
  | .product => Category.product.bond
  | .signed => Category.signed.bond
  | .power => Category.power.bond
  | .postfixed => Category.postfixed.bond
  | .primary =>
      match first with
      | some ⟨.root _, _, _⟩ => Category.postfixed.bond
      | _ => Category.primary.bond
  | .application => Category.primary.bond

section Progress

variable {Value : Type} (meaning : Interpretation Value)
  (unnamed : Option Token → Value → Except Fault Value) (finish levels : Nat)

/-- What is left behind a rule does not go on what the rule has taken. -/
theorem leaves_rule (tokens : List Token) (rule : Rule) :
    Leaves (rule.bond tokens.head?)
      (Errand.reading meaning unnamed finish levels tokens (.rule rule)) := by
  have leaves := levelLeaves_above meaning finish levels
  cases rule with
  | formula => exact .behind fun read _ => .inFrontOf (closes_nil 0) _
  | sum => exact leaves_sum meaning finish leaves tokens
  | product => exact leaves_product meaning finish leaves tokens
  | signed => exact leaves_signed meaning finish leaves tokens
  | power => exact leaves_power meaning finish leaves tokens
  | postfixed => exact leaves_postfixed meaning finish tokens
  | primary =>
      rcases tokens with _ | ⟨⟨lexeme, text, position⟩, others⟩
      · exact fun read _ => closes_tightest read.2
      · cases lexeme with
        | root index => exact leaves_root meaning finish leaves index text position others
        | _ => exact fun read _ => closes_tightest read.2
  | application => exact fun read _ => closes_tightest read.2

/-- A rule that takes anything takes a token. -/
theorem shorter_of_rule
    {tokens : List Token}
    {rule : Rule}
    {read : Value × List Token}
    (found : Errand.reading meaning unnamed finish levels tokens (.rule rule) = .ok read) :
    read.2.length < tokens.length := by
  cases rule with
  | formula =>
      obtain ⟨inside, taken, behind⟩ := exists_of_bind_eq_ok found
      obtain ⟨value, -, rfl⟩ := exists_of_map_eq_ok behind
      have shorter : inside.2.length < tokens.length := taken_of_plain taken
      exact Nat.zero_lt_of_lt shorter
  | application =>
      rw [Errand.reading, readApplication] at found
      split at found
      next text position others behind =>
          obtain ⟨inside, taken, applies⟩ := exists_of_bind_eq_ok found
          obtain ⟨value, -, rfl⟩ := exists_of_map_eq_ok applies
          have shorter : inside.2.length < others.length := taken_of_plain taken
          have fewer := congrArg List.length behind
          simp only [List.length_tail, List.length_cons] at fewer
          show inside.2.length < tokens.length
          omega
      next => cases found
  | sum | product | signed | power | postfixed | primary => exact taken_of_plain found

end Progress

/-- Progress and bounds of the walks over a formula. From every entry, the end included,
and on every level, for every meaning of the constructs: no walk looks beyond the end or
moves beyond it or backward, in however many steps, also where it fails. Every walk ends:
in eight steps for each token ahead and eight more it comes to an end, a value or a
fault, that more steps do not change, and that is the end of the reading on the same
errand. A walk that ends with a value ends on the level of its start; one by a rule of
the grammar has taken a token, and stands in front of an entry that does not go on what
was taken. -/
theorem walk_progress
    {Value : Type}
    (meaning : Interpretation Value)
    (unnamed : Option Token → Value → Except Fault Value)
    (line : TokenLine)
    (errand : Errand Value)
    (start : Cursor)
    (within : start.index ≤ line.tokens.length) :
    (∀ steps,
      (walk meaning unnamed line steps errand start).1 ≠ .error .outOfRange ∧
        start.index ≤ (walk meaning unnamed line steps errand start).2.index ∧
        (walk meaning unnamed line steps errand start).2.index ≤ line.tokens.length) ∧
      ∃ (outcome : Except Fault Value) (final : Cursor),
        (∀ steps, 8 * (line.tokens.length - start.index) + 8 ≤ steps →
          walk meaning unnamed line steps errand start = (outcome.mapError .fault, final)) ∧
        errand.reading meaning unnamed line.finish start.levels (start.ahead line) =
          outcome.map (fun value => (value, final.ahead line)) ∧
        ∀ value, outcome = .ok value →
          final.depth = start.depth ∧
            ∀ rule, errand = .rule rule →
              start.index < final.index ∧
                Closes (rule.bond (start.ahead line).head?) (final.ahead line) := by
  refine ⟨fun steps => bounded_walk meaning unnamed line steps errand start within, ?_⟩
  obtain ⟨outcome, final, ran, forward, inside, read, level⟩ :=
    settles_walk meaning unnamed line _ errand start within (Nat.le_refl _)
  refine ⟨outcome, final, fun steps enough => ?_, read, ?_⟩
  · have highest := errand.rank_le
    exact ran steps (Nat.le_trans (Nat.add_le_add_left highest _) enough)
  · rintro value rfl
    refine ⟨level value rfl, ?_⟩
    rintro rule rfl
    refine ⟨?_, leaves_rule meaning unnamed _ _ _ rule _ read⟩
    have shorter := shorter_of_rule meaning unnamed _ _ read
    simp only [Cursor.ahead, List.length_drop] at shorter
    omega

open RootAndFactorial in
/-- In `√4!`, where one level may still be opened, the walk of a primary from the root on
opens it, takes the factorial with the operand, closes the level again and stands at the
end. -/
theorem walk_progress_root :
    tokenize "√4!" = .ok line ∧
      0 ≤ line.tokens.length ∧
      walk Interpretation.shape (fun _ _ => .ok ()) line 32 (.rule .primary) ⟨0, 63⟩ =
        (.ok (), ⟨3, 63⟩) ∧
      (∀ steps,
        (walk Interpretation.shape (fun _ _ => .ok ()) line steps (.rule .primary) ⟨0, 63⟩).1 ≠
            .error .outOfRange ∧
          0 ≤ (walk Interpretation.shape (fun _ _ => .ok ()) line steps (.rule .primary)
            ⟨0, 63⟩).2.index ∧
          (walk Interpretation.shape (fun _ _ => .ok ()) line steps (.rule .primary)
            ⟨0, 63⟩).2.index ≤ line.tokens.length) ∧
      ∃ (outcome : Except Fault Unit) (final : Cursor),
        (∀ steps, 8 * (line.tokens.length - 0) + 8 ≤ steps →
          walk Interpretation.shape (fun _ _ => .ok ()) line steps (.rule .primary) ⟨0, 63⟩ =
            (outcome.mapError .fault, final)) ∧
        Errand.reading Interpretation.shape (fun _ _ => .ok ()) line.finish
            (Cursor.levels ⟨0, 63⟩) (Cursor.ahead line ⟨0, 63⟩) (.rule .primary) =
          outcome.map (fun value => (value, final.ahead line)) ∧
        ∀ value, outcome = .ok value →
          final.depth = 63 ∧
            ∀ rule, (Errand.rule .primary : Errand Unit) = .rule rule →
              0 < final.index ∧
                Closes (rule.bond (Cursor.ahead line ⟨0, 63⟩).head?) (final.ahead line) :=
  ⟨tokenize_text, Nat.zero_le _, rfl,
    walk_progress Interpretation.shape (fun _ _ => .ok ()) line (.rule .primary) ⟨0, 63⟩
      (Nat.zero_le _)⟩

end FormulaGrid
