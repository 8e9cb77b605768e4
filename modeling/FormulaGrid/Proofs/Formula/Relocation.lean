import FormulaGrid.Proofs.Formula.Lockstep
import FormulaGrid.Proofs.Formula.Placeless

/-!
Contract: a reading moves with its tokens.

Owns:
- tokens with their places moved (`Token.moved`);
- meanings that know a place only for a fault that lies there (`Interpretation.Movable`), as the
  arithmetic does (`arithmetic_movable`);
- moved tokens are read to the moved outcome, at every level (`levelMoves_above`) and as a
  formula (`TokenLine.read_moved`);
- formulas with the same tokens in other places have the same value, or the same fault at
  corresponding tokens (`TokenLine.read_numbered`).

Does not own: the places that a text gives its tokens.
-/

namespace FormulaGrid

open Grammar

/-! ## Places that are moved -/

/-- The token in another place. -/
def Token.moved (move : Nat → Nat) (token : Token) : Token :=
  { token with position := move token.position }

theorem Fault.moved_zero (fault : Fault) : fault.moved (fun _ => 0) = fault.unplaced := by
  cases fault with
  | formula cause => cases cause <;> rfl
  | _ => rfl

section Moved

variable {Value First Second : Type} (move : Nat → Nat)

/-- The outcome, with the place of a fault moved. -/
def movedFault (outcome : Except Fault Value) : Except Fault Value :=
  outcome.mapError (Fault.moved move)

/-- What was read, with the places of the tokens that are left and of a fault moved. -/
def movedRead (outcome : Except Fault (Value × List Token)) : Except Fault (Value × List Token) :=
  movedFault move (outcome.map fun read => (read.1, read.2.map (Token.moved move)))

variable {move}

/-- What fails nowhere in particular stays as it is. -/
theorem movedFault_of_placeless
    {outcome : Except Fault Value}
    (placeless : FailsNowhere outcome) :
    movedFault move outcome = outcome := by
  cases outcome with
  | ok value => rfl
  | error fault => exact congrArg Except.error (placeless move)

/-- Behind a moved reading its moved rest is gone on with. -/
theorem movedRead_bind
    {outcome : Except Fault (First × List Token)}
    {next movedNext : First × List Token → Except Fault (Second × List Token)}
    (goesOn : ∀ value rest,
      movedNext (value, rest.map (Token.moved move)) = movedRead move (next (value, rest))) :
    movedRead move outcome >>= movedNext = movedRead move (outcome >>= next) := by
  cases outcome with
  | ok read => exact goesOn read.1 read.2
  | error fault => rfl

/-- A value in front of tokens that are left. -/
theorem movedRead_leaving
    {outcome moved : Except Fault Value}
    (same : moved = movedFault move outcome)
    (rest : List Token) :
    moved.map (fun value => (value, rest.map (Token.moved move))) =
      movedRead move (outcome.map fun value => (value, rest)) := by
  rw [same]
  cases outcome <;> rfl

/-- What stands in front of a reading and fails nowhere in particular. -/
theorem placeless_bind
    {outcome : Except Fault First}
    {next movedNext : First → Except Fault (Second × List Token)}
    (placeless : FailsNowhere outcome)
    (goesOn : ∀ value, movedNext value = movedRead move (next value)) :
    outcome >>= movedNext = movedRead move (outcome >>= next) := by
  cases outcome with
  | ok value => exact goesOn value
  | error fault => exact congrArg Except.error (placeless move).symm

end Moved

/-! ## Meanings -/

/-- The meaning knows where a construct stands only for a fault that lies there. -/
structure Interpretation.Movable {Value : Type} (meaning : Interpretation Value) : Prop where
  literal : ∀ (move : Nat → Nat) (token : Token) (value : Float),
    meaning.literal (token.moved move) value = movedFault move (meaning.literal token value)
  divide : ∀ (move : Nat → Nat) (position : Nat) (left right : Value),
    meaning.divide (move position) left right =
      movedFault move (meaning.divide position left right)
  add : ∀ left right, FailsNowhere (meaning.add left right)
  subtract : ∀ left right, FailsNowhere (meaning.subtract left right)
  multiply : ∀ left right, FailsNowhere (meaning.multiply left right)
  raise : ∀ base exponent, FailsNowhere (meaning.raise base exponent)
  superscript : ∀ base exponent,
    FailsNowhere (meaning.superscript base exponent)
  factorial : ∀ operand, FailsNowhere (meaning.factorial operand)
  root : ∀ index radicand, FailsNowhere (meaning.root index radicand)
  apply : ∀ name power base argument,
    FailsNowhere (meaning.apply name power base argument)

/-! ## Readers -/

namespace Grammar

variable {Value : Type}

/-- At the second level, moved tokens are read to what the first one reads, moved. -/
structure LevelMoves (move : Nat → Nat) (inner moved : Level Value) : Prop where
  sum : ∀ tokens, plain (moved.sum (tokens.map (Token.moved move))) =
    movedRead move (plain (inner.sum tokens))
  signed : ∀ tokens, plain (moved.signed (tokens.map (Token.moved move))) =
    movedRead move (plain (inner.signed tokens))
  postfixed : ∀ tokens, plain (moved.postfixed (tokens.map (Token.moved move))) =
    movedRead move (plain (inner.postfixed tokens))

/-! ### Chains -/

/-- By a moved sign the chain goes on as by the sign, but that the places of faults move. -/
def Links.Moves (move : Nat → Nat) (links : Links Value) : Prop :=
  ∀ token, Option.Rel
    (fun combine moved => ∀ left right,
      moved left right = movedFault move (combine left right))
    (links token) (links (token.moved move))

theorem moves_terms
    {meaning : Interpretation Value}
    (movable : meaning.Movable)
    (move : Nat → Nat) :
    Links.Moves move meaning.terms := by
  rintro ⟨lexeme, text, position⟩
  cases lexeme with
  | operator symbol =>
      cases symbol with
      | plus =>
          exact .some fun left right => (movedFault_of_placeless (movable.add left right)).symm
      | minus =>
          exact .some fun left right =>
            (movedFault_of_placeless (movable.subtract left right)).symm
      | _ => exact .none
  | _ => exact .none

theorem moves_factors
    {meaning : Interpretation Value}
    (movable : meaning.Movable)
    (move : Nat → Nat) :
    Links.Moves move meaning.factors := by
  rintro ⟨lexeme, text, position⟩
  cases lexeme with
  | operator symbol =>
      cases symbol with
      | times =>
          exact .some fun left right =>
            (movedFault_of_placeless (movable.multiply left right)).symm
      | dividedBy => exact .some (movable.divide move position)
      | _ => exact .none
  | _ => exact .none

section Chain

variable {move : Nat → Nat} {links : Links Value} (moves : Links.Moves move links)
  {item movedItem : Reader Value}
  (sameItem : ∀ tokens, plain (movedItem (tokens.map (Token.moved move))) =
    movedRead move (plain (item tokens)))

include moves sameItem

/-- A moved chain is read to the moved outcome, if its items are. -/
theorem moved_readChain (value : Value) (tokens : List Token) :
    plain (readChain links movedItem value (tokens.map (Token.moved move))) =
      movedRead move (plain (readChain links item value tokens)) := by
  induction tokens using chain_induction links generalizing value with
  | ends tokens stops =>
      rw [plain_readChain_ends stops]
      refine plain_readChain_ends (fun movedToken isFirst => ?_) value
      rw [List.head?_map] at isFirst
      obtain ⟨token, isHead, rfl⟩ := Option.mem_map.mp isFirst
      have same := moves token
      rw [stops token isHead] at same
      exact eq_none_of_rel_none same
  | goesOn token others combine linked inductionHypothesis =>
      have same := moves token
      rw [linked] at same
      obtain ⟨movedCombine, movedLinked, combines⟩ := exists_of_rel_some same
      rw [List.map_cons, plain_readChain_link movedLinked, plain_readChain_link linked, sameItem]
      cases found : plain (item others) with
      | error fault => rfl
      | ok read =>
          obtain ⟨right, rest⟩ := read
          show movedCombine value right >>= _ = movedRead move (combine value right >>= _)
          rw [combines]
          cases combine value right with
          | error fault => rfl
          | ok total =>
              have shorter : rest.length < others.length := taken_of_plain found
              exact inductionHypothesis rest (Nat.le_of_lt shorter) total

theorem moved_readSequence (tokens : List Token) :
    plain (readSequence links movedItem (tokens.map (Token.moved move))) =
      movedRead move (plain (readSequence links item tokens)) := by
  rw [plain_readSequence, plain_readSequence, sameItem]
  exact movedRead_bind (moved_readChain moves sameItem)

end Chain

/-! ### Categories -/

section Readers

variable {meaning : Interpretation Value} {move : Nat → Nat} {finish : Nat}
  {inner moved : Level Value} (movable : meaning.Movable) (level : LevelMoves move inner moved)

theorem moved_closeGroup (value : Value) (rest : List Token) :
    closeGroup (move finish) (value, rest.map (Token.moved move)) =
      movedRead move (closeGroup finish (value, rest)) := by
  rcases rest with _ | ⟨⟨lexeme, text, position⟩, others⟩
  · rfl
  · cases lexeme <;> rfl

theorem moved_closeBars (value : Value) (rest : List Token) :
    closeBars meaning (move finish) (value, rest.map (Token.moved move)) =
      movedRead move (closeBars meaning finish (value, rest)) := by
  rcases rest with _ | ⟨⟨lexeme, text, position⟩, others⟩
  · rfl
  · cases lexeme <;> rfl

include level

theorem moved_readGroup (tokens : List Token) :
    plain (readGroup (move finish) moved (tokens.map (Token.moved move))) =
      movedRead move (plain (readGroup finish inner tokens)) := by
  rw [plain_readGroup, plain_readGroup, level.sum]
  exact movedRead_bind moved_closeGroup

theorem moved_readBars (tokens : List Token) :
    plain (readBars meaning (move finish) moved (tokens.map (Token.moved move))) =
      movedRead move (plain (readBars meaning finish inner tokens)) := by
  rw [plain_readBars, plain_readBars, level.sum]
  exact movedRead_bind moved_closeBars

theorem moved_readArgument (name : FunctionName) (tokens : List Token) :
    plain (readArgument (move finish) moved name (tokens.map (Token.moved move))) =
      movedRead move (plain (readArgument finish inner name tokens)) := by
  rw [plain_readArgument, plain_readArgument]
  rcases tokens with _ | ⟨⟨lexeme, text, position⟩, others⟩
  · rfl
  · cases lexeme with
    | leftParenthesis => exact moved_readGroup level others
    | _ => rfl

include movable

theorem moved_readPrimary (tokens : List Token) :
    plain (readPrimary meaning (move finish) moved (tokens.map (Token.moved move))) =
      movedRead move (plain (readPrimary meaning finish inner tokens)) := by
  rcases tokens with _ | ⟨⟨lexeme, text, position⟩, others⟩
  · rfl
  · rw [List.map_cons, plain_readPrimary, plain_readPrimary]
    cases lexeme with
    | number value | constant value =>
        exact movedRead_leaving (movable.literal move ⟨_, text, position⟩ value) others
    | leftParenthesis => exact moved_readGroup level others
    | bar => exact moved_readBars level others
    | function name power base =>
        dsimp only [Token.moved]
        rw [moved_readArgument level]
        exact movedRead_bind fun argument rest =>
          movedRead_leaving (movedFault_of_placeless (movable.apply name power base argument)).symm
            rest
    | root index =>
        dsimp only [Token.moved]
        rw [level.postfixed]
        exact movedRead_bind fun radicand rest =>
          movedRead_leaving (movedFault_of_placeless (movable.root index radicand)).symm rest
    | operator | factorial | superscript | rightParenthesis => rfl

omit level in
theorem moved_readPostfixes (value : Value) (tokens : List Token) :
    plain (readPostfixes meaning value (tokens.map (Token.moved move))) =
      movedRead move (plain (readPostfixes meaning value tokens)) := by
  induction tokens generalizing value with
  | nil => rfl
  | cons token others inductionHypothesis =>
      obtain ⟨lexeme, text, position⟩ := token
      rw [List.map_cons, plain_readPostfixes, plain_readPostfixes]
      cases lexeme with
      | factorial => exact placeless_bind (movable.factorial value) inductionHypothesis
      | superscript exponent =>
          exact placeless_bind (movable.superscript value exponent) inductionHypothesis
      | _ => rfl

theorem moved_readPostfixed (tokens : List Token) :
    plain (readPostfixed meaning (move finish) moved (tokens.map (Token.moved move))) =
      movedRead move (plain (readPostfixed meaning finish inner tokens)) := by
  rw [plain_readPostfixed, plain_readPostfixed, moved_readPrimary movable level]
  exact movedRead_bind (moved_readPostfixes movable)

theorem moved_raiseBase (base : Value) (rest : List Token) :
    raiseBase meaning moved (base, rest.map (Token.moved move)) =
      movedRead move (raiseBase meaning inner (base, rest)) := by
  rcases rest with _ | ⟨⟨lexeme, text, position⟩, others⟩
  · rfl
  · cases lexeme with
    | operator symbol =>
        cases symbol with
        | power =>
            show plain (moved.signed (others.map (Token.moved move))) >>= _ = movedRead move _
            rw [level.signed]
            exact movedRead_bind fun exponent rest =>
              movedRead_leaving (movedFault_of_placeless (movable.raise base exponent)).symm rest
        | _ => rfl
    | _ => rfl

theorem moved_readPower (tokens : List Token) :
    plain (readPower meaning (move finish) moved (tokens.map (Token.moved move))) =
      movedRead move (plain (readPower meaning finish inner tokens)) := by
  rw [plain_readPower, plain_readPower, moved_readPostfixed movable level]
  exact movedRead_bind (moved_raiseBase movable level)

theorem moved_readSigned (tokens : List Token) :
    plain (readSigned meaning (move finish) moved (tokens.map (Token.moved move))) =
      movedRead move (plain (readSigned meaning finish inner tokens)) := by
  rw [plain_readSigned, plain_readSigned]
  rcases tokens with _ | ⟨⟨lexeme, text, position⟩, others⟩
  · exact moved_readPower movable level []
  · have power : plain (readPower meaning (move finish) moved _) = _ :=
      moved_readPower movable level (⟨lexeme, text, position⟩ :: others)
    cases lexeme with
    | operator symbol =>
        cases symbol with
        | minus =>
            show plain (moved.signed (others.map (Token.moved move))) >>= _ = movedRead move _
            rw [level.signed]
            exact movedRead_bind fun value rest => rfl
        | _ => exact power
    | _ => exact power

theorem moved_readProduct (tokens : List Token) :
    plain (readProduct meaning (move finish) moved (tokens.map (Token.moved move))) =
      movedRead move (plain (readProduct meaning finish inner tokens)) :=
  moved_readSequence (moves_factors movable move) (moved_readSigned movable level) tokens

theorem moved_readSum (tokens : List Token) :
    plain (readSum meaning (move finish) moved (tokens.map (Token.moved move))) =
      movedRead move (plain (readSum meaning finish inner tokens)) :=
  moved_readSequence (moves_terms movable move) (moved_readProduct movable level) tokens

end Readers

/-! ## Levels and formulas -/

section Levels

variable {meaning : Interpretation Value} (movable : meaning.Movable) (move : Nat → Nat)

include movable

/-- Moved tokens are read to the moved outcome, however many levels are left. -/
theorem levelMoves_above (finish levels : Nat) :
    LevelMoves move (Level.above meaning finish levels)
      (Level.above meaning (move finish) levels) := by
  induction levels with
  | zero =>
      have tooDeep (tokens : List Token) :
          plain ((Level.exhausted (move finish)).sum (tokens.map (Token.moved move))) =
            movedRead move (plain ((Level.exhausted finish : Level Value).sum tokens)) := by
        cases tokens <;> rfl
      exact ⟨tooDeep, tooDeep, tooDeep⟩
  | succ levels inductionHypothesis =>
      exact ⟨moved_readSum movable inductionHypothesis,
        moved_readSigned movable inductionHypothesis,
        moved_readPostfixed movable inductionHypothesis⟩

end Levels

end Grammar

/-- The formula in another place. -/
def TokenLine.moved (move : Nat → Nat) (line : TokenLine) : TokenLine :=
  ⟨line.tokens.map (Token.moved move), move line.finish⟩

/-- A moved formula has the moved outcome. -/
theorem TokenLine.read_moved
    {Value : Type}
    {meaning : Interpretation Value}
    (movable : meaning.Movable)
    (move : Nat → Nat)
    (line : TokenLine) :
    (line.moved move).read meaning = movedFault move (line.read meaning) := by
  rw [TokenLine.read_eq, TokenLine.read_eq]
  have sum : plain (readSum meaning (line.moved move).finish
      (Level.above meaning (line.moved move).finish deepestNesting) (line.moved move).tokens) = _ :=
    moved_readSum movable (levelMoves_above movable move line.finish deepestNesting) line.tokens
  rw [sum]
  cases plain (readSum meaning line.finish _ line.tokens) with
  | error fault => rfl
  | ok read =>
      obtain ⟨value, _ | ⟨token, others⟩⟩ := read <;> rfl

/-! ## Formulas with the same tokens -/

/-- The place of a token that is given by its number, and the end of the formula behind the
last one. -/
def TokenLine.place (line : TokenLine) (index : Nat) : Nat :=
  (line.tokens[index]?.map Token.position).getD line.finish

/-- The formula with numbers in place of positions. -/
def TokenLine.numbered (line : TokenLine) : TokenLine :=
  ⟨line.tokens.mapIdx fun index token => { token with position := index }, line.tokens.length⟩

theorem TokenLine.moved_numbered (line : TokenLine) : line.numbered.moved line.place = line := by
  have behind : line.place line.tokens.length = line.finish := by
    simp [TokenLine.place]
  refine congrArg₂ TokenLine.mk
    (List.ext_getElem (by simp [numbered]) fun index _ within => ?_) behind
  simp [numbered, Token.moved, TokenLine.place, within]

/-- The same tokens have the same numbers, wherever they stand. -/
theorem TokenLine.numbered_eq
    {left right : TokenLine}
    (same : left.tokens.map Token.unplaced = right.tokens.map Token.unplaced) :
    left.numbered = right.numbered := by
  have unplaced (line : TokenLine) : line.numbered =
      ⟨(line.tokens.map Token.unplaced).mapIdx fun index token => { token with position := index },
        (line.tokens.map Token.unplaced).length⟩ := by
    rw [List.length_map]
    exact congrArg (TokenLine.mk · _) (List.ext_getElem (by simp) fun index _ _ => by
      simp [Token.unplaced])
  rw [unplaced left, unplaced right, same]

/-- Formulas with the same tokens have the same outcome, but that a fault lies at the token with
the same number. -/
theorem TokenLine.read_numbered
    {Value : Type}
    {meaning : Interpretation Value}
    (movable : meaning.Movable)
    {left right : TokenLine}
    (same : left.tokens.map Token.unplaced = right.tokens.map Token.unplaced) :
    left.read meaning = movedFault left.place (left.numbered.read meaning) ∧
      right.read meaning = movedFault right.place (left.numbered.read meaning) := by
  constructor
  · rw [← TokenLine.read_moved movable, left.moved_numbered]
  · rw [numbered_eq same, ← TokenLine.read_moved movable, right.moved_numbered]

open Arithmetic in
/-- Of the arithmetic, only a division knows its place, and tells it only in its fault. -/
theorem arithmetic_movable (functions : Elementary) : (arithmetic functions).Movable where
  literal move token value :=
    (movedFault_of_placeless (fails_checked ("literal " ++ token.text) value).failsNowhere).symm
  divide move position left right := by
    show Arithmetic.divide _ _ _ = movedFault move (Arithmetic.divide _ _ _)
    unfold Arithmetic.divide
    split
    · rfl
    · exact (movedFault_of_placeless (fails_checked _ _).failsNowhere).symm
  add _ _ := (fails_checked _ _).failsNowhere
  subtract _ _ := (fails_checked _ _).failsNowhere
  multiply _ _ := (fails_checked _ _).failsNowhere
  raise base exponent := (fails_raiseTo functions base exponent _).failsNowhere
  superscript base exponent := (fails_raiseTo functions base exponent _).failsNowhere
  factorial operand := (fails_factorial operand).failsNowhere
  root index radicand := (fails_root functions index radicand).failsNowhere
  apply name power base argument :=
    (fails_apply functions name power base argument).failsNowhere

end FormulaGrid
