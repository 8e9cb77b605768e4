import FormulaGrid.Proofs.Formula.Steps

/-!
Contract: what a reader leaves does not go on what it has taken.

Owns:
- the readings behind which no token of a bond is left (`Grammar.Leaves`);
- each reader of the grammar leaves none of its own bond, if the readers of the level
  below leave none of theirs (`Grammar.LevelLeaves`);
- the readers of every level (`Grammar.levelLeaves_above`).

Does not own: that a reader takes tokens at all, which its type says.
-/

namespace FormulaGrid

theorem closes_nil (bond : Nat) : Closes bond [] :=
  trivial

/-- Nothing goes on a primary as such. -/
theorem closes_tightest (tokens : List Token) : Closes Category.primary.bond tokens := by
  rcases tokens with _ | ⟨⟨lexeme, text, position⟩, others⟩
  · exact closes_nil _
  · show lexeme.bond < 5
    unfold Lexeme.bond
    split <;> decide

namespace Grammar

variable {Value : Type}

/-- A reading that succeeds leaves no token that binds as tightly as given. -/
def Leaves (bond : Nat) (outcome : Except Fault (Value × List Token)) : Prop :=
  ∀ read, outcome = .ok read → Closes bond read.2

/-- What comes last decides what is left. -/
theorem Leaves.behind
    {First : Type}
    {bond : Nat}
    {outcome : Except Fault First}
    {next : First → Except Fault (Value × List Token)}
    (leaves : ∀ first, outcome = .ok first → Leaves bond (next first)) :
    Leaves bond (outcome >>= next) := by
  intro read found
  obtain ⟨first, same, behind⟩ := exists_of_bind_eq_ok found
  exact leaves first same read behind

/-- A value in front of given tokens leaves these. -/
theorem Leaves.inFrontOf
    {bond : Nat}
    {given : List Token}
    (closes : Closes bond given)
    (outcome : Except Fault Value) :
    Leaves bond (outcome.map fun value => (value, given)) := by
  intro read found
  obtain ⟨value, -, rfl⟩ := exists_of_map_eq_ok found
  exact closes

/-- The readers that a level lends to the constructs around it leave nothing that goes
on what they take. -/
structure LevelLeaves (level : Level Value) : Prop where
  signed : ∀ tokens, Leaves Category.signed.bond (plain (level.signed tokens))
  postfixed : ∀ tokens, Leaves Category.postfixed.bond (plain (level.postfixed tokens))

section Readers

variable (meaning : Interpretation Value) (finish : Nat) {inner : Level Value}

/-! ## Primaries and postfixes -/

/-- What goes on the operand of a root does not stand behind it. -/
theorem leaves_root
    (leaves : LevelLeaves inner)
    (index : Float)
    (text : String)
    (position : Nat)
    (others : List Token) :
    Leaves Category.postfixed.bond
      (plain (readPrimary meaning finish inner (⟨.root index, text, position⟩ :: others))) := by
  rw [plain_readPrimary]
  exact .behind fun read found => .inFrontOf (leaves.postfixed others read found) _

/-- No factorial and no superscript is left behind postfixes. -/
theorem leaves_postfixes (value : Value) (tokens : List Token) :
    Leaves Category.postfixes.bond (plain (readPostfixes meaning value tokens)) := by
  induction tokens generalizing value with
  | nil => exact .inFrontOf (closes_nil _) (.ok value)
  | cons token others inductionHypothesis =>
      have closes := closes_tightest (token :: others)
      obtain ⟨lexeme, text, position⟩ := token
      rw [plain_readPostfixes]
      cases lexeme with
      | factorial | superscript => exact .behind fun value _ => inductionHypothesis value
      | operator symbol =>
          refine .inFrontOf (closes.tighten ?_) (.ok value)
          cases symbol <;> simp [Lexeme.bond]
      | _ => exact .inFrontOf (closes.tighten (by simp [Lexeme.bond])) (.ok value)

theorem leaves_postfixed (tokens : List Token) :
    Leaves Category.postfixed.bond (plain (readPostfixed meaning finish inner tokens)) := by
  rw [plain_readPostfixed]
  exact .behind fun read _ => leaves_postfixes meaning read.1 read.2

/-! ## Powers and signs -/

/-- Behind a base an exponent is taken with its own power, so no power sign is left. -/
theorem leaves_raiseBase
    (leaves : LevelLeaves inner)
    (base : Value)
    (tokens : List Token)
    (closes : Closes Category.postfixed.bond tokens) :
    Leaves Category.power.bond (raiseBase meaning inner (base, tokens)) := by
  rcases tokens with _ | ⟨⟨lexeme, text, position⟩, others⟩
  · exact .inFrontOf (closes_nil _) (.ok base)
  · cases lexeme with
    | operator symbol =>
        cases symbol with
        | power =>
            exact .behind fun read found => .inFrontOf (leaves.signed others read found) _
        | _ => exact .inFrontOf (closes.tighten (by simp [Lexeme.bond])) (.ok base)
    | _ => exact .inFrontOf (closes.tighten (by simp [Lexeme.bond])) (.ok base)

theorem leaves_power (leaves : LevelLeaves inner) (tokens : List Token) :
    Leaves Category.power.bond (plain (readPower meaning finish inner tokens)) := by
  rw [plain_readPower]
  exact .behind fun read found =>
    leaves_raiseBase meaning leaves read.1 read.2
      (leaves_postfixed meaning finish tokens read found)

theorem leaves_signed (leaves : LevelLeaves inner) (tokens : List Token) :
    Leaves Category.signed.bond (plain (readSigned meaning finish inner tokens)) := by
  rw [plain_readSigned]
  split
  next others =>
      exact .behind fun read found =>
        .inFrontOf (leaves.signed others read found) (.ok (meaning.negate read.1))
  next => exact leaves_power meaning finish leaves _

/-! ## Products and sums -/

omit meaning finish in
/-- A chain leaves no token of its bond: its items leave what the next link asks for. -/
theorem leaves_chain
    {links : Links Value}
    {bond : Nat}
    (bind : Links.Bind links bond)
    {item : Reader Value}
    (leaves : ∀ tokens, Leaves (bond + 1) (plain (item tokens)))
    (value : Value)
    (tokens : List Token) :
    Closes (bond + 1) tokens → Leaves bond (plain (readChain links item value tokens)) := by
  induction tokens using chain_induction links generalizing value with
  | ends tokens stops =>
      intro closes
      rw [plain_readChain_ends stops]
      exact .inFrontOf (bind.closes stops closes) (.ok value)
  | goesOn token others combine linked inductionHypothesis =>
      intro _
      rw [plain_readChain_link linked]
      refine .behind fun read found => .behind fun total _ => ?_
      have shorter : read.2.length < others.length := taken_of_plain found
      exact inductionHypothesis read.2 (Nat.le_of_lt shorter) total (leaves others read found)

omit meaning finish in
/-- An item and the chain behind it leave what the chain leaves. -/
theorem leaves_sequence
    {links : Links Value}
    {bond : Nat}
    (bind : Links.Bind links bond)
    {item : Reader Value}
    (leaves : ∀ tokens, Leaves (bond + 1) (plain (item tokens)))
    (tokens : List Token) :
    Leaves bond (plain (readSequence links item tokens)) := by
  rw [plain_readSequence]
  exact .behind fun read found =>
    leaves_chain bind leaves read.1 read.2 (leaves tokens read found)

theorem leaves_product (leaves : LevelLeaves inner) (tokens : List Token) :
    Leaves Category.product.bond (plain (readProduct meaning finish inner tokens)) :=
  leaves_sequence (bind_factors meaning) (leaves_signed meaning finish leaves) tokens

theorem leaves_sum (leaves : LevelLeaves inner) (tokens : List Token) :
    Leaves Category.sum.bond (plain (readSum meaning finish inner tokens)) :=
  leaves_sequence (bind_terms meaning) (leaves_product meaning finish leaves) tokens

/-! ## Levels -/

/-- The readers of every level leave nothing that goes on what they take. -/
theorem levelLeaves_above (levels : Nat) :
    LevelLeaves (Level.above meaning finish levels) := by
  induction levels with
  | zero => exact ⟨fun _ _ found => (nomatch found), fun _ _ found => (nomatch found)⟩
  | succ below inductionHypothesis =>
      exact ⟨leaves_signed meaning finish inductionHypothesis,
        leaves_postfixed meaning finish⟩

end Readers

end Grammar

end FormulaGrid
