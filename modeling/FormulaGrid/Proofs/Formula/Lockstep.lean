import FormulaGrid.Proofs.Formula.Contract
import FormulaGrid.Proofs.Formula.Places

/-!
Contract: two readings that take the same steps.

Owns:
- outcomes that correspond (`Corresponds`): related values, or faults that differ in their place
  only, or the limit of nesting ends one of them;
- tokens that are alike (`Alike`): the same but for their places and for groups that are worth
  the same;
- alike tokens are read to corresponding outcomes, at whatever levels (`corresponds_levels`);
- the tokens of a formula that has a value are worth it inside every group
  (`readsAs_of_read`).

A reading knows of a group its value alone. Behind the group it goes on with the same token on
both sides, so by induction on the levels both readings take the same way.
-/

namespace FormulaGrid

open Grammar

/-! ## Outcomes that correspond -/

/-- The outcomes are related values, or faults that differ in their place only. Nothing is said
where the limit of nesting ends one of the readings. -/
inductive Corresponds {First Second : Type} (Related : First → Second → Prop) :
    Except Fault First → Except Fault Second → Prop where
  | value {left : First} {right : Second} (related : Related left right) :
      Corresponds Related (.ok left) (.ok right)
  | fault {left right : Fault} (same : left.unplaced = right.unplaced) :
      Corresponds Related (.error left) (.error right)
  | leftTooDeep (position : Nat) (right : Except Fault Second) :
      Corresponds Related (.error (.formula (.nestedTooDeep position))) right
  | rightTooDeep (left : Except Fault First) (position : Nat) :
      Corresponds Related left (.error (.formula (.nestedTooDeep position)))

namespace Corresponds

variable {First Second Third Fourth : Type} {Related : First → Second → Prop}
  {Other : Third → Fourth → Prop}

theorem refl (outcome : Except Fault First) : Corresponds Eq outcome outcome := by
  cases outcome with
  | ok value => exact .value rfl
  | error fault => exact .fault rfl

/-- Corresponding readings that are gone on from in corresponding ways. -/
theorem bind
    {left : Except Fault First}
    {right : Except Fault Second}
    {leftNext : First → Except Fault Third}
    {rightNext : Second → Except Fault Fourth}
    (corresponds : Corresponds Related left right)
    (goesOn : ∀ first second, left = .ok first → right = .ok second → Related first second →
      Corresponds Other (leftNext first) (rightNext second)) :
    Corresponds Other (left >>= leftNext) (right >>= rightNext) := by
  cases corresponds with
  | value related => exact goesOn _ _ rfl rfl related
  | fault same => exact .fault same
  | leftTooDeep position right => exact .leftTooDeep position _
  | rightTooDeep left position => exact .rightTooDeep _ position

theorem map
    {left : Except Fault First}
    {right : Except Fault Second}
    {leftFunction : First → Third}
    {rightFunction : Second → Fourth}
    (corresponds : Corresponds Related left right)
    (keeps : ∀ first second, Related first second →
      Other (leftFunction first) (rightFunction second)) :
    Corresponds Other (left.map leftFunction) (right.map rightFunction) := by
  cases corresponds with
  | value related => exact .value (keeps _ _ related)
  | fault same => exact .fault same
  | leftTooDeep position right => exact .leftTooDeep position _
  | rightTooDeep left position => exact .rightTooDeep _ position

/-- A value on one side is one on the other, unless that lies too deep. -/
theorem eq_ok_or
    {value : First}
    {right : Except Fault Second}
    (corresponds : Corresponds Related (.ok value) right) :
    (∃ other, right = .ok other ∧ Related value other) ∨
      ∃ position, right = .error (.formula (.nestedTooDeep position)) := by
  cases corresponds with
  | value related => exact .inl ⟨_, rfl, related⟩
  | rightTooDeep left position => exact .inr ⟨position, rfl⟩

end Corresponds

/-! ## Tokens that are alike -/

/-- Inside a group the tokens are read as the value, unless they lie too deep. -/
def ReadsAs
    {Value : Type}
    (meaning : Interpretation Value)
    (inside : List Token)
    (value : Value) :
    Prop :=
  ∀ (finish levels : Nat) (closing : Mark) (rest : List Token),
    Corresponds Eq
      (.ok (value, closing.token .rightParenthesis :: rest))
      (plain ((Level.above meaning finish levels).sum
        (inside ++ closing.token .rightParenthesis :: rest)))

/-- The tokens are the same but for their places, and but for the insides of groups that are
related. -/
inductive Alike (Groups : List Token → List Token → Prop) : List Token → List Token → Prop where
  | nil : Alike Groups [] []
  | token
      (lexeme : Lexeme)
      (text : String)
      (leftPosition rightPosition : Nat)
      {left right : List Token}
      (behind : Alike Groups left right) :
      Alike Groups (⟨lexeme, text, leftPosition⟩ :: left) (⟨lexeme, text, rightPosition⟩ :: right)
  | group
      (text : String)
      (leftPosition rightPosition : Nat)
      (leftClosing rightClosing : Mark)
      {leftInside rightInside left right : List Token}
      (inside : Groups leftInside rightInside)
      (behind : Alike Groups left right) :
      Alike Groups
        (⟨.leftParenthesis, text, leftPosition⟩ ::
          (leftInside ++ leftClosing.token .rightParenthesis :: left))
        (⟨.leftParenthesis, text, rightPosition⟩ ::
          (rightInside ++ rightClosing.token .rightParenthesis :: right))

namespace Alike

variable {Groups : List Token → List Token → Prop}

/-- Tokens that differ in their places only are alike, in front of what is. -/
theorem append_of_unplaced
    {left right leftRest rightRest : List Token}
    (same : left.map Token.unplaced = right.map Token.unplaced)
    (behind : Alike Groups leftRest rightRest) :
    Alike Groups (left ++ leftRest) (right ++ rightRest) := by
  induction left generalizing right with
  | nil =>
      rw [List.map_nil, eq_comm, List.map_eq_nil_iff] at same
      rw [same]
      exact behind
  | cons token others inductionHypothesis =>
      cases right with
      | nil => cases same
      | cons other followers =>
          obtain ⟨sameHead, sameTail⟩ := List.cons.inj same
          obtain ⟨lexeme, text, position⟩ := token
          obtain ⟨otherLexeme, otherText, place⟩ := other
          simp only [Token.unplaced, Token.mk.injEq, and_true] at sameHead
          obtain ⟨rfl, rfl⟩ := sameHead
          exact .token lexeme text position place (inductionHypothesis sameTail)

theorem of_unplaced
    {left right : List Token}
    (same : left.map Token.unplaced = right.map Token.unplaced) :
    Alike Groups left right := by
  have alike : Alike Groups (left ++ []) (right ++ []) := append_of_unplaced same .nil
  rwa [List.append_nil, List.append_nil] at alike

theorem refl (tokens : List Token) : Alike Groups tokens tokens :=
  of_unplaced rfl

/-- Alike tokens are as many, if no groups are exchanged. -/
theorem length_eq
    {left right : List Token}
    (alike : Alike Groups left right)
    (none : ∀ first second, ¬ Groups first second) :
    left.length = right.length := by
  induction alike with
  | nil => rfl
  | token lexeme text leftPosition rightPosition behind inductionHypothesis =>
      rw [List.length_cons, List.length_cons, inductionHypothesis]
  | group text leftPosition rightPosition leftClosing rightClosing inside =>
      exact absurd inside (none _ _)

/-- Alike tokens end together or start with the same token, and go on alike unless that opens a
group. -/
theorem cases_head
    {left right : List Token}
    (alike : Alike Groups left right) :
    (left = [] ∧ right = []) ∨
      ∃ (lexeme : Lexeme) (text : String) (leftPosition rightPosition : Nat)
        (leftOthers rightOthers : List Token),
        left = ⟨lexeme, text, leftPosition⟩ :: leftOthers ∧
          right = ⟨lexeme, text, rightPosition⟩ :: rightOthers ∧
          (lexeme ≠ .leftParenthesis → Alike Groups leftOthers rightOthers) := by
  cases alike with
  | nil => exact .inl ⟨rfl, rfl⟩
  | token lexeme text leftPosition rightPosition behind =>
      exact .inr ⟨_, _, _, _, _, _, rfl, rfl, fun _ => behind⟩
  | group text leftPosition rightPosition leftClosing rightClosing inside behind =>
      exact .inr ⟨_, _, _, _, _, _, rfl, rfl, fun other => absurd rfl other⟩

/-- In front of alike tokens the grammar finds the same fault. -/
theorem unplaced_unexpected
    {left right : List Token}
    (alike : Alike Groups left right)
    (leftFinish rightFinish : Nat)
    (wanted : Wanted) :
    (unexpected leftFinish wanted left).unplaced =
      (unexpected rightFinish wanted right).unplaced := by
  obtain ⟨rfl, rfl⟩ | ⟨lexeme, text, _, _, _, _, rfl, rfl, -⟩ := alike.cases_head <;> rfl

end Alike

/-! ## Readers -/

/-- Where a construct stands changes nothing but the places of faults. -/
structure Interpretation.Placeless {Value : Type} (meaning : Interpretation Value) : Prop where
  literal : ∀ (lexeme : Lexeme) (text : String) (leftPosition rightPosition : Nat) (value : Float),
    Corresponds Eq (meaning.literal ⟨lexeme, text, leftPosition⟩ value)
      (meaning.literal ⟨lexeme, text, rightPosition⟩ value)
  divide : ∀ (leftPosition rightPosition : Nat) (left right : Value),
    Corresponds Eq (meaning.divide leftPosition left right)
      (meaning.divide rightPosition left right)

namespace Grammar

variable {Value : Type}

/-- The readings have the same value and leave tokens that are alike. -/
def ReadAlike
    (Groups : List Token → List Token → Prop)
    (left right : Value × List Token) :
    Prop :=
  left.1 = right.1 ∧ Alike Groups left.2 right.2

/-- At two levels, alike tokens are read to corresponding outcomes. -/
structure LevelsCorrespond
    (Groups : List Token → List Token → Prop)
    (left right : Level Value) :
    Prop where
  sum : ∀ first second, Alike Groups first second →
    Corresponds (ReadAlike Groups) (plain (left.sum first)) (plain (right.sum second))
  signed : ∀ first second, Alike Groups first second →
    Corresponds (ReadAlike Groups) (plain (left.signed first)) (plain (right.signed second))
  postfixed : ∀ first second, Alike Groups first second →
    Corresponds (ReadAlike Groups) (plain (left.postfixed first))
      (plain (right.postfixed second))

/-- A value with what is left behind it. -/
theorem corresponds_leaving
    {Groups : List Token → List Token → Prop}
    {left right : Except Fault Value}
    {leftRest rightRest : List Token}
    (corresponds : Corresponds Eq left right)
    (behind : Alike Groups leftRest rightRest) :
    Corresponds (ReadAlike Groups) (left.map fun value => (value, leftRest))
      (right.map fun value => (value, rightRest)) :=
  corresponds.map fun _ _ same => ⟨same, behind⟩

/-! ### Chains -/

/-- What is related to a way to go on is one. -/
theorem exists_of_rel_some
    {First Second : Type}
    {Related : First → Second → Prop}
    {first : First}
    {option : Option Second}
    (related : Option.Rel Related (some first) option) :
    ∃ second, option = some second ∧ Related first second := by
  cases related with
  | some same => exact ⟨_, rfl, same⟩

theorem eq_none_of_rel_none
    {First Second : Type}
    {Related : First → Second → Prop}
    {option : Option Second}
    (related : Option.Rel Related none option) :
    option = none := by
  cases related with
  | none => rfl

/-- Where a sign stands changes nothing of how a chain goes on by it, but the places of faults;
and a chain does not go on by a parenthesis. -/
structure Links.Placeless (links : Links Value) : Prop where
  same : ∀ (lexeme : Lexeme) (text : String) (leftPosition rightPosition : Nat),
    Option.Rel
      (fun leftCombine rightCombine => ∀ left right,
        Corresponds Eq (leftCombine left right) (rightCombine left right))
      (links ⟨lexeme, text, leftPosition⟩) (links ⟨lexeme, text, rightPosition⟩)
  unopened : ∀ text position, links ⟨.leftParenthesis, text, position⟩ = none

theorem placeless_terms {meaning : Interpretation Value} : Links.Placeless meaning.terms where
  same lexeme _ _ _ := by
    cases lexeme with
    | operator symbol =>
        cases symbol with
        | plus | minus => exact .some fun _ _ => .refl _
        | _ => exact .none
    | _ => exact .none
  unopened _ _ := rfl

theorem placeless_factors
    {meaning : Interpretation Value}
    (placeless : meaning.Placeless) :
    Links.Placeless meaning.factors where
  same lexeme _ leftPosition rightPosition := by
    cases lexeme with
    | operator symbol =>
        cases symbol with
        | times => exact .some fun _ _ => .refl _
        | dividedBy => exact .some (placeless.divide leftPosition rightPosition)
        | _ => exact .none
    | _ => exact .none
  unopened _ _ := rfl

section Chain

variable {Groups : List Token → List Token → Prop} {links : Links Value}
  (placeless : Links.Placeless links) {leftItem rightItem : Reader Value}
  (item : ∀ first second, Alike Groups first second →
    Corresponds (ReadAlike Groups) (plain (leftItem first)) (plain (rightItem second)))

include placeless item

/-- A chain goes on by the same signs on both sides, and is read alike if its items are. -/
theorem corresponds_readChain
    (value : Value)
    {first second : List Token}
    (alike : Alike Groups first second) :
    Corresponds (ReadAlike Groups) (plain (readChain links leftItem value first))
      (plain (readChain links rightItem value second)) := by
  induction first using chain_induction links generalizing second value with
  | ends first stops =>
      rw [plain_readChain_ends stops]
      obtain ⟨rfl, rfl⟩ | ⟨lexeme, text, leftPosition, rightPosition, _, _, rfl, rfl, -⟩ :=
        alike.cases_head
      · rw [plain_readChain_nil]
        exact .value ⟨rfl, .nil⟩
      · have same := placeless.same lexeme text leftPosition rightPosition
        rw [stops _ rfl] at same
        rw [plain_readChain, eq_none_of_rel_none same]
        exact .value ⟨rfl, alike⟩
  | goesOn token others combine linked inductionHypothesis =>
      obtain ⟨⟨⟩, -⟩ | ⟨lexeme, text, leftPosition, rightPosition, _, _, ⟨⟩, rfl, behind⟩ :=
        alike.cases_head
      have notOpening : lexeme ≠ .leftParenthesis := by
        rintro rfl
        rw [placeless.unopened] at linked
        cases linked
      have same := placeless.same lexeme text leftPosition rightPosition
      rw [linked] at same
      obtain ⟨other, otherLinked, combines⟩ := exists_of_rel_some same
      rw [plain_readChain_link linked, plain_readChain_link otherLinked]
      refine (item _ _ (behind notOpening)).bind ?_
      rintro ⟨right, leftRest⟩ ⟨_, rightRest⟩ found - ⟨rfl, alikeRest⟩
      refine (combines value right).bind ?_
      rintro total _ - - rfl
      have shorter : leftRest.length < others.length := taken_of_plain found
      exact inductionHypothesis leftRest (Nat.le_of_lt shorter) total alikeRest

theorem corresponds_readSequence
    {first second : List Token}
    (alike : Alike Groups first second) :
    Corresponds (ReadAlike Groups) (plain (readSequence links leftItem first))
      (plain (readSequence links rightItem second)) := by
  rw [plain_readSequence, plain_readSequence]
  refine (item _ _ alike).bind ?_
  rintro ⟨value, _⟩ ⟨_, _⟩ - - ⟨rfl, alikeRest⟩
  exact corresponds_readChain placeless item value alikeRest

end Chain

/-! ### Categories -/

section Readers

variable {meaning : Interpretation Value} {Groups : List Token → List Token → Prop}
  {leftFinish rightFinish leftLevels rightLevels : Nat} {first second : List Token}
  (placeless : meaning.Placeless)
  (groups : ∀ left right, Groups left right →
    ∃ value, ReadsAs meaning left value ∧ ReadsAs meaning right value)
  (inner : LevelsCorrespond Groups (Level.above meaning leftFinish leftLevels)
    (Level.above meaning rightFinish rightLevels))

theorem corresponds_closeGroup
    {left right : Value × List Token}
    (same : ReadAlike Groups left right) :
    Corresponds (ReadAlike Groups) (closeGroup leftFinish left) (closeGroup rightFinish right) := by
  obtain ⟨value, leftRest⟩ := left
  obtain ⟨other, rightRest⟩ := right
  obtain ⟨rfl, alike⟩ := same
  have unfit := alike.unplaced_unexpected leftFinish rightFinish .closingParenthesis
  obtain ⟨rfl, rfl⟩ | ⟨lexeme, text, _, _, _, _, rfl, rfl, behind⟩ := alike.cases_head
  · exact .fault rfl
  · cases lexeme with
    | rightParenthesis => exact .value ⟨rfl, behind Lexeme.noConfusion⟩
    | _ => exact .fault unfit

theorem corresponds_closeBars
    {left right : Value × List Token}
    (same : ReadAlike Groups left right) :
    Corresponds (ReadAlike Groups) (closeBars meaning leftFinish left)
      (closeBars meaning rightFinish right) := by
  obtain ⟨value, leftRest⟩ := left
  obtain ⟨other, rightRest⟩ := right
  obtain ⟨rfl, alike⟩ := same
  have unfit := alike.unplaced_unexpected leftFinish rightFinish .closingBar
  obtain ⟨rfl, rfl⟩ | ⟨lexeme, text, _, _, _, _, rfl, rfl, behind⟩ := alike.cases_head
  · exact .fault rfl
  · cases lexeme with
    | bar => exact .value ⟨rfl, behind Lexeme.noConfusion⟩
    | _ => exact .fault unfit

include groups inner

/-- Behind its opening parenthesis a group is read alike: it is made of alike tokens, or it is
worth the same as the one that stands for it. -/
theorem corresponds_readGroup
    {text : String}
    {leftPosition rightPosition : Nat}
    (alike : Alike Groups (⟨.leftParenthesis, text, leftPosition⟩ :: first)
      (⟨.leftParenthesis, text, rightPosition⟩ :: second)) :
    Corresponds (ReadAlike Groups)
      (plain (readGroup leftFinish (Level.above meaning leftFinish leftLevels) first))
      (plain (readGroup rightFinish (Level.above meaning rightFinish rightLevels) second)) := by
  rw [plain_readGroup, plain_readGroup]
  cases alike with
  | token lexeme text leftPosition rightPosition behind =>
      exact (inner.sum _ _ behind).bind fun _ _ _ _ => corresponds_closeGroup
  | group text leftPosition rightPosition leftClosing rightClosing inside behind =>
      obtain ⟨value, leftReads, rightReads⟩ := groups _ _ inside
      rcases (leftReads leftFinish leftLevels leftClosing _).eq_ok_or with
        ⟨_, leftRead, rfl⟩ | ⟨position, tooDeep⟩
      · rcases (rightReads rightFinish rightLevels rightClosing _).eq_ok_or with
          ⟨_, rightRead, rfl⟩ | ⟨position, tooDeep⟩
        · rw [bind_of_ok leftRead, bind_of_ok rightRead]
          exact .value ⟨rfl, behind⟩
        · rw [bind_failed tooDeep]
          exact .rightTooDeep _ position
      · rw [bind_failed tooDeep]
        exact .leftTooDeep position _

theorem corresponds_readArgument (name : FunctionName) (alike : Alike Groups first second) :
    Corresponds (ReadAlike Groups)
      (plain (readArgument leftFinish (Level.above meaning leftFinish leftLevels) name first))
      (plain (readArgument rightFinish (Level.above meaning rightFinish rightLevels) name
        second)) := by
  rw [plain_readArgument, plain_readArgument]
  have unfit := alike.unplaced_unexpected leftFinish rightFinish (.argumentOf name.word)
  obtain ⟨rfl, rfl⟩ | ⟨lexeme, text, _, _, _, _, rfl, rfl, -⟩ := alike.cases_head
  · exact .fault rfl
  · cases lexeme with
    | leftParenthesis => exact corresponds_readGroup groups inner alike
    | _ => exact .fault unfit

include placeless

theorem corresponds_readPrimary (alike : Alike Groups first second) :
    Corresponds (ReadAlike Groups)
      (plain (readPrimary meaning leftFinish (Level.above meaning leftFinish leftLevels) first))
      (plain (readPrimary meaning rightFinish (Level.above meaning rightFinish rightLevels)
        second)) := by
  have unfit := alike.unplaced_unexpected leftFinish rightFinish .operand
  obtain ⟨rfl, rfl⟩ | ⟨lexeme, text, leftPosition, rightPosition, _, _, rfl, rfl, behind⟩ :=
    alike.cases_head
  · exact .fault rfl
  · rw [plain_readPrimary, plain_readPrimary]
    cases lexeme with
    | number value | constant value =>
        exact corresponds_leaving (placeless.literal _ text leftPosition rightPosition value)
          (behind Lexeme.noConfusion)
    | leftParenthesis => exact corresponds_readGroup groups inner alike
    | bar =>
        dsimp only
        rw [plain_readBars, plain_readBars]
        exact (inner.sum _ _ (behind Lexeme.noConfusion)).bind
          fun _ _ _ _ => corresponds_closeBars
    | function name power base =>
        refine (corresponds_readArgument groups inner name (behind Lexeme.noConfusion)).bind ?_
        rintro ⟨argument, _⟩ ⟨_, _⟩ - - ⟨rfl, alikeRest⟩
        exact corresponds_leaving (.refl _) alikeRest
    | root index =>
        refine (inner.postfixed _ _ (behind Lexeme.noConfusion)).bind ?_
        rintro ⟨radicand, _⟩ ⟨_, _⟩ - - ⟨rfl, alikeRest⟩
        exact corresponds_leaving (.refl _) alikeRest
    | operator | factorial | superscript | rightParenthesis => exact .fault unfit

omit groups inner placeless in
/-- The postfixes behind a value are the same tokens on both sides. -/
theorem corresponds_readPostfixes (value : Value) (alike : Alike Groups first second) :
    Corresponds (ReadAlike Groups) (plain (readPostfixes meaning value first))
      (plain (readPostfixes meaning value second)) := by
  induction alike generalizing value with
  | nil => exact .value ⟨rfl, .nil⟩
  | token lexeme text leftPosition rightPosition behind inductionHypothesis =>
      rw [plain_readPostfixes, plain_readPostfixes]
      cases lexeme with
      | factorial | superscript exponent =>
          refine Corresponds.bind (.refl _) ?_
          rintro value _ - - rfl
          exact inductionHypothesis value
      | _ => exact .value ⟨rfl, .token _ text leftPosition rightPosition behind⟩
  | group text leftPosition rightPosition leftClosing rightClosing inside behind =>
      rw [plain_readPostfixes, plain_readPostfixes]
      exact .value ⟨rfl, .group text leftPosition rightPosition leftClosing rightClosing inside
        behind⟩

theorem corresponds_readPostfixed (alike : Alike Groups first second) :
    Corresponds (ReadAlike Groups)
      (plain (readPostfixed meaning leftFinish (Level.above meaning leftFinish leftLevels) first))
      (plain (readPostfixed meaning rightFinish (Level.above meaning rightFinish rightLevels)
        second)) := by
  rw [plain_readPostfixed, plain_readPostfixed]
  refine (corresponds_readPrimary placeless groups inner alike).bind ?_
  rintro ⟨value, _⟩ ⟨_, _⟩ - - ⟨rfl, alikeRest⟩
  exact corresponds_readPostfixes value alikeRest

theorem corresponds_readPower (alike : Alike Groups first second) :
    Corresponds (ReadAlike Groups)
      (plain (readPower meaning leftFinish (Level.above meaning leftFinish leftLevels) first))
      (plain (readPower meaning rightFinish (Level.above meaning rightFinish rightLevels)
        second)) := by
  rw [plain_readPower, plain_readPower]
  refine (corresponds_readPostfixed placeless groups inner alike).bind ?_
  rintro ⟨base, leftRest⟩ ⟨_, rightRest⟩ - - ⟨rfl, alikeRest⟩
  obtain ⟨rfl, rfl⟩ | ⟨lexeme, text, _, _, _, _, rfl, rfl, behind⟩ := alikeRest.cases_head
  · exact .value ⟨rfl, .nil⟩
  · cases lexeme with
    | operator symbol =>
        cases symbol with
        | power =>
            refine (inner.signed _ _ (behind Lexeme.noConfusion)).bind ?_
            rintro ⟨exponent, _⟩ ⟨_, _⟩ - - ⟨rfl, alikeBehind⟩
            exact corresponds_leaving (.refl _) alikeBehind
        | _ => exact .value ⟨rfl, alikeRest⟩
    | _ => exact .value ⟨rfl, alikeRest⟩

theorem corresponds_readSigned (alike : Alike Groups first second) :
    Corresponds (ReadAlike Groups)
      (plain (readSigned meaning leftFinish (Level.above meaning leftFinish leftLevels) first))
      (plain (readSigned meaning rightFinish (Level.above meaning rightFinish rightLevels)
        second)) := by
  rw [plain_readSigned, plain_readSigned]
  obtain ⟨rfl, rfl⟩ | ⟨lexeme, text, _, _, _, _, rfl, rfl, behind⟩ := alike.cases_head
  · exact corresponds_readPower placeless groups inner alike
  · cases lexeme with
    | operator symbol =>
        cases symbol with
        | minus =>
            refine (inner.signed _ _ (behind Lexeme.noConfusion)).bind ?_
            rintro ⟨value, _⟩ ⟨_, _⟩ - - ⟨rfl, alikeRest⟩
            exact .value ⟨rfl, alikeRest⟩
        | _ => exact corresponds_readPower placeless groups inner alike
    | _ => exact corresponds_readPower placeless groups inner alike

theorem corresponds_readProduct (alike : Alike Groups first second) :
    Corresponds (ReadAlike Groups)
      (plain (readProduct meaning leftFinish (Level.above meaning leftFinish leftLevels) first))
      (plain (readProduct meaning rightFinish (Level.above meaning rightFinish rightLevels)
        second)) :=
  corresponds_readSequence (placeless_factors placeless)
    (fun _ _ => corresponds_readSigned placeless groups inner) alike

theorem corresponds_readSum (alike : Alike Groups first second) :
    Corresponds (ReadAlike Groups)
      (plain (readSum meaning leftFinish (Level.above meaning leftFinish leftLevels) first))
      (plain (readSum meaning rightFinish (Level.above meaning rightFinish rightLevels)
        second)) :=
  corresponds_readSequence placeless_terms
    (fun _ _ => corresponds_readProduct placeless groups inner) alike

end Readers

/-! ## Levels and formulas -/

section Levels

variable {meaning : Interpretation Value} {Groups : List Token → List Token → Prop}
  (placeless : meaning.Placeless)
  (groups : ∀ left right, Groups left right →
    ∃ value, ReadsAs meaning left value ∧ ReadsAs meaning right value)

include placeless groups

/-- Alike tokens are read to corresponding outcomes, however many levels are left. -/
theorem corresponds_levels (leftFinish rightFinish leftLevels rightLevels : Nat) :
    LevelsCorrespond Groups (Level.above meaning leftFinish leftLevels)
      (Level.above meaning rightFinish rightLevels) := by
  induction leftLevels generalizing rightLevels with
  | zero =>
      exact ⟨fun _ _ _ => .leftTooDeep _ _, fun _ _ _ => .leftTooDeep _ _,
        fun _ _ _ => .leftTooDeep _ _⟩
  | succ leftLevels inductionHypothesis =>
      cases rightLevels with
      | zero =>
          exact ⟨fun _ _ _ => .rightTooDeep _ _, fun _ _ _ => .rightTooDeep _ _,
            fun _ _ _ => .rightTooDeep _ _⟩
      | succ rightLevels =>
          have inner := inductionHypothesis rightLevels
          exact ⟨fun _ _ => corresponds_readSum placeless groups inner,
            fun _ _ => corresponds_readSigned placeless groups inner,
            fun _ _ => corresponds_readPostfixed placeless groups inner⟩

/-- So are formulas. -/
theorem corresponds_read
    {left right : TokenLine}
    (alike : Alike Groups left.tokens right.tokens) :
    Corresponds Eq (left.read meaning) (right.read meaning) := by
  rw [TokenLine.read_eq, TokenLine.read_eq]
  have levels := corresponds_levels placeless groups left.finish right.finish
    (deepestNesting + 1) (deepestNesting + 1)
  refine Corresponds.bind (levels.sum _ _ alike) ?_
  rintro ⟨value, leftRest⟩ ⟨_, rightRest⟩ - - ⟨rfl, alikeRest⟩
  have unfit := alikeRest.unplaced_unexpected left.finish right.finish .operatorOrEnd
  obtain ⟨rfl, rfl⟩ | ⟨lexeme, text, _, _, _, _, rfl, rfl, -⟩ := alikeRest.cases_head
  · exact .value rfl
  · exact .fault unfit

end Levels

/-! ## The inside of a group -/

/-- What is left of a reading stands behind a phrase. -/
theorem exists_phrase_of_sum
    {meaning : Interpretation Value}
    {finish levels : Nat}
    {tokens rest : List Token}
    {value : Value}
    (read : plain ((Level.above meaning finish levels).sum tokens) = .ok (value, rest)) :
    ∃ phrase : Phrase .sum, tokens = phrase.tokens ++ rest := by
  rcases (levelDecides_above finish levels).sum tokens with
    ⟨phrase, left, derived, -, same⟩ | ⟨_, _, _, -, -, fails⟩
  · dsimp only at same
    rw [same] at read
    obtain ⟨_, -, found⟩ := exists_of_map_eq_ok read
    obtain ⟨-, rfl⟩ := Prod.mk.inj found
    exact ⟨phrase, derived⟩
  · obtain ⟨fault, failed, -⟩ := fails Value meaning
    cases failed.symm.trans read

/-- The tokens of a formula that has a value are worth it inside every group, wherever the group
stands, unless they lie too deep there. -/
theorem readsAs_of_read
    {meaning : Interpretation Value}
    (placeless : meaning.Placeless)
    {line : TokenLine}
    {value : Value}
    (worth : line.read meaning = .ok value)
    {inside : List Token}
    (same : line.tokens.map Token.unplaced = inside.map Token.unplaced) :
    ReadsAs meaning inside value := by
  intro finish levels closing rest
  -- The formula has a greedy tree, which is read as its value where there are enough levels.
  obtain ⟨tree, greedy, derived, shallow⟩ : ∃ tree : Phrase .sum,
      tree.Greedy ∧ tree.tokens = line.tokens ∧ tree.depth ≤ deepestNesting := by
    rcases line.read_decides with
      ⟨tree, derived, shallow, -⟩ | ⟨_, _, _, -, -, fails⟩
    · obtain ⟨settled, settles⟩ := tree.exists_greedy
      exact ⟨settled, settles.greedy, settles.sameTokens.trans derived,
        settles.sameDepth.trans_le shallow⟩
    · obtain ⟨fault, failed, -⟩ := fails Value meaning
      rw [worth] at failed
      cases failed
  have treeWorth := line.read_tree meaning tree greedy derived shallow
  rw [worth] at treeWorth
  have taken : plain ((Level.above meaning finish (tree.depth + 1)).sum
      (line.tokens ++ closing.token .rightParenthesis :: rest)) =
        .ok (value, closing.token .rightParenthesis :: rest) := by
    rw [← derived]
    have unbound : Lexeme.rightParenthesis.bond < 1 := by decide
    have read := (tree.isRead meaning finish tree.depth greedy (Nat.le_refl _)).enclosed
      unbound closing rest
    rwa [← treeWorth] at read
  -- With other levels and other places it is read so too, and as much is left.
  have alikeLevels : LevelsCorrespond (fun _ _ => False)
      (Level.above meaning finish (tree.depth + 1)) (Level.above meaning finish levels) :=
    corresponds_levels placeless (fun _ _ => False.elim) finish finish (tree.depth + 1) levels
  have corresponds := alikeLevels.sum _ _
    (.append_of_unplaced same (.refl (closing.token .rightParenthesis :: rest)))
  rw [taken] at corresponds
  rcases corresponds.eq_ok_or with ⟨⟨_, left⟩, read, rfl, alike⟩ | ⟨position, tooDeep⟩
  · obtain ⟨phrase, split⟩ := exists_phrase_of_sum read
    obtain ⟨-, rfl⟩ := List.append_inj' split (alike.length_eq fun _ _ => id)
    rw [read]
    exact .value rfl
  · rw [tooDeep]
    exact .rightTooDeep _ position

end Grammar

end FormulaGrid
