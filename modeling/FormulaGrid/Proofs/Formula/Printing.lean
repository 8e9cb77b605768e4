import FormulaGrid.Proofs.Formula.Relocation
import FormulaGrid.Proofs.Formula.Writing

/-!
Contract: trees that are written out are read back.

Owns:
- the characters of tokens, one text behind the other (`writtenOut`);
- tokens each of which is read from its own text, in front of the texts of the others
  (`Legible`), and those that may stand behind a numeral (`FollowsNumeral`);
- legible tokens are scanned as they are, but for their places (`Legible.exists_scan`);
- a text that writes out a greedy tree is read as this tree, but for the places
  (`Phrase.exists_tokenize`), and what has a value has a greedy tree
  (`TokenLine.exists_greedy_of_read`).

Does not own: what a tree is worth.
-/

namespace FormulaGrid

open Text

/-! ## Legible tokens -/

/-- The characters of tokens, one text behind the other. -/
def writtenOut (tokens : List Token) : List Char :=
  tokens.flatMap fun token => token.text.toList

theorem writtenOut_cons (token : Token) (others : List Token) :
    writtenOut (token :: others) = token.text.toList ++ writtenOut others :=
  List.flatMap_cons

theorem writtenOut_append (front rest : List Token) :
    writtenOut (front ++ rest) = writtenOut front ++ writtenOut rest :=
  List.flatMap_append

/-- Each token is read from its own text, in front of the texts of the others. The flag says
that the first of them is the first of a formula. -/
inductive Legible : Bool → List Token → Prop
  | nothing (first : Bool) : Legible first []
  | token
      {first : Bool}
      {token : Token}
      {others : List Token}
      {head : Char}
      {tail : List Char}
      (spelled : token.text.toList = head :: tail)
      (visible : isBlank head = false)
      (read : ∀ position, Lexeme.read first position head (tail ++ writtenOut others) =
        .ok ⟨token.lexeme, token.text, tail.length⟩)
      (legible : Legible false others) :
      Legible first (token :: others)

namespace Legible

variable {first : Bool} {tokens : List Token}

/-- Legible tokens are scanned as they are, but for their places. -/
theorem exists_scan (legible : Legible first tokens) (position : Nat) :
    ∃ placed : List Token,
      scan first position (writtenOut tokens) = .ok placed ∧
        placed.map Token.unplaced = tokens.map Token.unplaced := by
  induction legible generalizing position with
  | nothing first => exact ⟨[], scan_nil first position, rfl⟩
  | @token first token others head tail spelled visible read _ inductionHypothesis =>
      obtain ⟨placed, scanned, same⟩ := inductionHypothesis (position + 1 + tail.length)
      refine ⟨⟨token.lexeme, token.text, position⟩ :: placed, ?_, ?_⟩
      · rw [writtenOut_cons, spelled, List.cons_append]
        refine scan_of_read visible (read position) ?_
        rw [List.drop_left]
        exact scanned
      · rw [List.map_cons, List.map_cons, same]
        rfl

/-- Legible tokens write something that is visible. -/
theorem allBlank_writtenOut (legible : Legible first tokens) (nonempty : tokens ≠ []) :
    allBlank (writtenOut tokens) = false := by
  cases legible with
  | nothing => exact absurd rfl nonempty
  | @token _ token others head tail spelled visible =>
      rw [writtenOut_cons, spelled, List.cons_append]
      exact List.all_eq_false.mpr ⟨head, List.mem_cons_self, by simp [visible]⟩

end Legible

/-! ## Signs and numerals -/

/-- The tokens are legible behind a numeral. -/
structure FollowsNumeral (tokens : List Token) : Prop where
  legible : Legible false tokens
  ends : EndsNumeral (writtenOut tokens)

theorem followsNumeral_nil : FollowsNumeral [] :=
  ⟨.nothing false, fun _ member => absurd member (by simp [writtenOut])⟩

section Kinds

variable {others : List Token}

section

variable {sign : Char} {lexeme : Lexeme} {text : String}
  (isSign : IsSign sign lexeme text) (spelled : text.toList = [sign])

include isSign spelled

/-- A sign is legible in front of legible tokens, -/
theorem IsSign.legible
    (first : Bool)
    (position : Nat)
    (legible : Legible false others) :
    Legible first (⟨lexeme, text, position⟩ :: others) :=
  .token spelled isSign.visible (fun place => isSign.read first place _) legible

/-- also behind a numeral. -/
theorem IsSign.followsNumeral (position : Nat) (legible : Legible false others) :
    FollowsNumeral (⟨lexeme, text, position⟩ :: others) where
  legible := isSign.legible spelled false position legible
  ends := by
    rw [writtenOut_cons, spelled, List.singleton_append]
    exact isSign.endsNumeral _

end

/-- The token of a numeral. -/
def Spelling.token (spelling : Spelling) (position : Nat) : Token :=
  ⟨.number (numeralValue spelling.characters), String.ofList spelling.characters, position⟩

/-- A numeral is legible in front of tokens that may follow it. -/
theorem Spelling.legible
    (spelling : Spelling)
    (first : Bool)
    (position : Nat)
    (follows : FollowsNumeral others) :
    Legible first (spelling.token position :: others) := by
  obtain ⟨head, tail, starts, visible, read⟩ := spelling.exists_read follows.ends
  exact .token ((String.toList_ofList).trans starts) visible (fun place => read first place)
    follows.legible

end Kinds

/-! ## Formulas -/

/-- Formulas with the same tokens have the same outcome, but for the place of a fault. -/
theorem TokenLine.unplacedFault_read
    {Value : Type}
    {meaning : Interpretation Value}
    (movable : meaning.Movable)
    {left right : TokenLine}
    (same : left.tokens.map Token.unplaced = right.tokens.map Token.unplaced) :
    unplacedFault (left.read meaning) = unplacedFault (right.read meaning) := by
  have unplaced (line : TokenLine) :
      unplacedFault (line.read meaning) = (line.moved fun _ => 0).read meaning := by
    rw [line.read_moved movable, movedFault, funext Fault.moved_zero]
    rfl
  have sameLine : (left.moved fun _ => 0) = right.moved fun _ => 0 :=
    congrArg (TokenLine.mk · 0) same
  rw [unplaced left, sameLine, unplaced right]

/-- What has a value has a greedy tree that is not too deep, and is read as this tree. -/
theorem TokenLine.exists_greedy_of_read
    {Value : Type}
    {meaning : Interpretation Value}
    {line : TokenLine}
    {value : Value}
    (worth : line.read meaning = .ok value) :
    ∃ tree : Phrase .sum,
      tree.Greedy ∧
        tree.tokens = line.tokens ∧
        tree.depth ≤ deepestNesting ∧
        ∀ (Other : Type) (other : Interpretation Other), line.read other = tree.value other := by
  rcases line.read_decides with ⟨tree, derived, shallow, -⟩ | ⟨_, _, _, -, -, fails⟩
  · obtain ⟨settled, settles⟩ := tree.exists_greedy
    have sameTokens := settles.sameTokens.trans derived
    have sameDepth : settled.depth ≤ deepestNesting := settles.sameDepth.trans_le shallow
    exact ⟨settled, settles.greedy, sameTokens, sameDepth, fun _ other =>
      line.read_tree other settled settles.greedy sameTokens sameDepth⟩
  · obtain ⟨found, failed, -⟩ := fails Value meaning
    rw [worth] at failed
    cases failed

/-- A text that writes out a greedy tree is a formula that has this tree's outcome, but for the
place of a fault. -/
theorem Phrase.exists_tokenize
    {text : String}
    (tree : Phrase .sum)
    (greedy : tree.Greedy)
    (shallow : tree.depth ≤ deepestNesting)
    (legible : Legible true tree.tokens)
    (spelled : text.toList = writtenOut tree.tokens) :
    ∃ line : TokenLine,
      tokenize text = .ok line ∧
        ∀ (Value : Type) (meaning : Interpretation Value), meaning.Movable →
          unplacedFault (line.read meaning) = unplacedFault (tree.value meaning) := by
  obtain ⟨placed, scanned, same⟩ := legible.exists_scan 0
  refine ⟨⟨placed, text.length⟩, ?_, ?_⟩
  · rw [tokenize, spelled, legible.allBlank_writtenOut tree.tokens_sum_ne_nil, scanned]
    rfl
  · intro Value meaning movable
    rw [← TokenLine.read_tree meaning ⟨tree.tokens, 0⟩ tree greedy rfl shallow]
    exact TokenLine.unplacedFault_read movable same

end FormulaGrid
