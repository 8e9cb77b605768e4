import FormulaGrid.Formula.Evaluation
import FormulaGrid.Proofs.Formula.Invariant
import FormulaGrid.Proofs.Formula.Positions
import FormulaGrid.Proofs.Formula.Soundness
import FormulaGrid.Proofs.Formula.UniqueReading

/-!
Contract: evaluation implements the grammar of formulas.

Owns:
- a reading without any arithmetic (`Interpretation.shape`), which fails where the
  grammar does;
- a formula that has a greedy tree has the tree's value (`TokenLine.read_tree`), and
  every formula has that or is stuck (`TokenLine.read_decides`), so that what a meaning
  keeps holds of every formula (`TokenLine.yields_of_keeps`);
- both together with unique reading, for the value of a text
  (`evaluate_implements_grammar`).

The grammar alone is ambiguous behind a root: in `√4!` the factorial may belong to
the operand or to the root. Evaluation takes it into the operand.
-/

namespace FormulaGrid

open Grammar

/-- The meaning that gives nothing a value and never fails, so that a reading under
it fails only for its shape. -/
def Interpretation.shape : Interpretation Unit where
  literal _ _ := .ok ()
  negate _ := ()
  add _ _ := .ok ()
  subtract _ _ := .ok ()
  multiply _ _ := .ok ()
  divide _ _ _ := .ok ()
  raise _ _ := .ok ()
  superscript _ _ := .ok ()
  factorial _ := .ok ()
  absolute _ := ()
  root _ _ := .ok ()
  apply _ _ _ _ := .ok ()

theorem Interpretation.shape_keeps :
    Interpretation.shape.Keeps (fun _ => True) (fun _ => True) (fun _ => False) where
  literal _ _ := trivial
  negate _ _ := trivial
  add _ _ _ _ := trivial
  subtract _ _ _ _ := trivial
  multiply _ _ _ _ := trivial
  divide _ _ _ _ _ := trivial
  raise _ _ _ _ := trivial
  superscript _ _ _ _ := trivial
  factorial _ _ := trivial
  absolute _ _ := trivial
  root _ _ _ _ := trivial
  apply _ _ _ _ _ _ := trivial

namespace Grammar

/-- A fault of the grammar is a parse fault at the place where it was found. -/
theorem SyntaxFault.exists_cause
    {finish : Nat}
    {stuck : List Token}
    {fault : Fault}
    (syntaxFault : SyntaxFault finish stuck fault) :
    ∃ cause : FormulaFault,
      fault = .formula cause ∧
        cause.family = .parse ∧
        cause.position? = some (nextPosition finish stuck) := by
  cases syntaxFault with
  | unexpected wanted => cases stuck <;> exact ⟨_, rfl, rfl, rfl⟩
  | tooDeep => exact ⟨_, rfl, rfl, rfl⟩

end Grammar

/-- The tokens before a place stand further left in the text. -/
theorem before_place
    {text : String}
    {line : TokenLine}
    {before stuck : List Token}
    (tokenized : tokenize text = .ok line)
    (derived : line.tokens = before ++ stuck)
    (token : Token)
    (member : token ∈ before) :
    token.position < nextPosition line.finish stuck := by
  obtain ⟨ordered, within⟩ := tokenize_positions tokenized
  rw [derived] at ordered within
  cases stuck with
  | nil => exact within token (List.mem_append_left _ member)
  | cons next others =>
      exact (List.pairwise_append.mp ordered).2.2 token member next List.mem_cons_self

namespace TokenLine

variable {Value : Type} (meaning : Interpretation Value) (line : TokenLine)

/-- Behind a whole formula nothing is left. -/
def closeLine (finish : Nat) (read : Value × List Token) : Except Fault Value :=
  match read.2 with
  | [] => .ok read.1
  | others => .error (unexpected finish .operatorOrEnd others)

/-- A formula is a sum behind which nothing is left. -/
theorem read_eq :
    line.read meaning =
      plain (readSum meaning line.finish (Level.above meaning line.finish deepestNesting)
        line.tokens) >>= closeLine line.finish := by
  have outermost : (Level.above meaning line.finish (deepestNesting + 1)).sum =
      readSum meaning line.finish (Level.above meaning line.finish deepestNesting) := rfl
  rw [TokenLine.read, outermost]
  cases readSum meaning line.finish _ line.tokens with
  | error fault => rfl
  | ok read =>
      obtain ⟨value, ⟨_ | ⟨token, others⟩, shorter⟩⟩ := read <;> rfl

/-- A formula has the value of its greedy tree, if the tree is not too deep. -/
theorem read_tree
    (tree : Phrase .sum)
    (greedy : tree.Greedy)
    (derived : tree.tokens = line.tokens)
    (shallow : tree.depth ≤ deepestNesting) :
    line.read meaning = tree.value meaning := by
  have found := tree.isRead meaning line.finish deepestNesting greedy shallow [] trivial
  rw [List.append_nil, derived] at found
  rw [read_eq, found]
  cases tree.value meaning <;> rfl

/-- A formula has the value of a tree under every meaning, or its reading is stuck. -/
theorem read_decides :
    (∃ tree : Phrase .sum,
      tree.tokens = line.tokens ∧
        tree.depth ≤ deepestNesting ∧
        ∀ (Value : Type) (meaning : Interpretation Value),
          line.read meaning = tree.value meaning) ∨
      ∃ (before stuck : List Token) (fault : Fault),
        line.tokens = before ++ stuck ∧
          SyntaxFault line.finish stuck fault ∧
          ∀ (Value : Type) (meaning : Interpretation Value),
            ∃ found, line.read meaning = .error found ∧
              (found = fault ∨ Blamed meaning before found) := by
  have decides := decides_sum (levelDecides_above line.finish deepestNesting) line.tokens
  rcases decides with ⟨tree, rest, derived, shallow, same⟩ | stuck
  · dsimp only at same
    cases rest with
    | nil =>
        rw [List.append_nil] at derived
        refine .inl ⟨tree, derived.symm, Nat.le_of_lt_succ shallow, ?_⟩
        intro Value meaning
        rw [read_eq, same]
        cases tree.value meaning <;> rfl
    | cons token others =>
        refine .inr ⟨tree.tokens, token :: others, _, derived,
          .unexpected .operatorOrEnd, ?_⟩
        intro Value meaning
        rw [read_eq, same]
        cases worth : tree.value meaning with
        | error found =>
            exact ⟨found, rfl, .inr ⟨[], tree, [], by rw [List.append_nil, List.nil_append], worth⟩⟩
        | ok value => exact ⟨_, rfl, .inl rfl⟩
  · obtain ⟨before, place, fault, derived, syntaxFault, fails⟩ := stuck
    refine .inr ⟨before, place, fault, derived, syntaxFault, ?_⟩
    intro Value meaning
    obtain ⟨found, failed, cause⟩ := fails Value meaning
    rw [read_eq]
    exact ⟨found, bind_failed failed, cause⟩

/-- A meaning that keeps good values gives a formula of admitted lexemes a good value or an
allowed fault, if those of formulas are allowed. -/
theorem yields_of_keeps
    {meaning : Interpretation Value}
    {Admitted : Lexeme → Prop}
    {Good : Value → Prop}
    {Allowed : Fault → Prop}
    (keeps : meaning.Keeps Admitted Good Allowed)
    (ofFormula : ∀ cause : FormulaFault, Allowed (.formula cause))
    (admitted : ∀ token ∈ line.tokens, Admitted token.lexeme) :
    Yields Good Allowed (line.read meaning) := by
  rcases line.read_decides with
    ⟨tree, derived, -, same⟩ | ⟨before, stuck, fault, derived, syntaxFault, fails⟩
  · rw [← derived] at admitted
    rw [same]
    exact tree.yields keeps admitted
  · obtain ⟨found, failed, blame⟩ := fails Value meaning
    rw [failed]
    rcases blame with rfl | blamed
    · obtain ⟨cause, rfl, -⟩ := syntaxFault.exists_cause
      exact ofFormula cause
    · obtain ⟨ahead, expression, behind, rfl, worth⟩ := blamed
      have yields := expression.yields keeps fun token member =>
        admitted token (by rw [derived]; simp [member])
      rw [worth] at yields
      exact yields

/-- No expression is to blame for a reading that has no arithmetic. -/
theorem not_blamed_shape (before : List Token) (fault : Fault) :
    ¬ Blamed Interpretation.shape before fault := by
  intro blamed
  obtain ⟨ahead, expression, behind, derived, fails⟩ := blamed
  have yields := expression.yields Interpretation.shape_keeps fun _ _ => trivial
  rw [fails] at yields
  exact yields

end TokenLine

/-- Evaluation implements the grammar. Let the text have tokens.

Its tokens have at most one greedy tree, and a greedy one of the same depth wherever
they have a tree. If the greedy tree is not too deep, the text evaluates to the
tree's value. If no tree is shallow enough, the text has no value: there is a place
where the grammar alone fails, and evaluation ends with the parse fault there or with
the fault of an expression all of whose tokens stand before that place. -/
theorem evaluate_implements_grammar
    (functions : Elementary)
    (text : String)
    (line : TokenLine)
    (tokenized : tokenize text = .ok line) :
    (∀ left right : Phrase .sum,
      left.Greedy → right.Greedy →
        left.tokens = line.tokens → right.tokens = line.tokens → left = right) ∧
    (∀ tree : Phrase .sum,
      tree.tokens = line.tokens →
        ∃ settled : Phrase .sum,
          settled.Greedy ∧ settled.tokens = line.tokens ∧ settled.depth = tree.depth) ∧
    (∀ tree : Phrase .sum,
      tree.Greedy → tree.tokens = line.tokens → tree.depth ≤ deepestNesting →
        evaluate functions text = tree.value (arithmetic functions)) ∧
    ((∀ tree : Phrase .sum, tree.tokens = line.tokens → deepestNesting < tree.depth) →
      ∃ (before stuck : List Token) (cause : FormulaFault) (found : Fault),
        line.tokens = before ++ stuck ∧
        (∀ token ∈ before, token.position < nextPosition line.finish stuck) ∧
        line.read Interpretation.shape = .error (.formula cause) ∧
        cause.family = .parse ∧
        cause.position? = some (nextPosition line.finish stuck) ∧
        evaluate functions text = .error found ∧
        (found = .formula cause ∨ Blamed (arithmetic functions) before found)) := by
  have evaluated : evaluate functions text = line.read (arithmetic functions) := by
    rw [evaluate, tokenized]
    rfl
  refine ⟨?unique, ?greedy, ?value, ?noValue⟩
  case unique =>
    intro left right leftGreedy rightGreedy leftDerived rightDerived
    exact Phrase.eq_of_tokens_eq leftGreedy rightGreedy (leftDerived.trans rightDerived.symm)
  case greedy =>
    intro tree derived
    obtain ⟨settled, settles⟩ := tree.exists_greedy
    exact ⟨settled, settles.greedy, settles.sameTokens.trans derived, settles.sameDepth⟩
  case value =>
    intro tree greedy derived shallow
    rw [evaluated]
    exact line.read_tree (arithmetic functions) tree greedy derived shallow
  case noValue =>
    intro tooDeep
    rcases line.read_decides with
      ⟨tree, derived, shallow, -⟩ | ⟨before, stuck, fault, derived, syntaxFault, fails⟩
    · exact absurd shallow (Nat.not_le_of_lt (tooDeep tree derived))
    · obtain ⟨cause, rfl, isParse, place⟩ := syntaxFault.exists_cause
      obtain ⟨found, failed, blame⟩ := fails Float (arithmetic functions)
      obtain ⟨shapeFound, shapeFailed, shapeBlame⟩ := fails Unit Interpretation.shape
      have shapeCause : shapeFound = .formula cause :=
        shapeBlame.resolve_right (TokenLine.not_blamed_shape before shapeFound)
      rw [shapeCause] at shapeFailed
      refine ⟨before, stuck, cause, found, derived, ?_, shapeFailed, isParse, place, ?_, blame⟩
      · exact before_place tokenized derived
      · rw [evaluated, failed]

/-! ## A factorial behind a root -/

namespace RootAndFactorial

open Phrase

/-- The tokens of `√4!`. -/
def line : TokenLine where
  tokens := [⟨.root 2.0, "√", 0⟩, ⟨.number 4.0, "4", 1⟩, ⟨.factorial, "!", 2⟩]
  finish := 3

/-- The root of the factorial. -/
def rootOfFactorial : Phrase .sum :=
  ofPostfixed (postfixed
    (root ⟨"√", 0⟩ 2.0 (postfixed (number ⟨"4", 1⟩ 4.0) (factorial ⟨"!", 2⟩ noPostfixes)))
    noPostfixes)

/-- The factorial of the root. -/
def factorialOfRoot : Phrase .sum :=
  ofPostfixed (postfixed
    (root ⟨"√", 0⟩ 2.0 (postfixed (number ⟨"4", 1⟩ 4.0) noPostfixes))
    (factorial ⟨"!", 2⟩ noPostfixes))

theorem tokenize_text : tokenize "√4!" = .ok line := by
  have four : numeralValue ['4'] = 4.0 := by decide +kernel
  have visible : Text.allBlank "√4!".toList = false := by decide
  have characters : "√4!".toList = ['√', '4', '!'] := by decide
  have mark : scan false 2 ['!'] = .ok [⟨.factorial, "!", 2⟩] := by
    have sign : Text.isBlank '!' = false := by decide
    exact scan_of_read sign rfl (scan_nil false 3)
  have number : scan false 1 ['4', '!'] =
      .ok [⟨.number (numeralValue ['4']), "4", 1⟩, ⟨.factorial, "!", 2⟩] := by
    have digit : Text.isBlank '4' = false := by decide
    have read : Lexeme.read false 1 '4' ['!'] =
        .ok ⟨.number (numeralValue ['4']), "4", 0⟩ := rfl
    exact scan_of_read digit read mark
  have scanned : scan true 0 ['√', '4', '!'] = .ok line.tokens := by
    rw [four] at number
    have sign : Text.isBlank '√' = false := by decide
    exact scan_of_read sign rfl number
  rw [tokenize, visible, characters, scanned]
  rfl

theorem rootOfFactorial_greedy : rootOfFactorial.Greedy :=
  ⟨⟨⟨⟨trivial, False.elim⟩, fun _ => rfl⟩, trivial⟩, trivial⟩

end RootAndFactorial

open RootAndFactorial in
/-- In `√4!` evaluation takes the factorial into the operand of the root. -/
theorem evaluate_root_of_factorial :
    tokenize "√4!" = .ok line ∧
      evaluate Elementary.native "√4!" =
        rootOfFactorial.value (arithmetic Elementary.native) :=
  ⟨tokenize_text,
    (evaluate_implements_grammar Elementary.native "√4!" line tokenize_text).2.2.1
      rootOfFactorial rootOfFactorial_greedy rfl (by decide)⟩

open RootAndFactorial in
/-- The grammar alone is ambiguous: `√4!` also derives the factorial of the root, and
it does not evaluate to the value of that tree. -/
theorem factorial_of_root_not_evaluated :
    tokenize "√4!" = .ok line ∧
      ¬ (∀ left right : Phrase .sum,
        left.tokens = line.tokens → right.tokens = line.tokens → left = right) ∧
      ¬ (∀ tree : Phrase .sum,
        tree.tokens = line.tokens → tree.depth ≤ deepestNesting →
          evaluate Elementary.native "√4!" = tree.value (arithmetic Elementary.native)) := by
  have evaluated : evaluate Elementary.native "√4!" =
      rootOfFactorial.value (arithmetic Elementary.native) := by
    rw [evaluate, tokenize_text]
    exact line.read_tree _ rootOfFactorial rootOfFactorial_greedy rfl (by decide)
  have two : (factorialOfRoot.value (arithmetic Elementary.native)).toOption = some 2.0 := by
    decide +kernel
  have notTwo : (rootOfFactorial.value (arithmetic Elementary.native)).toOption ≠ some 2.0 := by
    decide +kernel
  refine ⟨tokenize_text, ?_, ?_⟩
  · intro unique
    rw [unique rootOfFactorial factorialOfRoot rfl rfl] at notTwo
    exact notTwo two
  · intro anyTree
    rw [← evaluated, anyTree factorialOfRoot rfl (by decide)] at notTwo
    exact notTwo two

end FormulaGrid
