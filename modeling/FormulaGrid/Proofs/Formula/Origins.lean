import FormulaGrid.Proofs.Formula.Contract
import FormulaGrid.Proofs.Formula.Lexemes
import FormulaGrid.Proofs.Formula.Placeless

/-!
Contract: a fault of the grammar comes from the grammar.

Owns:
- the faults that only a reader of the grammar has (`IsGrammarFault`);
- the faults of the arithmetic and that of a division are all that operations have, whatever the
  library answers (`arithmetic_keeps_faults`); none is one of the grammar (`arithmetic_apart`),
  and neither is one of the split into tokens;
- a formula with an unexpected token has it without any arithmetic (`exists_unexpected_shape`);
- no evaluation has a fault of texts and grids (`evaluate_not_isCodecFault`).
-/

namespace FormulaGrid

open Grammar

/-- The fault is one that a reader of the grammar has. -/
inductive IsGrammarFault : Fault → Prop where
  | unexpected (wanted : Wanted) (found : Option String) (position : Nat) :
      IsGrammarFault (.formula (.unexpected wanted found position))
  | tooDeep (position : Nat) : IsGrammarFault (.formula (.nestedTooDeep position))

/-- The outcome is a value or a fault that is none of the grammar. -/
abbrev Apart {Value : Type} (outcome : Except Fault Value) : Prop :=
  Yields (fun _ => True) (fun fault => ¬ IsGrammarFault fault) outcome

/-- A fault of the arithmetic is none of the grammar, since such a fault has a place. -/
theorem Fault.IsArithmetic.not_isGrammarFault
    {fault : Fault}
    (arithmetical : fault.IsArithmetic) :
    ¬ IsGrammarFault fault := by
  intro grammarFault
  have moved := arithmetical.1 (· + 1)
  cases grammarFault with
  | unexpected wanted found position =>
      exact Nat.succ_ne_self position (FormulaFault.unexpected.inj (Fault.formula.inj moved)).2.2
  | tooDeep position =>
      exact Nat.succ_ne_self position (FormulaFault.nestedTooDeep.inj (Fault.formula.inj moved))

open Arithmetic in
/-- Besides the faults of the arithmetic there is that of a division by zero, which has a
place. -/
theorem arithmetic_keeps_faults
    (functions : Elementary)
    {Allowed : Fault → Prop}
    (ofArithmetic : ∀ fault : Fault, fault.IsArithmetic → Allowed fault)
    (ofDivision : ∀ position : Nat, Allowed (.formula (.divisionByZero position))) :
    (arithmetic functions).Keeps (fun _ => True) (fun _ => True) Allowed := by
  have widen {outcome : Except Fault Float} (fails : FailsArithmetically outcome) :
      Yields (fun _ => True) Allowed outcome :=
    fails.mono (fun _ => id) ofArithmetic
  exact {
    literal := fun _ _ => widen (fails_checked _ _)
    negate := fun _ _ => trivial
    add := fun _ _ _ _ => widen (fails_checked _ _)
    subtract := fun _ _ _ _ => widen (fails_checked _ _)
    multiply := fun _ _ _ _ => widen (fails_checked _ _)
    divide := fun position left right _ _ => by
      show Yields _ _ (Arithmetic.divide position left right)
      unfold Arithmetic.divide
      split
      · exact ofDivision position
      · exact widen (fails_checked _ _)
    raise := fun base exponent _ _ => widen (fails_raiseTo functions base exponent _)
    superscript := fun base exponent _ _ => widen (fails_raiseTo functions base exponent _)
    factorial := fun operand _ => widen (fails_factorial operand)
    absolute := fun _ _ => trivial
    root := fun index radicand _ _ => widen (fails_root functions index radicand)
    apply := fun name power base argument _ _ =>
      widen (fails_apply functions name power base argument) }

/-- No operation on doubles has a fault of the grammar. -/
theorem arithmetic_apart (functions : Elementary) :
    (arithmetic functions).Keeps (fun _ => True) (fun _ => True)
      (fun fault => ¬ IsGrammarFault fault) :=
  arithmetic_keeps_faults functions (fun _ => Fault.IsArithmetic.not_isGrammarFault)
    fun _ => by rintro ⟨⟩

/-- A text with tokens is the only one that can have a fault of the grammar. -/
theorem apart_tokenize (text : String) : Apart (tokenize text) :=
  (tokenize_cases text).mono (fun _ _ => trivial) fun fault cause => by
    rcases cause with lexical | rfl | ⟨digits, rfl⟩
    · cases lexical <;> rintro ⟨⟩
    · rintro ⟨⟩
    · rintro ⟨⟩

/-- What is unexpected to evaluation is so to the grammar alone. -/
theorem exists_unexpected_shape
    {functions : Elementary}
    {text : String}
    {wanted : Wanted}
    {found : Option String}
    {position : Nat}
    (failed : evaluate functions text = .error (.formula (.unexpected wanted found position))) :
    ∃ line : TokenLine,
      tokenize text = .ok line ∧
        line.read .shape = .error (.formula (.unexpected wanted found position)) := by
  have apart := apart_tokenize text
  rw [evaluate] at failed
  cases tokenized : tokenize text with
  | error fault =>
      rw [tokenized] at failed apart
      cases failed
      exact absurd (.unexpected wanted found position) apart
  | ok line =>
      rw [tokenized, bind_of_ok rfl] at failed
      refine ⟨line, rfl, ?_⟩
      have worthApart (phrase : Phrase .sum) : Apart (phrase.value (arithmetic functions)) :=
        phrase.yields (arithmetic_apart functions) fun _ _ => trivial
      rcases line.read_decides with
        ⟨tree, -, -, same⟩ | ⟨before, stuck, fault, -, -, fails⟩
      · have worth := worthApart tree
        rw [← same, failed] at worth
        exact absurd (.unexpected wanted found position) worth
      · obtain ⟨shapeFound, shapeFailed, shapeCause⟩ := fails Unit .shape
        obtain ⟨other, otherFailed, cause⟩ := fails Float (arithmetic functions)
        rw [failed] at otherFailed
        cases otherFailed
        rw [shapeFailed, shapeCause.resolve_right (TokenLine.not_blamed_shape before shapeFound)]
        rcases cause with rfl | ⟨-, expression, -, -, blamed⟩
        · rfl
        · have worth := worthApart expression
          rw [blamed] at worth
          exact absurd (.unexpected wanted found position) worth

/-- Whatever the library answers, the value of a text is no matter of texts and grids. -/
theorem evaluate_not_isCodecFault (functions : Elementary) (text : String) :
    Yields (fun _ => True) (fun fault => ¬ IsCodecFault fault) (evaluate functions text) := by
  have keeps : (arithmetic functions).Keeps (fun _ => True) (fun _ => True)
      (fun fault => ¬ IsCodecFault fault) :=
    arithmetic_keeps_faults functions (fun _ => And.right) fun _ => nofun
  have split : Yields (fun _ => True) (fun fault => ¬ IsCodecFault fault) (tokenize text) := by
    refine (tokenize_cases text).mono (fun _ _ => trivial) fun fault cause => ?_
    rcases cause with lexical | rfl | ⟨digits, rfl⟩
    · cases lexical <;> nofun
    · nofun
    · nofun
  exact split.bind fun line _ =>
    line.yields_of_keeps keeps (fun _ => nofun) fun _ _ => trivial

end FormulaGrid
