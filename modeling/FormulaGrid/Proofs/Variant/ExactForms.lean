import FormulaGrid.Proofs.Variant.ReadBack

/-!
Contract: forms of a double that have exactly its value.

Owns:
- the property that the forms ask of a library of functions (`Elementary.HasFirstPower`);
- the literal of a finite double evaluates to what is written (`evaluate_literal`), and so
  do its forms under an operation that leaves a double as it is (`evaluate_wrappedForms`);
- a difference that is exactly zero (`evaluate_difference`).

Does not own: the places of the forms in a search.
-/

namespace FormulaGrid

/-- The first power of a finite double is the double itself. -/
def Elementary.HasFirstPower (functions : Elementary) : Prop :=
  ∀ base : Float, base.isFinite = true → functions.pow base 1.0 = .ok base

namespace Arithmetic

theorem checked_of_isFinite {value : Float} (finite : value.isFinite = true) (operation : String) :
    checked operation value = .ok value :=
  if_pos finite

theorem divide_one {value : Float} (finite : value.isFinite = true) (position : Nat) :
    divide position value 1.0 = .ok value := by
  have notZero : ((1.0 : Float) == 0.0) = false := by decide
  unfold divide
  rw [notZero, if_neg Bool.false_ne_true, div_one_eq finite]
  exact checked_of_isFinite finite _

theorem raise_one
    {functions : Elementary}
    (hasFirstPower : functions.HasFirstPower)
    {value : Float}
    (finite : value.isFinite = true) :
    raise functions value 1.0 = .ok value := by
  have notNegative : decide ((1.0 : Float) < 0.0) = false := by decide
  unfold raise raiseTo
  rw [notNegative, Bool.and_false, if_neg Bool.false_ne_true, hasFirstPower value finite]
  exact checked_of_isFinite finite _

end Arithmetic

namespace Variant

open Arithmetic

/-- The numeral zero as an operand. -/
def zeroWriting (functions : Elementary) : Writing functions .postfixed 0 0.0 :=
  (Writing.numeral (.natural 0) (by decide +kernel) isFinite_zero).postfixed

/-- The numeral one as an operand. -/
def oneWriting (functions : Elementary) : Writing functions .postfixed 0 1.0 :=
  (Writing.numeral (.natural 1) (by decide +kernel) (by decide +kernel)).postfixed

/-- The forms of a double, besides its literal, that leave its value exactly as it is. -/
def wrappedForms (literal operand : String) : List String :=
  [operand ++ "^1", operand ++ "+0", operand ++ "*1", operand ++ "/1", "(" ++ literal ++ ")"]

section

variable {functions : Elementary} {value : Float} {number : Binary}
  (fields : Binary.ofFloat? value = some number)

include fields

theorem evaluate_literal :
    evaluate functions (binaryLiteral number) = .ok (written value) := by
  obtain ⟨writing, characters⟩ := exists_writing_literal functions fields
  exact writing.product.sum.evaluate_eq characters (by decide)

/-- The forms have the value that the literal has. -/
theorem evaluate_wrappedForms (hasFirstPower : functions.HasFirstPower) :
    ∀ text ∈ wrappedForms (binaryLiteral number)
        (bracketed (Number.float value).isNegative (binaryLiteral number)),
      evaluate functions text = .ok (written value) := by
  have finite := isFinite_written (isFinite_of_ofFloat? fields)
  obtain ⟨literal, literalCharacters⟩ := exists_writing_literal functions fields
  obtain ⟨operand, operandCharacters⟩ := exists_writing_operand functions fields
  have sum : checked "addition" (written value + 0.0) = .ok (written value) := by
    rw [add_zero_eq finite (parts_written_ne (isFinite_of_ofFloat? fields))]
    exact checked_of_isFinite finite _
  have product : checked "multiplication" (written value * 1.0) =
      .ok (written value) := by
    rw [mul_one_eq finite]
    exact checked_of_isFinite finite _
  unfold wrappedForms
  simp only [List.forall_mem_cons]
  refine ⟨?_, ?_, ?_, ?_, ?_, List.forall_mem_nil _⟩
  · refine (operand.raised (oneWriting functions).signed
      (raise_one hasFirstPower finite)).product.sum.evaluate_eq ?_ (by decide)
    rw [String.toList_append, ← operandCharacters]
    rfl
  · refine (operand.signed.product.plus
      (zeroWriting functions).signed.product sum).evaluate_eq ?_ (by decide)
    rw [String.toList_append, ← operandCharacters]
    rfl
  · refine (operand.signed.times
      (oneWriting functions).signed product).sum.evaluate_eq ?_ (by decide)
    rw [String.toList_append, ← operandCharacters]
    rfl
  · refine (operand.signed.dividedBy
      (oneWriting functions).signed (divide_one finite)).sum.evaluate_eq ?_ (by decide)
    rw [String.toList_append, ← operandCharacters]
    rfl
  · refine literal.product.sum.group.postfixed.signed.product.sum.evaluate_eq ?_ (by decide)
    rw [String.toList_append, String.toList_append, ← literalCharacters]
    rfl

end

theorem evaluate_zeroCell (functions : Elementary) : evaluate functions zeroCell = .ok 0.0 :=
  (zeroWriting functions).signed.product.sum.evaluate_eq rfl (by decide)

/-- A number less itself, one of the formulas for zero in the catalog. -/
theorem evaluate_difference (functions : Elementary) : evaluate functions "1-1" = .ok 0.0 := by
  have none : (1.0 : Float) - 1.0 = 0.0 := by decide
  have difference : checked "subtraction" (1.0 - 1.0) = .ok 0.0 := by
    rw [none]
    exact checked_of_isFinite isFinite_zero _
  exact ((oneWriting functions).signed.product.minus
    (oneWriting functions).signed.product difference).evaluate_eq rfl (by decide)

end Variant

end FormulaGrid
