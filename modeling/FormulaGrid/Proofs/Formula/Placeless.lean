import FormulaGrid.Formula.Arithmetic
import FormulaGrid.Proofs.Outcome

/-!
Contract: the operations of the arithmetic fail nowhere in particular.

Owns:
- faults with their place moved (`Fault.moved`), and faults that have none (`Fault.Placeless`);
- outcomes that are values or faults without a place (`FailsNowhere`);
- the faults of the arithmetic (`Fault.IsArithmetic`), which have no place and come from no
  grid: all operations but the division have no others, whatever the library answers.

Does not own: the places of tokens.
-/

namespace FormulaGrid

/-! ## Places that are moved -/

/-- The cause, with its place moved. -/
def FormulaFault.moved (move : Nat → Nat) : FormulaFault → FormulaFault
  | danglingSuperscript run position => danglingSuperscript run (move position)
  | unexpected wanted found position => unexpected wanted found (move position)
  | nestedTooDeep position => nestedTooDeep (move position)
  | unknownSymbol symbol position => unknownSymbol symbol (move position)
  | unknownWord word position => unknownWord word (move position)
  | divisionByZero position => divisionByZero (move position)
  | other => other

/-- The fault, with the place of its cause moved. -/
def Fault.moved (move : Nat → Nat) : Fault → Fault
  | formula cause => formula (cause.moved move)
  | other => other

/-- Where a fault has been moved to is no matter of its family. -/
theorem Fault.family?_moved (move : Nat → Nat) (fault : Fault) :
    (fault.moved move).family? = fault.family? := by
  cases fault with
  | formula cause => cases cause <;> rfl
  | _ => rfl

/-- The fault lies nowhere in particular. -/
def Fault.Placeless (fault : Fault) : Prop :=
  ∀ move : Nat → Nat, fault.moved move = fault

/-- The outcome is a value, or a fault that lies nowhere in particular. -/
abbrev FailsNowhere {Value : Type} (outcome : Except Fault Value) : Prop :=
  Yields (fun _ => True) Fault.Placeless outcome

/-- The fault is one that an operation on numbers may have: it lies nowhere in particular, and
it is none of texts and grids. -/
def Fault.IsArithmetic (fault : Fault) : Prop :=
  fault.Placeless ∧ ¬ IsCodecFault fault

/-- The outcome is a value, or a fault of the arithmetic. -/
abbrev FailsArithmetically {Value : Type} (outcome : Except Fault Value) : Prop :=
  Yields (fun _ => True) Fault.IsArithmetic outcome

theorem FailsArithmetically.failsNowhere
    {Value : Type}
    {outcome : Except Fault Value}
    (fails : FailsArithmetically outcome) :
    FailsNowhere outcome :=
  fails.mono (fun _ => id) fun _ => And.left

/-! ## The arithmetic -/

namespace Arithmetic

variable (functions : Elementary)

theorem fails_answer (result : Except Refusal Float) :
    FailsArithmetically (answer result) := by
  rcases result with (_ | _) | value
  · exact ⟨fun _ => rfl, nofun⟩
  · exact ⟨fun _ => rfl, nofun⟩
  · trivial

theorem fails_checked (operation : String) (value : Float) :
    FailsArithmetically (checked operation value) := by
  unfold checked
  split
  · trivial
  · exact ⟨fun _ => rfl, nofun⟩

theorem fails_floatOfInteger (value : Int) :
    FailsArithmetically (floatOfInteger value) := by
  unfold floatOfInteger
  split
  · trivial
  · exact ⟨fun _ => rfl, nofun⟩

theorem fails_nearestInteger (value : Float) :
    FailsArithmetically (nearestInteger value) := by
  unfold nearestInteger
  split
  · trivial
  · unfold notFiniteFault
    split <;> exact ⟨fun _ => rfl, nofun⟩

theorem fails_raiseTo (base exponent : Float) (shown : Number) :
    FailsArithmetically (raiseTo functions base exponent shown) := by
  unfold raiseTo
  split
  · exact ⟨fun _ => rfl, nofun⟩
  · split
    · exact fails_checked _ _
    · exact ⟨fun _ => rfl, nofun⟩
    · exact ⟨fun _ => rfl, nofun⟩

theorem fails_factorial (operand : Float) :
    FailsArithmetically (factorial operand) := by
  unfold factorial
  refine (fails_nearestInteger operand).bind fun nearest _ => ?_
  show Yields _ _ (if operand < 0.0 then _ else _)
  split
  · exact ⟨fun _ => rfl, nofun⟩
  · refine (fails_floatOfInteger nearest).bind fun rounded _ => ?_
    show Yields _ _ (if factorialSlack < (operand - rounded).abs then _ else _)
    split
    · exact ⟨fun _ => rfl, nofun⟩
    · show Yields _ _ (if largestFactorial < nearest then _ else _)
      split
      · exact ⟨fun _ => rfl, nofun⟩
      · have product : FailsArithmetically (factorialOf nearest) := by
          unfold factorialOf
          split
          · exact ⟨fun _ => rfl, nofun⟩
          · trivial
        exact product.bind fun _ _ => fails_floatOfInteger _

theorem fails_barePower (base exponent : Float) :
    FailsArithmetically (barePower functions base exponent) := by
  unfold barePower
  split
  · exact ⟨fun _ => rfl, nofun⟩
  · split
    · exact ⟨fun _ => rfl, nofun⟩
    · split
      · trivial
      · exact ⟨fun _ => rfl, nofun⟩
      · exact ⟨fun _ => rfl, nofun⟩

theorem fails_positiveRoot (index : Int) (radicand : Float) :
    FailsArithmetically (positiveRoot functions index radicand) := by
  unfold positiveRoot
  split
  · exact fails_answer _
  · refine (fails_floatOfInteger index).bind fun degree _ => ?_
    exact (fails_barePower functions radicand _).bind fun _ _ => fails_checked _ _

theorem fails_wholeRootOf (index : Int) (radicand : Float) :
    FailsArithmetically (wholeRootOf functions index radicand) := by
  unfold wholeRootOf
  split
  · exact ⟨fun _ => rfl, nofun⟩
  · split
    · split
      · exact ⟨fun _ => rfl, nofun⟩
      · exact (fails_positiveRoot functions index _).map fun _ => id
    · exact fails_positiveRoot functions index radicand

theorem fails_root (index radicand : Float) :
    FailsArithmetically (root functions index radicand) :=
  (fails_nearestInteger index).bind fun whole _ =>
    fails_wholeRootOf functions whole radicand

theorem fails_logarithm (name : FunctionName) (base : Option Float) (argument : Float) :
    FailsArithmetically (logarithm functions name base argument) := by
  unfold logarithm
  split
  · exact ⟨fun _ => rfl, nofun⟩
  · split
    · exact fails_answer _
    · exact fails_answer _
    · split
      · exact ⟨fun _ => rfl, nofun⟩
      · refine (fails_answer _).bind fun dividend _ => ?_
        refine (fails_answer _).bind fun divisor _ => ?_
        split
        · exact ⟨fun _ => rfl, nofun⟩
        · trivial

theorem fails_apply
    (name : FunctionName)
    (power : Option Nat)
    (base : Option Float)
    (argument : Float) :
    FailsArithmetically (apply functions name power base argument) := by
  have plain : FailsArithmetically (applyPlain functions name base argument) := by
    unfold applyPlain
    cases name with
    | sin | cos | tan => exact fails_answer _
    | sqrt => exact fails_wholeRootOf functions 2 argument
    | ln | log => exact fails_logarithm functions _ base argument
  unfold apply
  refine plain.bind fun value _ => ?_
  cases power with
  | none => exact fails_checked _ _
  | some exponent =>
      have raised : FailsArithmetically (raiseNatural functions value exponent) := by
        unfold raiseNatural
        split
        · exact fails_raiseTo functions _ _ _
        · exact ⟨fun _ => rfl, nofun⟩
      exact raised.bind fun _ _ => fails_checked _ _

end Arithmetic

end FormulaGrid
