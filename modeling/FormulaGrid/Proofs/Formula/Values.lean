import FormulaGrid.Proofs.Formula.Arithmetic
import FormulaGrid.Proofs.Formula.Contract

/-!
Contract: what has a value has a finite one.

Owns:
- every construct makes of finite doubles a finite double or some fault, whatever the library of
  elementary functions answers and whatever a token carries (`arithmetic_keepsFinite`);
- the value of a text is finite (`isFinite_of_evaluate`).

Nothing is asked of the library here, since nothing is said of the faults. Its documentation is what
makes the faults typed ones.
-/

namespace FormulaGrid

/-- The outcome is a finite double or any fault. -/
abbrev FiniteValued (outcome : Except Fault Float) : Prop :=
  Yields IsFinite (fun _ => True) outcome

/-- A finite double or a typed fault is a finite double or any fault. -/
theorem Yields.finiteValued
    {outcome : Except Fault Float}
    (yields : Yields IsFinite IsFormulaFault outcome) :
    FiniteValued outcome :=
  yields.mono (fun _ finite => finite) fun _ _ => trivial

namespace Arithmetic

/-- Roots are checked but for the square root, which is taken only of what is not below zero. -/
theorem finiteValued_positiveRoot
    (functions : Elementary)
    (index : Int)
    {radicand : Float}
    (finite : IsFinite radicand)
    (notBelow : ¬ radicand < 0.0) :
    FiniteValued (positiveRoot functions index radicand) := by
  unfold positiveRoot
  split
  · exact (yields_squareRoot finite notBelow).finiteValued
  · refine (yields_self (floatOfInteger index)).bind fun degree _ => ?_
    refine (yields_self (barePower functions radicand (1.0 / degree))).bind fun value _ => ?_
    exact (yields_checked "root" value).finiteValued

theorem finiteValued_wholeRootOf
    (functions : Elementary)
    (index : Int)
    {radicand : Float}
    (finite : IsFinite radicand) :
    FiniteValued (wholeRootOf functions index radicand) := by
  unfold wholeRootOf
  split
  · trivial
  · split
    next below =>
      split
      · trivial
      · exact (finiteValued_positiveRoot functions index (isFinite_neg finite)
          (not_neg_lt_zero below)).map fun _ => isFinite_neg
    next notBelow => exact finiteValued_positiveRoot functions index finite notBelow

/-- The index may be an infinity, which has no nearest integer. -/
theorem finiteValued_root (functions : Elementary) (index : Float) {radicand : Float}
    (finite : IsFinite radicand) :
    FiniteValued (root functions index radicand) :=
  (yields_self (nearestInteger index)).bind fun nearest _ =>
    finiteValued_wholeRootOf functions nearest finite

theorem finiteValued_apply
    (functions : Elementary)
    (name : FunctionName)
    (power : Option Nat)
    (base : Option Float)
    (argument : Float) :
    FiniteValued (apply functions name power base argument) := by
  unfold apply
  refine (yields_self (applyPlain functions name base argument)).bind fun plain _ => ?_
  cases power with
  | none => exact (yields_checked name.word plain).finiteValued
  | some exponent =>
      exact (yields_self (raiseNatural functions plain exponent)).bind fun value _ =>
        (yields_checked name.word value).finiteValued

end Arithmetic

open Arithmetic in
/-- Every construct makes of finite doubles a finite double, if it has a value. -/
theorem arithmetic_keepsFinite (functions : Elementary) :
    (arithmetic functions).Keeps (fun _ => True) IsFinite (fun _ => True) where
  literal _ _ := (yields_checked _ _).finiteValued
  negate _ finite := isFinite_neg finite
  add _ _ _ _ := (yields_checked _ _).finiteValued
  subtract _ _ _ _ := (yields_checked _ _).finiteValued
  multiply _ _ _ _ := (yields_checked _ _).finiteValued
  divide _ _ _ _ _ := (yields_divide _ _ _).finiteValued
  raise _ _ _ _ := (yields_raiseTo _ _ _ _).finiteValued
  superscript _ _ _ _ := (yields_raiseTo _ _ _ _).finiteValued
  factorial _ finite := (yields_factorial finite).finiteValued
  absolute _ finite := isFinite_abs finite
  root index _ _ finite := finiteValued_root functions index finite
  apply name power base argument _ _ := finiteValued_apply functions name power base argument

/-- Whatever the library answers, the value of a text is finite. -/
theorem isFinite_of_evaluate
    {functions : Elementary}
    {text : String}
    {value : Float}
    (evaluated : evaluate functions text = .ok value) :
    IsFinite value := by
  have finite : FiniteValued (evaluate functions text) :=
    (yields_self (tokenize text)).bind fun line _ =>
      line.yields_of_keeps (arithmetic_keepsFinite functions) (fun _ => trivial) fun _ _ => trivial
  exact finite.of_ok evaluated

end FormulaGrid
