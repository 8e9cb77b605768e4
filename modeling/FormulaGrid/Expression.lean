import FormulaGrid.Formula.Evaluation

/-!
Contract: expressions, the formulas that stand in grids and catalogs.

Owns:
- the kinds of expression (`Kind`) with their nominal values;
- the texts that an expression may have (`IsCellText`);
- expressions (`Expression`) and the three ways to make one.

An expression has a text, a kind, a note and a value of its own, which need not
come from the text. Two expressions with the same text and kind are the same.
-/

namespace FormulaGrid

/-- The kinds of expression. All but the last are catalogued. -/
inductive Kind where
  | unity
  | zero
  | advanced
  | synthesized
deriving DecidableEq, Repr

namespace Kind

def label : Kind → String
  | unity => "unity"
  | zero => "zero"
  | advanced => "advanced"
  | synthesized => "synthesized"

def all : List Kind :=
  [unity, zero, advanced, synthesized]

def ofLabel? (label : String) : Option Kind :=
  all.find? fun kind => kind.label == label

/-- The value that the catalog promises for a kind. -/
def nominalValue? : Kind → Option Float
  | unity => some 1.0
  | zero => some 0.0
  | advanced => some 1.0
  | synthesized => none

end Kind

/-- A kind as it is asked for: one of the kinds, or a value that is none, known by
the name of what it is. -/
inductive KindChoice where
  | known (kind : Kind)
  | unknown (kindName : String)

def zeroCell : String := "0"

/-- A text that an expression may have: it fits into a cell of a grid, between
blanks, and is not the zero cell. -/
def IsCellText (text : String) : Prop :=
  text ≠ "" ∧ text.toList.any Text.isBlank = false ∧ text ≠ zeroCell

instance (text : String) : Decidable (IsCellText text) := by
  unfold IsCellText
  infer_instance

/-- A formula with its kind and its value. -/
structure Expression where
  text : String
  kind : Kind
  note : Option String
  value : Elementary → Except Fault Float
  isCellText : IsCellText text

namespace Expression

/-- Expressions are told apart by text and kind alone. -/
instance : BEq Expression where
  beq left right := left.text == right.text && left.kind == right.kind

/-- Make an expression; its text must be fit for a cell and its kind be one. -/
def define
    (text : String)
    (kind : KindChoice)
    (note : Option String)
    (value : Elementary → Except Fault Float) :
    Except Fault Expression :=
  if empty : text = "" then
    .error (.definition .noText)
  else if blank : text.toList.any Text.isBlank = true then
    .error (.definition (.blankInText text))
  else if reserved : text = zeroCell then
    .error (.definition .zeroText)
  else
    match kind with
    | .known kind =>
        .ok ⟨text, kind, note, value, empty, Bool.eq_false_iff.mpr blank, reserved⟩
    | .unknown kindName => .error (.definition (.unknownKind kindName))

/-- Make an entry of a catalog, which may not be a synthesized expression. -/
def defineEntry
    (text : String)
    (kind : KindChoice)
    (note : Option String)
    (value : Elementary → Except Fault Float) :
    Except Fault Expression :=
  match kind with
  | .known .synthesized => .error (.definition .synthesizedEntry)
  | _ => define text kind note value

/-- Make a synthesized expression; its value is that of its text. -/
def synthesize (text : String) (note : Option String) : Except Fault Expression :=
  define text (.known .synthesized) note fun functions => evaluate functions text

def texts (expressions : List Expression) : List String :=
  expressions.map Expression.text

end Expression

end FormulaGrid
