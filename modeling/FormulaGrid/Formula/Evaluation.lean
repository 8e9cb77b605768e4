import FormulaGrid.Formula.Arithmetic
import FormulaGrid.Formula.Lexer

/-!
Contract: the value of a formula.

Owns:
- the value of a text (`evaluate`) and of a value that should be a text
  (`evaluateDatum`);
- whether a text has a value (`isValid`).

Splitting the text comes first, so a fault of the alphabet anywhere in the text
is reported before any fault of the grammar or of the arithmetic.
-/

namespace FormulaGrid

/-- The value of the formula that a text writes. -/
def evaluate (functions : Elementary) (text : String) : Except Fault Float := do
  let line ← tokenize text
  line.read (arithmetic functions)

/-- The value of a formula that may turn out to be no text. -/
def evaluateDatum (functions : Elementary) : Datum → Except Fault Float
  | .text text => evaluate functions text
  | other => .error (.kind (.formula other.kindName))

/-- What evaluation says of a text: its value, or why it has none. Faults of
another kind are passed on. -/
def attempt
    (functions : Elementary)
    (text : String) :
    Except Fault (Except FormulaFault Float) :=
  match evaluate functions text with
  | .ok value => .ok (.ok value)
  | .error (.formula cause) => .ok (.error cause)
  | .error other => .error other

/-- The text has a value. -/
def isValid (functions : Elementary) (text : String) : Except Fault Bool :=
  (attempt functions text).map fun outcome => outcome.toBool

end FormulaGrid
