import FormulaGrid.Agreement
import FormulaGrid.Expression
import FormulaGrid.Text.Alignment

/-!
Contract: the lines that commands print.

Owns:
- values and expressions as they are listed (`displayValue`, `expressionRow`);
- the notice of a failure (`failureNotice`).
-/

namespace FormulaGrid.Console

def valueDigits : Nat := 12

def differenceDigits : Nat := 3

def toleranceDigits : Nat := 6

def displayValue (value : Float) : String :=
  generalText valueDigits value

/-- A number as it is displayed; an integer is first turned into a double. -/
def displayNumber (value : Number) : Except Fault String :=
  match value.toFloat? with
  | some float => .ok (displayValue float)
  | none => .error (.range .integerBeyondFloat)

/-- An expression as a numbered row: its text in a column, its kind, and its note
if it has one. -/
def expressionRow (index : Int) (expression : Expression) : String :=
  let label :=
    match expression.note with
    | some note =>
        if note.isEmpty then expression.kind.label else expression.kind.label ++ "/" ++ note
    | none => expression.kind.label
  Text.padLeft 3 (Numeral.integer index) ++ ". " ++ Text.padRight 28 expression.text ++
    " [" ++ label ++ "]"

def failureNotice (action reason : String) : String :=
  "ERROR: " ++ action ++ "\nReason: " ++ reason

/-- Expressions as rows numbered from one, each row ending its line. -/
def numberedRows (expressions : List Expression) : String :=
  String.join <| expressions.zipIdx.map fun (expression, index) =>
    expressionRow (index + 1) expression ++ "\n"

end FormulaGrid.Console
