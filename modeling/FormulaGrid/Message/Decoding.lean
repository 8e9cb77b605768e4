import FormulaGrid.Agreement
import FormulaGrid.Expression
import FormulaGrid.Message.Bits

/-!
Contract: texts read back from rows of cells.

Owns:
- the cells of rows of unknown shape, with their places (`placedCells`);
- the bit that a cell stands for (`bitOfCell`);
- the report of a decoding (`DecodeReport`) and the decoding (`decode`).

Decoding trusts nothing: a cell that is not the zero cell must agree with one, or
its place is reported. No bit is guessed, and nothing is decoded in part.
-/

namespace FormulaGrid

/-- A cell where it stands, rows and columns counted from zero. -/
structure PlacedCell where
  row : Nat
  column : Nat
  text : String
deriving DecidableEq, Repr

/-- The cells of one row, from the given column on. An expression counts as its
text. -/
def placedRow (row : Nat) : (column : Nat) → List Datum → Except Fault (List PlacedCell)
  | _, [] => .ok []
  | column, cell :: others =>
      match cell with
      | .text text | .expression text => do
          let rest ← placedRow row (column + 1) others
          return ⟨row, column, text⟩ :: rest
      | other => .error (.codec (.cellOfKind row column other.kindName))

/-- The cells of the rows from one with the given index on. -/
def placedRows : (row : Nat) → List Datum → Except Fault (List PlacedCell)
  | _, [] => .ok []
  | index, row :: others =>
      match row with
      | .text _ => .error (.codec (.rowIsText index))
      | row =>
          match row.elements? with
          | none => .error (.codec (.notRows row.kindName))
          | some cells => do
              let first ← placedRow index 0 cells
              let rest ← placedRows (index + 1) others
              return first ++ rest

/-- The cells of a value that should consist of rows, in reading order. -/
def placedCells : Datum → Except Fault (List PlacedCell)
  | .text _ => .error (.codec .gridIsText)
  | grid =>
      match grid.elements? with
      | none => .error (.codec (.notRows grid.kindName))
      | some rows => placedRows 0 rows

/-- The bit that a cell stands for. -/
def bitOfCell
    (functions : Elementary)
    (tolerance : Number)
    (cell : PlacedCell) :
    Except Fault Char :=
  if cell.text = zeroCell then
    .ok '0'
  else do
    let verdict ← check functions cell.text (.int 1) tolerance
    if verdict.passed tolerance then
      return '1'
    else
      let mismatch : Mismatch :=
        match verdict with
        | .noValue cause => .noValue cause
        | .value value _ => .otherValue value
      throw (.codec (.ambiguousCell cell.row cell.column cell.text mismatch))

/-- What a decoding found: the text, its bits, and how many cells were verified
against one. -/
structure DecodeReport where
  text : String
  bits : String
  verifiedCells : Nat
deriving DecidableEq, Repr

def DecodeReport.byteCount (report : DecodeReport) : Nat :=
  report.bits.length / bitsPerCharacter

/-- Decode rows of cells. Their shape is looked at first, then the number of the
cells, then each cell in reading order. -/
def decode
    (functions : Elementary)
    (grid : Datum)
    (tolerance : Number) :
    Except Fault DecodeReport := do
  let cells ← placedCells grid
  if cells.length % bitsPerCharacter != 0 then
    throw (.codec (.unevenCells cells.length))
  let bits ← cells.mapM (bitOfCell functions tolerance)
  let text ← textOfBits (String.ofList bits)
  return ⟨text, String.ofList bits, bits.count '1'⟩

end FormulaGrid
