import FormulaGrid.Grid.Basic
import FormulaGrid.Text.Alignment

/-!
Contract: the text form of grids, a row on each line.

Owns:
- the rows that a text writes (`rowsOfText`), and the grid of them
  (`Grid.ofText`);
- the text of a grid (`Grid.toText`), with its columns aligned or not.

Cells are parted by blanks, so a grid with a blank inside a cell has a text but
is not read back from it.
-/

namespace FormulaGrid

/-- The cells on each line that holds any. -/
def rowsOfText (text : String) : List (List String) :=
  ((Text.lines text.toList).map Text.words).filterMap fun words =>
    if words.isEmpty then none else some (words.map String.ofList)

namespace Grid

/-- The grid that a text writes; lines of blanks alone are skipped. -/
def ofText (text : String) : Except Fault Grid :=
  let rows := (rowsOfText text).map (List.map Datum.text)
  ofRows rows (widthOf rows)

def columnWidth (grid : Grid) : Nat :=
  (grid.cells.map String.length).foldl max 0

/-- A row with each cell padded on the left; blanks at its end are dropped. -/
def alignedRow (column : Nat) (row : List String) : String :=
  let padded := "  ".intercalate (row.map (Text.padLeft column))
  String.ofList (Text.trimRight padded.toList)

/-- One line for each row. The columns of an aligned text are as wide as the
longest cell; otherwise one space parts the cells. -/
def toText (aligned : Bool) (grid : Grid) : String :=
  let column := grid.columnWidth
  let lines :=
    if aligned then grid.rows.map (alignedRow column) else grid.rows.map " ".intercalate
  "\n".intercalate lines

end Grid

end FormulaGrid
