import FormulaGrid.Expression

/-!
Contract: grids, the rows of cells that a text is written in.

Owns:
- the layouts that a grid may have (`Layout`);
- grids (`Grid`), made from rows (`Grid.ofRows`) or from a flat sequence of cells
  (`Grid.ofCells`);
- their views: the cells in reading order, their count, and their bits.

Every row but the last is exactly as long as the grid is wide; the last holds
what is left, so that nothing is padded and nothing is cut off.
-/

namespace FormulaGrid

def defaultWidth : Nat := 8

/-- A row that a grid of the given width may hold: it has a cell, no more cells
than the width and no empty cell. Only the last row may be shorter than the
width. -/
def RowFits (width : Nat) (isLast : Bool) (row : List String) : Prop :=
  row ≠ [] ∧ row.length ≤ width ∧ (isLast = false → row.length = width) ∧ "" ∉ row

instance (width : Nat) (isLast : Bool) (row : List String) :
    Decidable (RowFits width isLast row) := by
  unfold RowFits
  infer_instance

/-- Rows of which each one fits, the last as the last. -/
def RowsFit (width : Nat) : List (List String) → Prop
  | [] => True
  | row :: others => RowFits width others.isEmpty row ∧ RowsFit width others

/-- The layouts of grids. -/
def Layout (width : Nat) (rows : List (List String)) : Prop :=
  0 < width ∧ RowsFit width rows

/-- The text of a cell; what is no text counts as an empty one. -/
def cellText : Datum → String
  | .text cell => cell
  | _ => ""

/-- The first fault of a row. Its length is looked at before its cells. -/
def rowFault? (width index : Nat) (isLast : Bool) (row : List Datum) : Option CodecFault :=
  if row = [] then
    some (.emptyRow index)
  else if isLast = false ∧ row.length ≠ width then
    some (.unequalRow index row.length width)
  else if width < row.length then
    some (.overlongRow index row.length width)
  else
    (row.find? fun cell => cellText cell == "").map (CodecFault.unfitCell index)

/-- The first fault of the rows from one with the given index on. -/
def rowsFault? (width : Nat) : (index : Nat) → List (List Datum) → Option CodecFault
  | _, [] => none
  | index, row :: others =>
      (rowFault? width index others.isEmpty row).or (rowsFault? width (index + 1) others)

/-- A row without a fault fits. -/
theorem rowFits_of_rowFault_eq_none
    {width index : Nat}
    {isLast : Bool}
    {row : List Datum}
    (faultless : rowFault? width index isLast row = none) :
    RowFits width isLast (row.map cellText) := by
  simp only [rowFault?] at faultless
  split at faultless
  · contradiction
  · split at faultless
    · contradiction
    · split at faultless
      · contradiction
      · next filled equal short =>
          refine ⟨by simpa using filled, by simpa using short, fun inside => ?_, ?_⟩
          · rw [List.length_map]
            exact Decidable.byContradiction fun differs => equal ⟨inside, differs⟩
          · simpa [List.mem_map] using faultless

/-- Rows without a fault fit. -/
theorem rowsFit_of_rowsFault_eq_none
    {width index : Nat}
    {rows : List (List Datum)}
    (faultless : rowsFault? width index rows = none) :
    RowsFit width (rows.map (List.map cellText)) := by
  induction rows generalizing index with
  | nil => trivial
  | cons row others inductionHypothesis =>
      rw [rowsFault?, Option.or_eq_none_iff] at faultless
      refine ⟨?_, inductionHypothesis faultless.2⟩
      have fits := rowFits_of_rowFault_eq_none faultless.1
      simpa using fits

/-- Rows of cells, in a layout that the width admits. -/
structure Grid where
  rows : List (List String)
  width : Nat
  layout : Layout width rows

namespace Grid

/-- Grids are the same if their rows and widths are. -/
instance : BEq Grid where
  beq left right := left.rows == right.rows && left.width == right.width

/-- The grid of the given rows; the width must be positive. -/
def ofRows (rows : List (List Datum)) (width : Int) : Except Fault Grid :=
  if wide : 1 ≤ width then
    match faultless : rowsFault? width.toNat 0 rows with
    | some cause => .error (Fault.codec cause).reported
    | none =>
        .ok ⟨rows.map (List.map cellText), width.toNat, by omega,
          rowsFit_of_rowsFault_eq_none faultless⟩
  else
    .error (Fault.codec (.unfitWidth width)).reported

/-- Consecutive pieces of the given positive length; the last may be shorter. -/
def pieces {Cell : Type} (length : Nat) : List Cell → List (List Cell)
  | [] => []
  | cell :: others =>
      (cell :: others.take (length - 1)) :: pieces length (others.drop (length - 1))
termination_by cells => cells.length
decreasing_by
  simp only [List.length_drop, List.length_cons]
  omega

/-- The grid of a flat sequence of cells, cut into rows of the given width. -/
def ofCells (cells : List Datum) (width : Int) : Except Fault Grid :=
  if 1 ≤ width then
    ofRows (pieces width.toNat cells) width
  else
    .error (Fault.codec (.unfitWidth width)).reported

/-- The elements of a value that should have some. -/
def elementsOf (datum : Datum) : Except Fault (List Datum) :=
  match datum.elements? with
  | some items => .ok items
  | none => .error (.kind (.notIterable datum.kindName))

/-- The width of rows is the length of the first, unless that is empty. -/
def widthOf : List (List Datum) → Nat
  | [] => defaultWidth
  | [] :: _ => defaultWidth
  | first :: _ => first.length

/-- The grid of rows that need not be rows; the first sets the width. -/
def ofDatum (datum : Datum) : Except Fault Grid := do
  let items ← elementsOf datum
  let rows ← items.mapM elementsOf
  ofRows rows (widthOf rows)

def cells (grid : Grid) : List String :=
  grid.rows.flatten

def cellCount (grid : Grid) : Nat :=
  grid.cells.length

/-- The bits that the cells stand for if each one but the zero cell is a one.
Nothing is verified. -/
def bits (grid : Grid) : String :=
  String.ofList (grid.cells.map fun cell => if cell == zeroCell then '0' else '1')

/-- The row at an index; a negative one counts from the end. -/
def row (grid : Grid) (index : Int) : Except Fault (List String) :=
  let place := if index < 0 then index + grid.rows.length else index
  if place < 0 then
    .error .rowIndex
  else
    match grid.rows[place.toNat]? with
    | some row => .ok row
    | none => .error .rowIndex

def toDatum (grid : Grid) : Datum :=
  .list (grid.rows.map fun row => .list (row.map Datum.text))

end Grid

end FormulaGrid
