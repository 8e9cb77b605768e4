import FormulaGrid.Proofs.Grid
import Mathlib.Algebra.Order.Floor.Div

/-!
Contract: the layouts of grids are those that cutting a sequence of cells gives.

Owns:
- the slices of a sequence (`slices`), each known by its index, and that the pieces are just these
  (`pieces_eq_slices`);
- rows fit just if their cells are filled and the rows are the slices of all cells
  (`rowsFit_iff_slices`);
- the rows that have a grid, the grids that cells have, and that a grid is made again of its own
  cells (`ofRows_iff_slices`).

A row is tested by itself, with one rule for the last row and another for the rows before it; a
slice is cut at a multiple of the width without regard to what it holds.
-/

namespace FormulaGrid.Grid

/-! ## Slices -/

section

variable {Cell : Type}

/-- The row with an index, cut out of a sequence of cells. -/
def slice (width : Nat) (cells : List Cell) (index : Nat) : List Cell :=
  (cells.drop (width * index)).take width

/-- All rows that a sequence of cells is cut into. -/
def slices (width : Nat) (cells : List Cell) : List (List Cell) :=
  (List.range (cells.length ⌈/⌉ width)).map (slice width cells)

theorem length_slices (width : Nat) (cells : List Cell) :
    (slices width cells).length = cells.length ⌈/⌉ width := by
  unfold slices
  rw [List.length_map, List.length_range]

/-- The first slice takes away as many cells as the width, if there are any. -/
theorem ceilDiv_succ {width : Nat} (wide : 0 < width) (count : Nat) :
    (count + 1) ⌈/⌉ width = (count - (width - 1)) ⌈/⌉ width + 1 := by
  have whole : count + 1 + width - 1 = count + width := by omega
  rw [Nat.ceilDiv_eq_add_pred_div, Nat.ceilDiv_eq_add_pred_div, whole, Nat.add_div_right _ wide]
  congr 1
  by_cases filled : width - 1 ≤ count
  · congr 1
    omega
  · rw [Nat.div_eq_of_lt (by omega), Nat.div_eq_of_lt (by omega)]

theorem slice_succ
    {width : Nat}
    (wide : 0 < width)
    (cell : Cell)
    (others : List Cell)
    (index : Nat) :
    slice width (cell :: others) (index + 1) = slice width (others.drop (width - 1)) index := by
  have places : width * (index + 1) = width - 1 + width * index + 1 := by
    rw [Nat.mul_succ]
    omega
  unfold slice
  rw [places, List.drop_succ_cons, List.drop_drop]

/-- The pieces of a sequence are its slices. -/
theorem pieces_eq_slices {width : Nat} (wide : 0 < width) (cells : List Cell) :
    pieces width cells = slices width cells := by
  induction cells using pieces.induct width with
  | case1 =>
      rw [pieces, slices, List.length_nil, zero_ceilDiv]
      rfl
  | case2 cell others inductionHypothesis =>
      have first : slice width (cell :: others) 0 = cell :: others.take (width - 1) := by
        obtain ⟨places, rfl⟩ := Nat.exists_eq_succ_of_ne_zero wide.ne'
        rfl
      rw [pieces, inductionHypothesis, slices, slices, List.length_cons, ceilDiv_succ wide,
        List.range_succ_eq_map, List.map_cons, List.map_map, List.length_drop, first]
      exact congrArg _ (List.map_congr_left fun index _ => (slice_succ wide cell others index).symm)

end

/-! ## Rows -/

/-- Rows that fit are the pieces of their cells. -/
theorem pieces_flatten
    {Cell : Type}
    {text : Cell → String}
    {width : Nat}
    {rows : List (List Cell)}
    (fit : RowsFit width (rows.map (List.map text))) :
    pieces width rows.flatten = rows := by
  induction rows with
  | nil => exact pieces.eq_1 width
  | cons row others inductionHypothesis =>
      obtain ⟨⟨nonempty, short, equal, -⟩, behind⟩ := fit
      rw [List.length_map] at short equal
      cases row with
      | nil => exact absurd rfl nonempty
      | cons cell rest =>
          rw [List.length_cons] at short equal
          rw [List.flatten_cons, List.cons_append, pieces]
          cases others with
          | nil =>
              -- The last row may end early, but nothing is left behind it.
              rw [List.flatten_nil, List.append_nil, List.take_of_length_le (by omega),
                List.drop_eq_nil_of_le (by omega), pieces]
          | cons next later =>
              have full : rest.length = width - 1 := by
                have whole := equal rfl
                omega
              rw [List.take_left' full, List.drop_left' full, inductionHypothesis behind]

theorem cellText_ne_empty_iff (cell : Datum) :
    cellText cell ≠ "" ↔ ∃ content : String, cell = .text content ∧ content ≠ "" := by
  cases cell with
  | text content => exact ⟨fun filled => ⟨content, rfl, filled⟩, fun ⟨_, same, filled⟩ => by
      cases same
      exact filled⟩
  | _ => exact iff_of_false (fun filled => filled rfl) nofun

/-- Rows fit just if all their cells are filled and they are the slices of these. -/
theorem rowsFit_iff_slices
    {width : Nat}
    (wide : 0 < width)
    (rows : List (List Datum)) :
    RowsFit width (rows.map (List.map cellText)) ↔
      (∀ row ∈ rows, ∀ cell ∈ row, cellText cell ≠ "") ∧ rows = slices width rows.flatten := by
  rw [← pieces_eq_slices wide]
  constructor
  · intro fit
    refine ⟨fun row inRows cell inRow empty => ?_, (pieces_flatten fit).symm⟩
    exact (fit.of_mem (List.mem_map_of_mem inRows)).2.2 (empty ▸ List.mem_map_of_mem inRow)
  · rintro ⟨filled, same⟩
    have notEmpty : "" ∉ rows.flatten.map cellText := by
      intro member
      obtain ⟨cell, inCells, empty⟩ := List.mem_map.mp member
      obtain ⟨row, inRows, inRow⟩ := List.mem_flatten.mp inCells
      exact filled row inRows cell inRow empty
    rw [same, ← pieces_map]
    exact rowsFit_pieces wide notEmpty

/-- Rows have a grid of a positive width just if they fit. -/
theorem exists_ofRows_iff (rows : List (List Datum)) (width : Int) :
    (∃ grid : Grid, ofRows rows width = .ok grid) ↔
      1 ≤ width ∧ RowsFit width.toNat (rows.map (List.map cellText)) := by
  unfold ofRows
  by_cases wide : 1 ≤ width
  case neg =>
    rw [dif_neg wide]
    exact iff_of_false nofun fun fits => wide fits.1
  rw [dif_pos wide]
  split
  next cause found =>
    refine iff_of_false nofun fun fits => ?_
    rw [rowsFault?_of_rowsFit 0 fits.2] at found
    cases found
  next faultless => exact iff_of_true ⟨_, rfl⟩ ⟨wide, rowsFit_of_rowsFault_eq_none faultless⟩

/-! ## Cells -/

theorem rows_of_ofCells
    {width : Int}
    {cells : List String}
    {grid : Grid}
    (made : ofCells (cells.map Datum.text) width = .ok grid) :
    grid.rows = pieces width.toNat cells := by
  unfold ofCells at made
  split at made
  next =>
    rw [pieces_map] at made
    exact rows_of_ofRows made
  next => cases made

/-- A grid is made again of its own cells. -/
theorem ofCells_cells (grid : Grid) :
    ofCells (grid.cells.map Datum.text) grid.width = .ok grid := by
  have positive : 1 ≤ (grid.width : Int) := Int.ofNat_le.mpr grid.layout.1
  have same : pieces grid.width grid.cells = grid.rows :=
    @pieces_flatten String id _ _ (by simpa using grid.layout.2)
  unfold ofCells
  rw [if_pos positive, Int.toNat_natCast, pieces_map, same]
  exact ofRows_of_layout grid.layout

/-- Grids have exactly the layouts that cutting cells gives. Rows have a grid of a width just if
the width is positive, every cell is a text that is not empty, and the rows are those that all
cells are cut into. Texts that are not empty have a grid of every positive width, with these cells
and as many rows as it takes to hold them. So a grid is made again of its own cells. -/
theorem ofRows_iff_slices :
    (∀ (rows : List (List Datum)) (width : Int),
      (∃ grid : Grid, ofRows rows width = .ok grid) ↔
        1 ≤ width ∧
          (∀ row ∈ rows, ∀ cell ∈ row,
            ∃ content : String, cell = .text content ∧ content ≠ "") ∧
          rows = slices width.toNat rows.flatten) ∧
    (∀ (cells : List String) (width : Int), (∀ cell ∈ cells, cell ≠ "") → 1 ≤ width →
      ∃ grid : Grid,
        ofCells (cells.map Datum.text) width = .ok grid ∧
          grid.cells = cells ∧
          grid.cellCount = cells.length ∧
          grid.rows.length = cells.length ⌈/⌉ width.toNat) ∧
    (∀ grid : Grid, ofCells (grid.cells.map Datum.text) grid.width = .ok grid) := by
  refine ⟨?accepted, ?cut, ofCells_cells⟩
  case accepted =>
    intro rows width
    rw [exists_ofRows_iff]
    simp only [← cellText_ne_empty_iff]
    exact and_congr_right fun wide => rowsFit_iff_slices (by omega) rows
  case cut =>
    intro cells width filled wide
    have positive : 0 < width.toNat := by omega
    obtain ⟨grid, made⟩ := exists_ofCells positive fun member => filled "" member rfl
    rw [Int.toNat_of_nonneg (by omega)] at made
    have cellsSame := cells_of_ofCells made
    refine ⟨grid, made, cellsSame, congrArg List.length cellsSame, ?_⟩
    rw [rows_of_ofCells made, pieces_eq_slices positive, length_slices]

/-- Three cells fill two rows of two columns. With the shorter row first they are no rows of a
grid. -/
theorem ofRows_iff_slices_threeCells :
    (∀ cell ∈ ["√4/2", "0", "0!"], cell ≠ "") ∧
      (1 : Int) ≤ 2 ∧
      (∃ grid : Grid,
        ofCells (["√4/2", "0", "0!"].map Datum.text) 2 = .ok grid ∧
          grid.cells = ["√4/2", "0", "0!"] ∧
          grid.cellCount = 3 ∧
          grid.rows.length = 2 ∧
          ofCells (grid.cells.map Datum.text) grid.width = .ok grid) ∧
      ¬ ∃ grid : Grid, ofRows [[.text "√4/2"], [.text "0", .text "0!"]] 2 = .ok grid := by
  have filled : ∀ cell ∈ ["√4/2", "0", "0!"], cell ≠ "" := by decide
  obtain ⟨accepted, cut, again⟩ := ofRows_iff_slices
  obtain ⟨grid, made, cells, count, rows⟩ := cut ["√4/2", "0", "0!"] 2 filled (by decide)
  refine ⟨filled, by decide, ⟨grid, made, cells, count, rows, again grid⟩, fun found => ?_⟩
  obtain ⟨-, -, same⟩ := (accepted _ _).mp found
  exact absurd (congrArg (List.map List.length) same) (by decide)

end FormulaGrid.Grid
