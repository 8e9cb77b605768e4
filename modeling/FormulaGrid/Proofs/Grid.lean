import FormulaGrid.Grid.Basic
import FormulaGrid.Proofs.Outcome

/-!
Contract: the layouts of grids, and grids made of a flat sequence of cells.

Owns:
- rows in a layout are the rows of a grid (`ofRows_of_layout`);
- the pieces of a sequence put together again (`flatten_pieces`), and that they fit as
  rows (`rowsFit_pieces`);
- cells that are not empty have a grid of every width (`exists_ofCells`), and a grid has
  the cells that it was made of (`cells_of_ofCells`).
-/

namespace FormulaGrid

/-- A row that fits has no fault. -/
theorem rowFault?_of_rowFits
    {width : Nat}
    (index : Nat)
    {isLast : Bool}
    {row : List Datum}
    (fits : RowFits width isLast (row.map cellText)) :
    rowFault? width index isLast row = none := by
  obtain ⟨nonempty, short, equal, filled⟩ := fits
  rw [List.length_map] at short equal
  have notEmpty : row ≠ [] := fun empty => nonempty (by rw [empty]; rfl)
  have notUnequal : ¬ (isLast = false ∧ row.length ≠ width) :=
    fun unequal => unequal.2 (equal unequal.1)
  have noneUnfit : row.find? (fun cell => cellText cell == "") = none := by
    refine List.find?_eq_none.mpr fun cell member empty => ?_
    exact filled (List.mem_map.mpr ⟨cell, member, beq_iff_eq.mp empty⟩)
  unfold rowFault?
  rw [if_neg notEmpty, if_neg notUnequal, if_neg (Nat.not_lt.mpr short), noneUnfit]
  rfl

/-- Rows that fit have no fault. -/
theorem rowsFault?_of_rowsFit
    {width : Nat}
    (index : Nat)
    {rows : List (List Datum)}
    (fit : RowsFit width (rows.map (List.map cellText))) :
    rowsFault? width index rows = none := by
  induction rows generalizing index with
  | nil => rfl
  | cons row others inductionHypothesis =>
      obtain ⟨first, behind⟩ := fit
      rw [List.isEmpty_map] at first
      rw [rowsFault?, rowFault?_of_rowFits index first, inductionHypothesis (index + 1) behind]
      rfl

/-- No integer is written in a fault of rows of texts, its counts and places apart. -/
theorem integers_of_rowsFault?
    {width index : Nat}
    {rows : List (List String)}
    {cause : CodecFault}
    (found : rowsFault? width index (rows.map (List.map Datum.text)) = some cause) :
    cause.integers = [] := by
  induction rows generalizing index with
  | nil => cases found
  | cons row others inductionHypothesis =>
      rw [List.map_cons, rowsFault?, Option.or_eq_some_iff] at found
      rcases found with ofRow | ⟨-, behind⟩
      · unfold rowFault? at ofRow
        split at ofRow
        · cases ofRow; rfl
        · split at ofRow
          · cases ofRow; rfl
          · split at ofRow
            · cases ofRow; rfl
            · obtain ⟨cell, isCell, rfl⟩ := Option.map_eq_some_iff.mp ofRow
              obtain ⟨text, -, rfl⟩ := List.mem_map.mp (List.mem_of_find?_eq_some isCell)
              rfl
      · exact inductionHypothesis behind

/-- Each of the rows that fit has a cell, no more cells than the width and no empty one. -/
theorem RowsFit.of_mem
    {width : Nat}
    {rows : List (List String)}
    {row : List String}
    (fit : RowsFit width rows)
    (member : row ∈ rows) :
    row ≠ [] ∧ row.length ≤ width ∧ "" ∉ row := by
  induction rows with
  | nil => cases member
  | cons first others inductionHypothesis =>
      rcases List.mem_cons.mp member with rfl | behind
      · exact ⟨fit.1.1, fit.1.2.1, fit.1.2.2.2⟩
      · exact inductionHypothesis fit.2 behind

/-- Each row has at least one cell and at most as many as the width, and exactly as many unless
it is the last. -/
theorem RowsFit.length_row
    {width index : Nat}
    {rows : List (List String)}
    {row : List String}
    (fit : RowsFit width rows)
    (inRows : rows[index]? = some row) :
    0 < row.length ∧ row.length ≤ width ∧ (index + 1 < rows.length → row.length = width) := by
  induction rows generalizing index with
  | nil => cases inRows
  | cons first others inductionHypothesis =>
      obtain ⟨⟨nonempty, short, equal, -⟩, behind⟩ := fit
      cases index with
      | zero =>
          cases inRows
          refine ⟨List.length_pos_iff.mpr nonempty, short, fun further => equal ?_⟩
          cases others with
          | nil => exact absurd further (Nat.lt_irrefl 1)
          | cons => rfl
      | succ index =>
          obtain ⟨filled, within, whole⟩ := inductionHypothesis behind inRows
          exact ⟨filled, within, fun further => whole (Nat.lt_of_succ_lt_succ further)⟩

theorem map_cellText_texts (cells : List String) :
    (cells.map Datum.text).map cellText = cells := by
  rw [List.map_map]
  exact List.map_id _

theorem map_cellText_rows (rows : List (List String)) :
    (rows.map (List.map Datum.text)).map (List.map cellText) = rows := by
  rw [List.map_map]
  exact List.map_id'' map_cellText_texts rows

namespace Grid

/-- Grids with the same rows and the same width are the same. -/
@[ext]
theorem ext
    {left right : Grid}
    (rows : left.rows = right.rows)
    (width : left.width = right.width) :
    left = right := by
  cases left
  cases right
  cases rows
  cases width
  rfl

/-- Rows have a grid, or a fault of grids, or one whose message is too long to be written. -/
theorem yields_ofRows (rows : List (List Datum)) (width : Int) :
    Yields (fun _ => True) IsReportedCodecFault (ofRows rows width) := by
  unfold ofRows
  split
  next =>
    split
    next cause _ => exact isReportedCodecFault cause
    next => trivial
  next => exact isReportedCodecFault _

theorem yields_ofCells (cells : List Datum) (width : Int) :
    Yields (fun _ => True) IsReportedCodecFault (ofCells cells width) := by
  unfold ofCells
  split
  next => exact yields_ofRows _ width
  next => exact isReportedCodecFault _

/-- The message of a fault of rows of texts can be written. -/
theorem yields_ofRows_texts
    (rows : List (List String))
    {width : Nat}
    (positive : 1 ≤ width) :
    Yields (fun _ => True) IsCodecFault (ofRows (rows.map (List.map Datum.text)) width) := by
  unfold ofRows
  split
  next =>
    split
    next cause found =>
      refine ⟨cause, Fault.reported_of_writable fun value member => ?_⟩
      rw [show (Fault.codec cause).integers = [] from integers_of_rowsFault? found] at member
      cases member
    next => trivial
  next narrow => exact absurd (Int.ofNat_le.mpr positive) narrow

/-- A grid has the texts of the cells that it was made of. -/
theorem rows_eq_of_ofRows
    {width : Int}
    {rows : List (List Datum)}
    {grid : Grid}
    (made : ofRows rows width = .ok grid) :
    grid.rows = rows.map (List.map cellText) := by
  unfold ofRows at made
  split at made
  next =>
    split at made
    next => cases made
    next =>
      cases made
      rfl
  next => cases made

theorem rows_of_ofRows
    {width : Int}
    {rows : List (List String)}
    {grid : Grid}
    (made : ofRows (rows.map (List.map Datum.text)) width = .ok grid) :
    grid.rows = rows :=
  (rows_eq_of_ofRows made).trans (map_cellText_rows rows)

/-- Rows in a layout are the rows of a grid. -/
theorem ofRows_of_layout
    {width : Nat}
    {rows : List (List String)}
    (layout : Layout width rows) :
    ofRows (rows.map (List.map Datum.text)) width = .ok ⟨rows, width, layout⟩ := by
  have same := map_cellText_rows rows
  have faultless : rowsFault? (width : Int).toNat 0 (rows.map (List.map Datum.text)) = none :=
    rowsFault?_of_rowsFit 0 (same.symm ▸ layout.2)
  have positive : 1 ≤ (width : Int) := Int.ofNat_le.mpr layout.1
  unfold ofRows
  rw [dif_pos positive]
  split
  next cause found =>
    rw [faultless] at found
    cases found
  next => exact congrArg Except.ok (Grid.ext same rfl)

theorem flatten_pieces
    {Cell : Type}
    (length : Nat)
    (cells : List Cell) :
    (pieces length cells).flatten = cells := by
  induction cells using pieces.induct length with
  | case1 => rw [pieces]; rfl
  | case2 cell others inductionHypothesis =>
      rw [pieces, List.flatten_cons, inductionHypothesis, List.cons_append,
        List.take_append_drop]

theorem isEmpty_pieces
    {Cell : Type}
    (length : Nat)
    (cells : List Cell) :
    (pieces length cells).isEmpty = cells.isEmpty := by
  cases cells with
  | nil => rw [pieces]; rfl
  | cons => rw [pieces]; rfl

theorem pieces_map
    {Cell Image : Type}
    (function : Cell → Image)
    (length : Nat)
    (cells : List Cell) :
    pieces length (cells.map function) = (pieces length cells).map (List.map function) := by
  induction cells using pieces.induct length with
  | case1 => rw [List.map_nil, pieces, pieces]; rfl
  | case2 cell others inductionHypothesis =>
      rw [List.map_cons, pieces, pieces, List.map_cons, ← List.map_drop, inductionHypothesis,
        List.map_cons, List.map_take]

/-- Pieces fit as rows: a piece is as long as the width unless nothing is left behind it. -/
theorem rowsFit_pieces
    {width : Nat}
    (wide : 0 < width)
    {cells : List String}
    (filled : "" ∉ cells) :
    RowsFit width (pieces width cells) := by
  induction cells using pieces.induct width with
  | case1 => rw [pieces]; trivial
  | case2 cell others inductionHypothesis =>
      have behind : "" ∉ others.drop (width - 1) :=
        fun member => filled (List.mem_cons_of_mem _ (List.mem_of_mem_drop member))
      rw [pieces]
      refine ⟨⟨List.cons_ne_nil _ _, ?_, fun left => ?_, fun member => ?_⟩,
        inductionHypothesis behind⟩
      · rw [List.length_cons, List.length_take]
        omega
      · rw [isEmpty_pieces, List.isEmpty_eq_false_iff_exists_mem] at left
        obtain ⟨next, member⟩ := left
        have further := List.length_pos_of_mem member
        rw [List.length_drop] at further
        rw [List.length_cons, List.length_take]
        omega
      · rcases List.mem_cons.mp member with first | taken
        · exact filled (first ▸ List.mem_cons_self)
        · exact filled (List.mem_cons_of_mem _ (List.mem_of_mem_take taken))

/-- Cells that are not empty have a grid of every width. -/
theorem exists_ofCells
    {width : Nat}
    (wide : 0 < width)
    {cells : List String}
    (filled : "" ∉ cells) :
    ∃ grid : Grid, ofCells (cells.map Datum.text) width = .ok grid := by
  have positive : 1 ≤ (width : Int) := Int.ofNat_le.mpr wide
  have made := ofRows_of_layout ⟨wide, rowsFit_pieces wide filled⟩
  unfold ofCells
  rw [if_pos positive, Int.toNat_natCast, pieces_map]
  exact ⟨_, made⟩

/-- A grid is as wide as it was wanted. -/
theorem width_of_ofRows
    {width : Nat}
    {rows : List (List Datum)}
    {grid : Grid}
    (made : ofRows rows width = .ok grid) :
    grid.width = width := by
  unfold ofRows at made
  split at made
  next =>
    split at made
    next => cases made
    next =>
      cases made
      exact Int.toNat_natCast width
  next => cases made

theorem width_of_ofCells
    {width : Nat}
    {cells : List Datum}
    {grid : Grid}
    (made : ofCells cells width = .ok grid) :
    grid.width = width := by
  unfold ofCells at made
  split at made
  next => exact width_of_ofRows made
  next => cases made

/-- A grid has the cells that it was made of. -/
theorem cells_of_ofCells
    {width : Int}
    {cells : List String}
    {grid : Grid}
    (made : ofCells (cells.map Datum.text) width = .ok grid) :
    grid.cells = cells := by
  unfold ofCells at made
  split at made
  next =>
    rw [pieces_map] at made
    rw [Grid.cells, rows_of_ofRows made, flatten_pieces]
  next => cases made

end Grid

end FormulaGrid
