import FormulaGrid.Grid.Text
import FormulaGrid.Proofs.Grid
import FormulaGrid.Proofs.Text.Blank
import Mathlib.Data.List.Basic

/-!
Contract: grids are read back from their text.

Owns:
- both text forms part the cells of a row with spaces alone (`exists_toText_eq`);
- the rows of a grid without blanks are those of its text (`rowsOfText_toText`), also if
  the text ends its last line (`rowsOfText_append_newline`);
- the width that the first row sets (`Layout.widthOf`), and when it is that of the grid
  (`widthOf_eq_iff`);
- which grids are read back as they are (`ofText_toText`).

The text holds the rows of a grid, but not its width: this is lost if the only row is
shorter, or if there is none.
-/

namespace FormulaGrid

open Text

/-- No cell of the grid has a blank in it. -/
def Grid.HasNoBlank (grid : Grid) : Prop :=
  ∀ cell ∈ grid.cells, Text.HasNoBlank cell.toList

/-- The cells that a text writes have no blanks. -/
theorem hasNoBlank_of_mem_rowsOfText
    {text cell : String}
    {row : List String}
    (inText : row ∈ rowsOfText text)
    (inRow : cell ∈ row) :
    Text.HasNoBlank cell.toList := by
  unfold rowsOfText at inText
  obtain ⟨words, inWords, kept⟩ := List.mem_filterMap.mp inText
  obtain ⟨line, -, rfl⟩ := List.mem_map.mp inWords
  split at kept
  next => cases kept
  next =>
    cases kept
    obtain ⟨word, member, rfl⟩ := List.mem_map.mp inRow
    rw [String.toList_ofList]
    exact (of_mem_words member).2

/-- A last line that is ended writes the same rows. -/
theorem rowsOfText_append_newline (text : String) :
    rowsOfText (text ++ "\n") = rowsOfText text := by
  have ended : (text ++ "\n").toList = text.toList ++ ['\n'] := String.toList_append
  have parted : lines (text.toList ++ ['\n']) = lines text.toList ++ [[]] :=
    lines_append_break rfl text.toList []
  unfold rowsOfText
  rw [ended, parted, List.map_append, List.filterMap_append]
  simp [words]

/-- A line of padded cells ends with a visible character. -/
theorem exists_last_visible
    (separator : String)
    (column : Nat)
    {row : List String}
    (nonempty : row ≠ [])
    (filled : "" ∉ row)
    (visible : ∀ cell ∈ row, Text.HasNoBlank cell.toList) :
    ∃ (front : List Char) (last : Char),
      (separator.intercalate (row.map (padLeft column))).toList = front ++ [last] ∧
        isBlank last = false := by
  induction row with
  | nil => exact absurd rfl nonempty
  | cons cell others inductionHypothesis =>
      obtain ⟨first, behind⟩ := List.forall_mem_cons.mp visible
      cases others with
      | nil =>
          have written : cell.toList ≠ [] := by
            simpa using (List.ne_of_not_mem_cons filled).symm
          refine ⟨List.replicate (column - cell.length) ' ' ++ cell.toList.dropLast,
            cell.toList.getLast written, ?_, first _ (List.getLast_mem written)⟩
          simp [padLeft, List.dropLast_concat_getLast]
      | cons next later =>
          obtain ⟨front, last, same, last_visible⟩ :=
            inductionHypothesis (List.cons_ne_nil _ _) (List.not_mem_of_not_mem_cons filled) behind
          rw [List.map_cons] at same
          refine ⟨(padLeft column cell).toList ++ separator.toList ++ front, last, ?_,
            last_visible⟩
          rw [List.map_cons, List.map_cons, String.intercalate_cons_cons, String.toList_append,
            String.toList_append, same, List.append_assoc, List.append_assoc, List.append_assoc]

section Spaced

variable {separator : String}
  (apart : separator.toList ≠ [])
  (spaces : ∀ character ∈ separator.toList, character = ' ')

include spaces

/-- Spaces between cells without blanks do not break their line. -/
theorem hasNoBreak_intercalate
    (column : Nat)
    {row : List String}
    (visible : ∀ cell ∈ row, Text.HasNoBlank cell.toList) :
    HasNoBreak (separator.intercalate (row.map (padLeft column))).toList := by
  apply forall_mem_intercalate
  · intro character inSeparator
    rw [spaces character inSeparator]
    rfl
  · intro padded inRow character inPadded
    obtain ⟨cell, inCells, rfl⟩ := List.mem_map.mp inRow
    unfold padLeft at inPadded
    rw [String.toList_ofList] at inPadded
    rcases List.mem_append.mp inPadded with padding | inCell
    · rw [List.eq_of_mem_replicate padding]
      rfl
    · exact isLineBreak_eq_false (visible cell inCells character inCell)

include apart

/-- Rows of padded cells, a line for each, are the rows of their text. -/
theorem rowsOfText_intercalate
    (column : Nat)
    {rows : List (List String)}
    (fit : ∀ row ∈ rows, row ≠ [] ∧ "" ∉ row)
    (visible : ∀ row ∈ rows, ∀ cell ∈ row, Text.HasNoBlank cell.toList) :
    rowsOfText ("\n".intercalate
      (rows.map fun row => separator.intercalate (row.map (padLeft column)))) = rows := by
  by_cases empty : rows = []
  · rw [empty]
    rfl
  have blank : ∀ character ∈ separator.toList, isBlank character = true := by
    intro character member
    rw [spaces character member]
    rfl
  have read : (lines ("\n".intercalate (rows.map fun row =>
      separator.intercalate (row.map (padLeft column)))).toList).map words =
        rows.map (List.map String.toList) := by
    have whole : ∀ line ∈ rows.map fun row => separator.intercalate (row.map (padLeft column)),
        HasNoBreak line.toList := by
      intro line member
      obtain ⟨row, inRows, rfl⟩ := List.mem_map.mp member
      exact hasNoBreak_intercalate spaces column (visible row inRows)
    rw [lines_intercalate (by simpa using empty) whole, List.map_map, List.map_map]
    apply List.map_congr_left
    intro row member
    exact words_intercalate apart blank column (fit row member).2 (visible row member)
  have kept : ∀ row ∈ rows, (fun words : List (List Char) =>
      if words.isEmpty then none else some (words.map String.ofList))
        (row.map String.toList) = some row := by
    intro row member
    have nonempty : (row.map String.toList).isEmpty = false := by
      simpa using (fit row member).1
    simp only [nonempty, Bool.false_eq_true, if_false, List.map_map]
    exact congrArg some (List.map_id'' (fun _ => String.ofList_toList) row)
  unfold rowsOfText
  rw [read, List.filterMap_map]
  exact (List.filterMap_congr kept).trans List.filterMap_some

end Spaced

namespace Grid

/-- So nothing is trimmed from a row of a grid without blanks. -/
theorem alignedRow_eq
    (column : Nat)
    {row : List String}
    (nonempty : row ≠ [])
    (filled : "" ∉ row)
    (visible : ∀ cell ∈ row, Text.HasNoBlank cell.toList) :
    alignedRow column row = "  ".intercalate (row.map (padLeft column)) := by
  obtain ⟨front, last, same, last_visible⟩ :=
    exists_last_visible "  " column nonempty filled visible
  unfold alignedRow
  dsimp only
  rw [same, trimRight_concat front last_visible, ← same, String.ofList_toList]

variable {grid : Grid}

/-- Both text forms pad the cells of a row to some width, none in the compact form, and
part them with spaces. -/
theorem exists_toText_eq (visible : grid.HasNoBlank) (aligned : Bool) :
    ∃ (separator : String) (column : Nat),
      separator.toList ≠ [] ∧
        (∀ character ∈ separator.toList, character = ' ') ∧
        grid.toText aligned = "\n".intercalate
          (grid.rows.map fun row => separator.intercalate (row.map (padLeft column))) := by
  cases aligned with
  | false =>
      refine ⟨" ", 0, by simp, by simp, ?_⟩
      have unpadded : ∀ row : List String, row.map (padLeft 0) = row :=
        fun row => List.map_id'' padLeft_zero row
      simp only [unpadded]
      rfl
  | true =>
      refine ⟨"  ", grid.columnWidth, by simp, by simp, ?_⟩
      have rows : grid.rows.map (alignedRow grid.columnWidth) =
          grid.rows.map fun row => "  ".intercalate (row.map (padLeft grid.columnWidth)) := by
        apply List.map_congr_left
        intro row member
        obtain ⟨nonempty, -, filled⟩ := grid.layout.2.of_mem member
        exact alignedRow_eq _ nonempty filled fun cell inRow =>
          visible cell (List.mem_flatten.mpr ⟨row, member, inRow⟩)
      unfold toText
      dsimp only
      rw [if_pos rfl, rows]

/-- The rows of a grid without blanks are those of its text. -/
theorem rowsOfText_toText (visible : grid.HasNoBlank) (aligned : Bool) :
    rowsOfText (grid.toText aligned) = grid.rows := by
  obtain ⟨separator, column, apart, spaces, same⟩ := exists_toText_eq visible aligned
  rw [same]
  apply rowsOfText_intercalate apart spaces column
  · intro row member
    exact ⟨(grid.layout.2.of_mem member).1, (grid.layout.2.of_mem member).2.2⟩
  · intro row member cell inRow
    exact visible cell (List.mem_flatten.mpr ⟨row, member, inRow⟩)

end Grid

/-! ## The width -/

section

variable {width : Nat} {rows : List (List String)}

/-- A row that has a cell sets the width to its length. -/
theorem widthOf_cons
    {row : List String}
    (nonempty : row ≠ [])
    (others : List (List String)) :
    Grid.widthOf ((row :: others).map (List.map Datum.text)) = row.length := by
  obtain ⟨cell, rest, rfl⟩ := List.exists_cons_of_ne_nil nonempty
  exact List.length_map _

/-- The width that the first row sets admits the rows of every layout. -/
theorem Layout.widthOf (layout : Layout width rows) :
    Layout (Grid.widthOf (rows.map (List.map Datum.text))) rows := by
  obtain ⟨wide, fit⟩ := layout
  cases rows with
  | nil => exact ⟨by decide, trivial⟩
  | cons row others =>
      obtain ⟨⟨nonempty, short, equal, filled⟩, behind⟩ := fit
      rw [widthOf_cons nonempty others]
      cases others with
      | nil =>
          have positive := List.length_pos_of_ne_nil nonempty
          exact ⟨positive, ⟨nonempty, Nat.le_refl _, fun _ => rfl, filled⟩, trivial⟩
      | cons next later =>
          rw [equal rfl]
          exact ⟨wide, ⟨nonempty, short, equal, filled⟩, behind⟩

/-- It is the width of the layout unless the only row is shorter, or there is none. -/
theorem widthOf_eq_iff (layout : Layout width rows) :
    Grid.widthOf (rows.map (List.map Datum.text)) = width ↔
      2 ≤ rows.length ∨ (∃ row, rows = [row] ∧ row.length = width) ∨
        (rows = [] ∧ width = 8) := by
  cases rows with
  | nil =>
      have none : Grid.widthOf (([] : List (List String)).map (List.map Datum.text)) = 8 := rfl
      rw [none]
      simp [eq_comm]
  | cons row others =>
      obtain ⟨⟨nonempty, -, equal, -⟩, -⟩ := layout.2
      rw [widthOf_cons nonempty others]
      cases others with
      | nil => simp
      | cons next later => exact iff_of_true (equal rfl) (.inl (by simp))

end

namespace Grid

/-- The text of a grid without blanks is read as a grid with the same rows. -/
theorem ofText_toText_of_hasNoBlank
    {grid : Grid}
    (visible : grid.HasNoBlank)
    (aligned : Bool) :
    ofText (grid.toText aligned) =
      .ok ⟨grid.rows, widthOf (grid.rows.map (List.map Datum.text)), grid.layout.widthOf⟩ := by
  unfold ofText
  rw [rowsOfText_toText visible aligned]
  exact ofRows_of_layout grid.layout.widthOf

theorem ofText_append_newline (text : String) : ofText (text ++ "\n") = ofText text := by
  unfold ofText
  rw [rowsOfText_append_newline]

theorem yields_ofText (text : String) :
    Yields (fun _ => True) IsCodecFault (ofText text) := by
  have positive : 1 ≤ widthOf ((rowsOfText text).map (List.map Datum.text)) := by
    unfold widthOf
    split
    next => decide
    next => decide
    next first others nonempty _ => exact List.length_pos_iff.mpr nonempty
  exact yields_ofRows_texts _ positive

/-- Whatever grid is read from a text has no blanks. -/
theorem hasNoBlank_of_ofText
    {text : String}
    {grid : Grid}
    (read : ofText text = .ok grid) :
    grid.HasNoBlank := by
  intro cell member
  obtain ⟨row, inRows, inRow⟩ := List.mem_flatten.mp member
  rw [rows_of_ofRows read] at inRows
  exact hasNoBlank_of_mem_rowsOfText inRows inRow

/-- The text of a grid, aligned or not, is read back. If no cell has a blank in it, a grid
with the same rows is read. It is the same grid just if no cell has a blank in it and there
are two rows, or one as long as the grid is wide, or none in a grid of width eight. -/
theorem ofText_toText (grid : Grid) (aligned : Bool) :
    (grid.HasNoBlank →
      ∃ read : Grid, ofText (grid.toText aligned) = .ok read ∧ read.rows = grid.rows) ∧
    (ofText (grid.toText aligned) = .ok grid ↔
      grid.HasNoBlank ∧
        (2 ≤ grid.rows.length ∨ (∃ row, grid.rows = [row] ∧ row.length = grid.width) ∨
          (grid.rows = [] ∧ grid.width = 8))) := by
  refine ⟨fun visible => ⟨_, ofText_toText_of_hasNoBlank visible aligned, rfl⟩, ?_, ?_⟩
  · intro same
    have visible := hasNoBlank_of_ofText same
    rw [ofText_toText_of_hasNoBlank visible aligned] at same
    have width := congrArg Grid.width (Except.ok.inj same)
    exact ⟨visible, (widthOf_eq_iff grid.layout).mp width⟩
  · rintro ⟨visible, shape⟩
    have width := (widthOf_eq_iff grid.layout).mpr shape
    rw [ofText_toText_of_hasNoBlank visible aligned]
    exact congrArg Except.ok (Grid.ext rfl width)

/-- Two rows, of which the last one is shorter. -/
def twoRows : Grid :=
  ⟨[["√4/2", "0"], ["0!"]], 2, by decide, by decide, by decide, trivial⟩

/-- The shorter row alone. -/
def oneRow : Grid :=
  ⟨[["0!"]], 2, by decide, by decide, trivial⟩

/-- Both texts of the two rows are read back. Those of the one row are read as a grid with
this row, but not of this width. -/
theorem ofText_toText_twoRows :
    twoRows.HasNoBlank ∧
      oneRow.HasNoBlank ∧
      ∀ aligned : Bool,
        ofText (twoRows.toText aligned) = .ok twoRows ∧
          (∃ read : Grid, ofText (oneRow.toText aligned) = .ok read ∧ read.rows = oneRow.rows) ∧
          ofText (oneRow.toText aligned) ≠ .ok oneRow := by
  have visible : ∀ cell ∈ ["√4/2", "0", "0!"], Text.HasNoBlank cell.toList := by
    have tested : ∀ cell ∈ ["√4/2", "0", "0!"], cell.toList.any isBlank = false := by
      decide
    exact fun cell member => hasNoBlank_iff.mpr (tested cell member)
  have visibleTwo : twoRows.HasNoBlank := visible
  have visibleOne : oneRow.HasNoBlank :=
    fun cell member => visible cell (List.mem_cons_of_mem _ (List.mem_cons_of_mem _ member))
  refine ⟨visibleTwo, visibleOne, fun aligned => ⟨?_, ?_, ?_⟩⟩
  · exact (ofText_toText twoRows aligned).2.mpr ⟨visibleTwo, .inl (by decide)⟩
  · exact (ofText_toText oneRow aligned).1 visibleOne
  · intro same
    obtain ⟨-, shape⟩ := (ofText_toText oneRow aligned).2.mp same
    simp [oneRow] at shape

end Grid

end FormulaGrid
