import FormulaGrid.Proofs.Message.Encoding

/-!
Contract: what one replaced cell does to the grid of a text.

Owns:
- the rows of a grid with another text in one place (`Grid.replaceCell`), and where it
  stands among their cells (`flatten_replaceCell`);
- a replacement that stands for no bit is reported with its place, and any other one
  changes at most the bit of its place and the character of this bit
  (`decode_replaceCell`).

The tolerance is that of the encoding, under which all other cells stand for their bits.
So the replacement is the only cell that can fail, wherever it stands.
-/

namespace FormulaGrid

/-- The rows of a grid as texts, with another one in one place. -/
def Grid.replaceCell
    (grid : Grid)
    (row column : Nat)
    (replacement : String) :
    List (List Cell) :=
  (grid.rows.modify row fun cells => cells.set column replacement).map (List.map Cell.text)

/-- In front of a row that fits stand whole rows, whatever the row is changed to. -/
theorem RowsFit.exists_around
    {width row : Nat}
    {rows : List (List String)}
    {cells : List String}
    (fit : RowsFit width rows)
    (inRows : rows[row]? = some cells) :
    ∃ front behind : List String,
      front.length = row * width ∧
        ∀ change : List String → List String,
          (rows.modify row change).flatten = front ++ (change cells ++ behind) := by
  induction rows generalizing row with
  | nil => cases inRows
  | cons first others inductionHypothesis =>
      obtain ⟨⟨-, -, equal, -⟩, fitBehind⟩ := fit
      cases row with
      | zero =>
          cases inRows
          exact ⟨[], others.flatten, by simp, fun change => rfl⟩
      | succ row =>
          -- A row with others behind it is not the last, so it is as long as the width.
          have further : others[row]? = some cells := inRows
          have whole : first.length = width := by
            apply equal
            rw [List.isEmpty_eq_false_iff_exists_mem]
            exact ⟨cells, List.mem_of_getElem? further⟩
          obtain ⟨front, behind, length, parts⟩ := inductionHypothesis fitBehind further
          refine ⟨first ++ front, behind, ?_, fun change => ?_⟩
          · rw [List.length_append, whole, length, Nat.succ_mul, Nat.add_comm]
          · rw [List.modify_succ_cons, List.flatten_cons, parts, List.append_assoc]

section

variable {grid : Grid} {row column : Nat}

/-- A replaced cell is replaced in its place among all cells. -/
theorem flatten_replaceCell
    {cells : List String}
    (inRows : grid.rows[row]? = some cells)
    (inRow : column < cells.length)
    (replacement : String) :
    row * grid.width + column < grid.cells.length ∧
      (grid.replaceCell row column replacement).flatten =
        (grid.cells.set (row * grid.width + column) replacement).map Cell.text := by
  obtain ⟨front, behind, length, parts⟩ := grid.layout.2.exists_around inRows
  have unchanged : grid.cells = front ++ (cells ++ behind) := by
    have same := parts id
    rwa [List.modify_id] at same
  constructor
  · rw [unchanged, List.length_append, List.length_append, length]
    exact Nat.add_lt_add_left (Nat.lt_add_right _ inRow) _
  · unfold Grid.replaceCell
    rw [← List.map_flatten, parts, unchanged, ← length,
      List.set_append_right _ _ (Nat.le_add_right _ _), Nat.add_sub_cancel_left,
      List.set_append_left _ _ inRow]

variable {replacement : String}

/-- In every other place stands a cell of the grid. -/
theorem of_isAt_replaceCell
    {otherRow otherColumn : Nat}
    {cell : Cell}
    (isAt : IsAt (grid.replaceCell row column replacement) otherRow otherColumn cell) :
    (otherRow = row ∧ otherColumn = column ∧ cell = .text replacement) ∨
      cell.content ∈ grid.cells := by
  obtain ⟨placed, inRows, inRow⟩ := isAt
  unfold Grid.replaceCell at inRows
  rw [List.getElem?_map, List.getElem?_modify, Option.map_eq_some_iff] at inRows
  obtain ⟨edited, found, rfl⟩ := inRows
  rw [Option.map_eq_map, Option.map_eq_some_iff] at found
  obtain ⟨cells, original, rfl⟩ := found
  rw [List.getElem?_map, Option.map_eq_some_iff] at inRow
  obtain ⟨content, inCells, rfl⟩ := inRow
  have member : cells ∈ grid.rows := List.mem_of_getElem? original
  by_cases sameRow : row = otherRow
  · rw [if_pos sameRow] at inCells
    by_cases sameColumn : column = otherColumn
    · obtain ⟨bound, same⟩ := List.getElem?_eq_some_iff.mp inCells
      subst sameColumn
      rw [List.getElem_set_self] at same
      exact .inl ⟨sameRow.symm, rfl, congrArg Cell.text same.symm⟩
    · rw [List.getElem?_set_ne sameColumn] at inCells
      exact .inr (List.mem_flatten.mpr ⟨cells, member, List.mem_of_getElem? inCells⟩)
  · rw [if_neg sameRow] at inCells
    exact .inr (List.mem_flatten.mpr ⟨cells, member, List.mem_of_getElem? inCells⟩)

/-- With the cell, its bit is replaced. -/
theorem bitsOfRows_replaceCell
    {cells : List String}
    (inRows : grid.rows[row]? = some cells)
    (inRow : column < cells.length) :
    bitsOfRows (grid.replaceCell row column replacement) =
      (grid.cells.map bitOfText).set (row * grid.width + column) (bitOfText replacement) := by
  unfold bitsOfRows
  rw [(flatten_replaceCell inRows inRow replacement).2, List.map_map, ← List.map_set]
  rfl

variable {functions : Elementary}
  {text : String}
  {options : EncodingOptions}
  (encodes : Encodes functions text options grid)
  {cells : List String}
  (inRows : grid.rows[row]? = some cells)
  (inRow : column < cells.length)

include encodes inRows inRow

/-- The number of cells stays a multiple of eight. -/
theorem Encodes.even_replaceCell :
    (grid.replaceCell row column replacement).flatten.length % bitsPerCharacter = 0 := by
  rw [(flatten_replaceCell inRows inRow replacement).2, List.length_map, List.length_set,
    encodes.length_cells, Nat.mul_mod_right]

/-- A replacement that stands for no bit is the only cell that fails. -/
theorem Encodes.decode_of_not_stands
    (typed : Yields (fun _ => True) IsFormulaFault (evaluate functions replacement))
    (notStands : ¬ Stands functions options.tolerance replacement) :
    ∃ mismatch : Mismatch,
      decode functions (datumOfRows (grid.replaceCell row column replacement))
          options.tolerance =
        .error (.codec (.ambiguousCell row column replacement mismatch)) := by
  obtain ⟨within, flat⟩ := flatten_replaceCell inRows inRow replacement
  have notAll : ¬ ∀ cell ∈ (grid.replaceCell row column replacement).flatten,
      Stands functions options.tolerance cell.content := by
    intro all
    apply notStands
    apply all (.text replacement)
    rw [flat]
    exact List.mem_map_of_mem (List.mem_set within _)
  obtain ⟨otherRow, otherColumn, cell, ⟨isAt, fails, -⟩, -, decoded⟩ :=
    exists_isFirstFailing encodes.usable (encodes.even_replaceCell inRows inRow) notAll
  -- The first failing cell is the replacement, since no other cell fails.
  rcases of_isAt_replaceCell isAt with ⟨rfl, rfl, rfl⟩ | original
  · obtain ⟨mismatch, reported⟩ :=
      @bitOfCell_of_not_stands functions options.tolerance ⟨_, _, replacement⟩
        encodes.usable (fun _ => typed) notStands
    exact ⟨mismatch, decoded _ reported⟩
  · exact absurd (encodes.stand _ original) fails

/-- Any other replacement leaves a grid of which all cells stand for bits. -/
theorem Encodes.decode_of_stands
    (stands : Stands functions options.tolerance replacement) :
    ∃ report : DecodeReport,
      decode functions (datumOfRows (grid.replaceCell row column replacement))
          options.tolerance = .ok report ∧
        bitsOfText report.text = .ok report.bits ∧
        report.bits.toList =
          (octetsOf text.toList).set (row * options.width + column) (bitOfText replacement) := by
  have all : ∀ cell ∈ (grid.replaceCell row column replacement).flatten,
      Stands functions options.tolerance cell.content := by
    intro cell member
    rw [(flatten_replaceCell inRows inRow replacement).2] at member
    obtain ⟨content, inCells, rfl⟩ := List.mem_map.mp member
    rcases List.mem_or_eq_of_mem_set inCells with kept | rfl
    · exact encodes.stand content kept
    · exact stands
  obtain ⟨found, decoded, written, -⟩ := FormulaGrid.decode_of_stands encodes.usable
    (encodes.even_replaceCell inRows inRow) all
  refine ⟨_, decoded, written, ?_⟩
  rw [String.toList_ofList, bitsOfRows_replaceCell inRows inRow, encodes.bits, encodes.width]

end

/-- A text is encoded, and one cell of its grid is replaced by a text that has a value or a
fault of the formula. If the replacement stands for no bit, decoding reports it with its
place. If it is the zero cell or agrees with one, decoding succeeds, and of the bits of the
text at most the one in the place of the cell is changed, to zero for the zero cell and to
one otherwise; then the character of this bit changes, and no other. -/
theorem decode_replaceCell
    (functions : Elementary)
    (text : String)
    (options : EncodingOptions)
    (grid : Grid)
    (encoded : encode functions text options = .ok grid)
    (row column : Nat)
    (cells : List String)
    (inRows : grid.rows[row]? = some cells)
    (inRow : column < cells.length)
    (replacement : String)
    (typed : Yields (fun _ => True) IsFormulaFault (evaluate functions replacement)) :
    (¬ Stands functions options.tolerance replacement →
      ∃ mismatch : Mismatch,
        decode functions (datumOfRows (grid.replaceCell row column replacement))
            options.tolerance =
          .error (.codec (.ambiguousCell row column replacement mismatch))) ∧
    (Stands functions options.tolerance replacement →
      ∃ (bits : String) (report : DecodeReport),
        bitsOfText text = .ok bits ∧
          decode functions (datumOfRows (grid.replaceCell row column replacement))
              options.tolerance = .ok report ∧
          bitsOfText report.text = .ok report.bits ∧
          row * options.width + column < bits.toList.length ∧
          report.bits.toList =
            bits.toList.set (row * options.width + column) (bitOfText replacement) ∧
          report.text.length = text.length ∧
          ∀ index : Nat,
            report.text.toList[index]? ≠ text.toList[index]? ↔
              index = (row * options.width + column) / bitsPerCharacter ∧
                bits.toList[row * options.width + column]? ≠
                  some (bitOfText replacement)) := by
  have encodes : Encodes functions text options grid :=
    (yields_encode functions text options).of_ok encoded
  refine ⟨encodes.decode_of_not_stands inRows inRow typed, fun stands => ?_⟩
  obtain ⟨report, decoded, written, changed⟩ := encodes.decode_of_stands inRows inRow stands
  have within : row * options.width + column < (octetsOf text.toList).length := by
    have place := (flatten_replaceCell inRows inRow replacement).1
    rwa [encodes.width, ← List.length_map, encodes.bits] at place
  obtain ⟨narrow, same⟩ := narrow_of_bitsOfText written
  have octets : octetsOf report.text.toList =
      (octetsOf text.toList).set (row * options.width + column) (bitOfText replacement) := by
    rw [← changed, same, String.toList_ofList]
  have length : report.text.length = text.length := by
    have lengths := congrArg List.length octets
    rw [List.length_set, length_octetsOf, length_octetsOf] at lengths
    exact Nat.eq_of_mul_eq_mul_left (by decide) lengths
  refine ⟨_, report, bitsOfText_narrow encodes.narrow, decoded, written, ?_⟩
  rw [String.toList_ofList]
  exact ⟨within, changed, length, getElem?_ne_iff_of_set encodes.narrow narrow within octets⟩

/-- A grid with cells has a first row with cells. -/
theorem exists_first_row {grid : Grid} (filled : 0 < grid.cells.length) :
    ∃ cells : List String, grid.rows[0]? = some cells ∧ 0 < cells.length := by
  cases rows : grid.rows with
  | nil => simp [Grid.cells, rows] at filled
  | cons cells others =>
      have inGrid : cells ∈ grid.rows := rows ▸ List.mem_cons_self
      exact ⟨cells, rfl, List.length_pos_of_ne_nil (grid.layout.2.of_mem inGrid).1⟩

theorem not_stands_two : ¬ Stands sampleLibrary defaultTolerance "2" := by
  have refused : verify sampleLibrary "2" (.int 1) defaultTolerance = .ok false :=
    eq_ok_of_toOption (by decide +kernel)
  rintro (zero | agrees)
  · exact absurd zero (by decide)
  · rw [(verify_iff toFloat?_one).mpr ⟨isTolerance_defaultTolerance, agrees⟩] at refused
    cases refused

theorem stands_one : Stands sampleLibrary defaultTolerance "1" := by
  have verified : verify sampleLibrary "1" (.int 1) defaultTolerance = .ok true :=
    eq_ok_of_toOption (by decide +kernel)
  exact .inr ((verify_iff toFloat?_one).mp verified).2

/-- The first cell of the sample message is the zero cell. A formula for two in its place is
reported, and one for one sets the first bit of the first character. -/
theorem decode_replaceCell_sampleMessage :
    ∃ (options : EncodingOptions) (grid : Grid) (cells : List String),
      encode sampleLibrary sampleMessage options = .ok grid ∧
        grid.rows[0]? = some cells ∧
        0 < cells.length ∧
        Yields (fun _ => True) IsFormulaFault (evaluate sampleLibrary "2") ∧
        (∃ mismatch : Mismatch,
          decode sampleLibrary (datumOfRows (grid.replaceCell 0 0 "2")) options.tolerance =
            .error (.codec (.ambiguousCell 0 0 "2" mismatch))) ∧
        Yields (fun _ => True) IsFormulaFault (evaluate sampleLibrary "1") ∧
        ∃ report : DecodeReport,
          decode sampleLibrary (datumOfRows (grid.replaceCell 0 0 "1")) options.tolerance =
              .ok report ∧
            report.text = "\x80Aÿ" := by
  obtain ⟨options, grid, -, isDefault, made⟩ := exists_encode_sampleMessage
  have encodes : Encodes sampleLibrary sampleMessage options grid :=
    (yields_encode sampleLibrary sampleMessage options).of_ok made
  have count : grid.cells.length = 24 := encodes.length_cells
  obtain ⟨cells, inRows, inRow⟩ := exists_first_row (by rw [count]; decide)
  have typed {text : String} (brief : text.toList.length ≤ longestSuperscript) :
      Yields (fun _ => True) IsFormulaFault (evaluate sampleLibrary text) :=
    (yields_evaluate sampleLibrary_documented (.of_length_le brief)).imp fun _ _ => trivial
  have typedTwo := @typed "2" (by decide)
  have typedOne := @typed "1" (by decide)
  have ambiguous := (decode_replaceCell sampleLibrary sampleMessage options grid made 0 0 cells
    inRows inRow "2" typedTwo).1 (isDefault ▸ not_stands_two)
  obtain ⟨bits, report, original, decoded, written, -, changed, -⟩ :=
    (decode_replaceCell sampleLibrary sampleMessage options grid made 0 0 cells inRows inRow
      "1" typedOne).2 (isDefault ▸ stands_one)
  have same := Except.ok.inj (original.symm.trans bitsOfText_sampleMessage)
  have flipped : report.bits = "100000000100000111111111" := by
    apply String.toList_inj.mp
    rw [changed, same, Nat.zero_mul]
    rfl
  have expected : bitsOfText "\x80Aÿ" = .ok report.bits := by
    rw [flipped]
    rfl
  have read := textOfBits_bitsOfText written
  rw [textOfBits_bitsOfText expected] at read
  exact ⟨options, grid, cells, made, inRows, inRow, typedTwo, ambiguous, typedOne, report, decoded,
    (Except.ok.inj read).symm⟩

end FormulaGrid
