import FormulaGrid.Message.Decoding
import FormulaGrid.Proofs.Agreement
import FormulaGrid.Proofs.Formula.Safety
import FormulaGrid.Proofs.Message.Bits

/-!
Contract: the outcomes of a decoding.

Owns:
- rows of written cells (`Cell`) and the places of their cells in reading order
  (`placesOf`);
- the cells that stand for a bit (`Stands`), and what is made of one that does and of
  one that does not;
- the first cell that stands for none (`IsFirstFailing`);
- decoding reports the bits of the cells, or the first cell that stands for none
  (`decode_outcome`).

Rows may be ragged or empty. A cell is known by the indices of its row and column, and
the cells are read in the lexicographic order of these.
-/

namespace FormulaGrid

/-- A cell as it is written: a text, or an expression with its text. -/
inductive Cell where
  | text (content : String)
  | expression (content : String)

namespace Cell

/-- The text of a cell. -/
def content : Cell → String
  | text content | expression content => content

/-- The cell as a value of unknown shape. -/
def toDatum : Cell → Datum
  | text content => .text content
  | expression content => .expression content

end Cell

/-- Rows of cells as a value of unknown shape. -/
def datumOfRows (rows : List (List Cell)) : Datum :=
  .list (rows.map fun row => .list (row.map Cell.toDatum))

/-- The cell stands in the row and the column. -/
def IsAt (rows : List (List Cell)) (row column : Nat) (cell : Cell) : Prop :=
  ∃ cells : List Cell, rows[row]? = some cells ∧ cells[column]? = some cell

theorem IsAt.mem_flatten
    {rows : List (List Cell)}
    {row column : Nat}
    {cell : Cell}
    (isAt : IsAt rows row column cell) :
    cell ∈ rows.flatten := by
  obtain ⟨cells, inRows, inRow⟩ := isAt
  exact List.mem_flatten.mpr
    ⟨cells, List.mem_of_getElem? inRows, List.mem_of_getElem? inRow⟩

/-! ## Places -/

/-- The first place is read before the second. -/
def PlacedCell.Precedes (left right : PlacedCell) : Prop :=
  left.row < right.row ∨ (left.row = right.row ∧ left.column < right.column)

/-- A row of cells with their places. -/
def placesInRow (index : Nat) (row : List Cell) : List PlacedCell :=
  row.mapIdx fun column cell => ⟨index, column, cell.content⟩

/-- All cells with their places. -/
def placesOf (rows : List (List Cell)) : List PlacedCell :=
  (rows.mapIdx placesInRow).flatten

/-- The places of a row are those that decoding gives, from any column on. -/
theorem placedRow_toDatum (index column : Nat) (row : List Cell) :
    placedRow index column (row.map Cell.toDatum) =
      .ok (row.mapIdx fun offset cell => ⟨index, column + offset, cell.content⟩) := by
  induction row generalizing column with
  | nil => rfl
  | cons cell others inductionHypothesis =>
      have behind := inductionHypothesis (column + 1)
      simp only [Nat.add_right_comm column 1, Nat.add_assoc] at behind
      rw [List.map_cons, List.mapIdx_cons]
      cases cell <;>
        · rw [Cell.toDatum, placedRow, behind]
          rfl

theorem placedRows_toDatum (index : Nat) (rows : List (List Cell)) :
    placedRows index (rows.map fun row => .list (row.map Cell.toDatum)) =
      .ok (rows.mapIdx fun offset row => placesInRow (index + offset) row).flatten := by
  induction rows generalizing index with
  | nil => rfl
  | cons row others inductionHypothesis =>
      have behind := inductionHypothesis (index + 1)
      simp only [Nat.add_right_comm index 1, Nat.add_assoc] at behind
      have front := placedRow_toDatum index 0 row
      simp only [Nat.zero_add] at front
      rw [List.map_cons, List.mapIdx_cons]
      show (placedRow index 0 (row.map Cell.toDatum) >>= _) = _
      rw [front]
      show (placedRows (index + 1) _ >>= _) = _
      rw [behind]
      rfl

/-- The cells of rows are found in their places. -/
theorem placedCells_datumOfRows (rows : List (List Cell)) :
    placedCells (datumOfRows rows) = .ok (placesOf rows) := by
  have placed := placedRows_toDatum 0 rows
  simp only [Nat.zero_add] at placed
  exact placed

theorem texts_placesInRow (index : Nat) (row : List Cell) :
    (placesInRow index row).map PlacedCell.text = row.map Cell.content := by
  refine List.ext_getElem (by simp [placesInRow]) fun column inPlaces inRow => ?_
  simp [placesInRow]

/-- The texts in the places of rows are those of the cells in reading order. -/
theorem texts_placesOf (rows : List (List Cell)) :
    (placesOf rows).map PlacedCell.text = rows.flatten.map Cell.content := by
  unfold placesOf
  rw [List.map_flatten, List.map_flatten]
  congr 1
  refine List.ext_getElem (by simp) fun row inPlaces inRows => ?_
  simp [texts_placesInRow]

/-- What is true of the texts in all places is true of those of all cells. -/
theorem forall_placesOf_iff {rows : List (List Cell)} (property : String → Prop) :
    (∀ place ∈ placesOf rows, property place.text) ↔
      ∀ cell ∈ rows.flatten, property cell.content := by
  rw [← List.forall_mem_map, texts_placesOf, List.forall_mem_map]

theorem length_placesOf (rows : List (List Cell)) :
    (placesOf rows).length = rows.flatten.length := by
  have lengths := congrArg List.length (texts_placesOf rows)
  rwa [List.length_map, List.length_map] at lengths

/-- In a place of rows stands its cell. -/
theorem mem_placesOf {rows : List (List Cell)} {place : PlacedCell} :
    place ∈ placesOf rows ↔
      ∃ cell : Cell, IsAt rows place.row place.column cell ∧ cell.content = place.text := by
  unfold placesOf placesInRow IsAt
  constructor
  · intro member
    obtain ⟨places, inRows, inRow⟩ := List.mem_flatten.mp member
    obtain ⟨row, rowBound, rfl⟩ := List.mem_mapIdx.mp inRows
    obtain ⟨column, columnBound, rfl⟩ := List.mem_mapIdx.mp inRow
    exact ⟨rows[row][column], ⟨rows[row], List.getElem?_eq_getElem rowBound,
      List.getElem?_eq_getElem columnBound⟩, rfl⟩
  · rintro ⟨cell, ⟨cells, inRows, inRow⟩, same⟩
    obtain ⟨rowBound, rfl⟩ := List.getElem?_eq_some_iff.mp inRows
    obtain ⟨columnBound, rfl⟩ := List.getElem?_eq_some_iff.mp inRow
    refine List.mem_flatten.mpr ⟨_, List.mem_mapIdx.mpr ⟨place.row, rowBound, rfl⟩, ?_⟩
    refine List.mem_mapIdx.mpr ⟨place.column, columnBound, ?_⟩
    rw [same]

theorem pairwise_placesOf (rows : List (List Cell)) :
    (placesOf rows).Pairwise PlacedCell.Precedes := by
  unfold placesOf placesInRow
  rw [List.pairwise_flatten]
  constructor
  · intro places inRows
    obtain ⟨row, rowBound, rfl⟩ := List.mem_mapIdx.mp inRows
    rw [List.pairwise_iff_getElem]
    intro left right leftBound rightBound earlier
    rw [List.getElem_mapIdx, List.getElem_mapIdx]
    exact .inr ⟨rfl, earlier⟩
  · rw [List.pairwise_iff_getElem]
    intro left right leftBound rightBound earlier
    rw [List.getElem_mapIdx, List.getElem_mapIdx]
    intro leftPlace inLeft rightPlace inRight
    obtain ⟨leftColumn, -, rfl⟩ := List.mem_mapIdx.mp inLeft
    obtain ⟨rightColumn, -, rfl⟩ := List.mem_mapIdx.mp inRight
    exact .inl earlier

/-! ## Cells -/

/-- The text stands for a bit: it is the zero cell, or it agrees with one. -/
def Stands (functions : Elementary) (tolerance : Number) (text : String) : Prop :=
  text = zeroCell ∨ Agrees functions text 1.0 tolerance

/-- The bit that a text stands for. -/
def bitOfText (text : String) : Char :=
  if text = zeroCell then '0' else '1'

theorem isBit_bitOfText (text : String) : bitOfText text = '0' ∨ bitOfText text = '1' := by
  unfold bitOfText
  split
  · exact .inl rfl
  · exact .inr rfl

theorem toFloat?_one : (Number.int 1).toFloat? = some 1.0 := by
  decide

section

variable {functions : Elementary} {tolerance : Number} {cell : PlacedCell}

/-- The zero cell is read as a zero under every tolerance. -/
theorem bitOfCell_of_zero (zero : cell.text = zeroCell) :
    bitOfCell functions tolerance cell = .ok (bitOfText cell.text) := by
  unfold bitOfCell bitOfText
  rw [if_pos zero, if_pos zero]

/-- A cell that stands for a bit is read as this bit. -/
theorem bitOfCell_of_stands
    (usable : tolerance.IsTolerance)
    (stands : Stands functions tolerance cell.text) :
    bitOfCell functions tolerance cell = .ok (bitOfText cell.text) := by
  unfold bitOfCell bitOfText
  split
  next => rfl
  next nonzero =>
    obtain ⟨value, evaluated, near⟩ := stands.resolve_left nonzero
    rw [check_of_value usable toFloat?_one evaluated]
    show (if tolerance.exceeds (value - 1.0).abs = true then _ else _) = _
    rw [if_pos near]
    rfl

/-- A cell that stands for none is reported with its place. -/
theorem bitOfCell_of_not_stands
    (usable : tolerance.IsTolerance)
    (typed : cell.text ≠ zeroCell →
      Yields (fun _ => True) IsFormulaFault (evaluate functions cell.text))
    (notStands : ¬ Stands functions tolerance cell.text) :
    ∃ mismatch : Mismatch,
      bitOfCell functions tolerance cell =
        .error (.codec (.ambiguousCell cell.row cell.column cell.text mismatch)) := by
  obtain ⟨nonzero, notAgrees⟩ := not_or.mp notStands
  have outcome := typed nonzero
  unfold bitOfCell
  rw [if_neg nonzero]
  cases evaluated : evaluate functions cell.text with
  | ok value =>
      have far : ¬ tolerance.exceeds (value - 1.0).abs = true :=
        fun near => notAgrees ⟨value, evaluated, near⟩
      rw [check_of_value usable toFloat?_one evaluated]
      show ∃ mismatch,
        (if tolerance.exceeds (value - 1.0).abs = true then _ else _) = _
      rw [if_neg far]
      exact ⟨_, rfl⟩
  | error fault =>
      rw [evaluated] at outcome
      obtain ⟨cause, rfl⟩ := outcome
      rw [check_of_fault usable evaluated]
      exact ⟨_, rfl⟩

end

/-! ## Grids -/

/-- The bits of rows, in reading order. -/
def bitsOfRows (rows : List (List Cell)) : List Char :=
  rows.flatten.map fun cell => bitOfText cell.content

theorem areBits_bitsOfRows (rows : List (List Cell)) : AreBits (bitsOfRows rows) := by
  intro bit member
  obtain ⟨cell, -, rfl⟩ := List.mem_map.mp member
  exact isBit_bitOfText cell.content

/-- The ones among them are those of the cells that are not the zero cell. -/
theorem count_bitsOfRows (rows : List (List Cell)) :
    (bitsOfRows rows).count '1' =
      rows.flatten.countP fun cell => decide (cell.content ≠ zeroCell) := by
  unfold bitsOfRows bitOfText
  rw [List.count, List.countP_map]
  congr 1
  funext cell
  by_cases zero : cell.content = zeroCell <;> simp [zero]

variable (functions : Elementary) (rows : List (List Cell)) (tolerance : Number)

/-- A number of cells that is no multiple of eight is refused before any cell is looked
at. -/
theorem decode_uneven (uneven : rows.flatten.length % bitsPerCharacter ≠ 0) :
    decode functions (datumOfRows rows) tolerance =
      .error (.codec (.unevenCells rows.flatten.length)) := by
  have refused : (rows.flatten.length % bitsPerCharacter != 0) = true := bne_iff_ne.mpr uneven
  unfold decode
  rw [placedCells_datumOfRows]
  show (if (placesOf rows).length % bitsPerCharacter != 0 then _ else _) = _
  rw [length_placesOf, if_pos refused]
  rfl

theorem decode_even (even : rows.flatten.length % bitsPerCharacter = 0) :
    decode functions (datumOfRows rows) tolerance =
      (do
        let bits ← (placesOf rows).mapM (bitOfCell functions tolerance)
        let text ← textOfBits (String.ofList bits)
        return ⟨text, String.ofList bits, bits.count '1'⟩) := by
  have passes : ¬ (rows.flatten.length % bitsPerCharacter != 0) = true := by
    rw [even]
    decide
  unfold decode
  rw [placedCells_datumOfRows]
  show (if (placesOf rows).length % bitsPerCharacter != 0 then _ else _) = _
  rw [length_placesOf, if_neg passes]

variable {functions rows tolerance}

/-- Cells that are all read as bits are decoded to these bits and to the text whose bits they
are. -/
theorem decode_of_bits
    (even : rows.flatten.length % bitsPerCharacter = 0)
    (each : ∀ place ∈ placesOf rows,
      bitOfCell functions tolerance place = .ok (bitOfText place.text)) :
    ∃ text : String,
      decode functions (datumOfRows rows) tolerance =
          .ok ⟨text, String.ofList (bitsOfRows rows), (bitsOfRows rows).count '1'⟩ ∧
        bitsOfText text = .ok (String.ofList (bitsOfRows rows)) ∧
        (bitsOfRows rows).length / bitsPerCharacter = text.length := by
  have bits : (placesOf rows).map (fun place => bitOfText place.text) = bitsOfRows rows := by
    have mapped := congrArg (List.map bitOfText) (texts_placesOf rows)
    rwa [List.map_map, List.map_map] at mapped
  have whole : (bitsOfRows rows).length % bitsPerCharacter = 0 := by
    rwa [bitsOfRows, List.length_map]
  obtain ⟨text, read, written, count⟩ := exists_text_of_bits (areBits_bitsOfRows rows) whole
  refine ⟨text, ?_, written, count⟩
  rw [decode_even functions rows tolerance even, mapM_of_ok each, bits]
  show (textOfBits (String.ofList (bitsOfRows rows)) >>= _) = _
  rw [read]
  rfl

/-- The first cell that is not read as a bit gives its fault. -/
theorem decode_of_fault
    {before after : List PlacedCell}
    {place : PlacedCell}
    {fault : Fault}
    (even : rows.flatten.length % bitsPerCharacter = 0)
    (places : placesOf rows = before ++ place :: after)
    (front : ∀ earlier ∈ before,
      bitOfCell functions tolerance earlier = .ok (bitOfText earlier.text))
    (reported : bitOfCell functions tolerance place = .error fault) :
    decode functions (datumOfRows rows) tolerance = .error fault := by
  rw [decode_even functions rows tolerance even, places, mapM_of_error after front reported]
  rfl

/-- So are cells that all stand for bits. -/
theorem decode_of_stands
    (usable : tolerance.IsTolerance)
    (even : rows.flatten.length % bitsPerCharacter = 0)
    (stand : ∀ cell ∈ rows.flatten, Stands functions tolerance cell.content) :
    ∃ text : String,
      decode functions (datumOfRows rows) tolerance =
          .ok ⟨text, String.ofList (bitsOfRows rows), (bitsOfRows rows).count '1'⟩ ∧
        bitsOfText text = .ok (String.ofList (bitsOfRows rows)) ∧
        (bitsOfRows rows).length / bitsPerCharacter = text.length := by
  apply decode_of_bits even
  intro place member
  exact bitOfCell_of_stands usable ((forall_placesOf_iff _).mpr stand place member)

/-- A place that is read before another stands in front of it. -/
theorem mem_before
    {before after : List PlacedCell}
    {place earlier : PlacedCell}
    (places : placesOf rows = before ++ place :: after)
    (member : earlier ∈ placesOf rows)
    (precedes : earlier.Precedes place) :
    earlier ∈ before := by
  have ordered := pairwise_placesOf rows
  rw [places] at member ordered
  have behind := (List.pairwise_append.mp ordered).2.1
  unfold PlacedCell.Precedes at precedes behind
  rcases List.mem_append.mp member with inFront | notInFront
  · exact inFront
  · rcases List.mem_cons.mp notInFront with rfl | inAfter
    · omega
    · have follows := (List.pairwise_cons.mp behind).1 _ inAfter
      omega

/-- The cell at the place stands for no bit, and all cells before it stand for one. -/
def IsFirstFailing
    (functions : Elementary)
    (tolerance : Number)
    (rows : List (List Cell))
    (row column : Nat)
    (cell : Cell) :
    Prop :=
  IsAt rows row column cell ∧
    ¬ Stands functions tolerance cell.content ∧
    ∀ (earlierRow earlierColumn : Nat) (earlier : Cell),
      IsAt rows earlierRow earlierColumn earlier →
        (earlierRow < row ∨ (earlierRow = row ∧ earlierColumn < column)) →
          Stands functions tolerance earlier.content

/-- If not all cells stand for bits, there is a first that does not, and its fault is that
of the decoding. -/
theorem exists_isFirstFailing
    (usable : tolerance.IsTolerance)
    (even : rows.flatten.length % bitsPerCharacter = 0)
    (notAll : ¬ ∀ cell ∈ rows.flatten, Stands functions tolerance cell.content) :
    ∃ (row column : Nat) (cell : Cell),
      IsFirstFailing functions tolerance rows row column cell ∧
        cell ∈ rows.flatten ∧
        ∀ fault : Fault,
          bitOfCell functions tolerance ⟨row, column, cell.content⟩ = .error fault →
            decode functions (datumOfRows rows) tolerance = .error fault := by
  obtain ⟨before, place, after, places, front, fails⟩ :=
    exists_first_without (mt (forall_placesOf_iff _).mp notAll)
  have member : place ∈ placesOf rows := places ▸ List.mem_append_right _ List.mem_cons_self
  obtain ⟨cell, isAt, content⟩ := mem_placesOf.mp member
  refine ⟨place.row, place.column, cell, ⟨isAt, content ▸ fails, ?_⟩, isAt.mem_flatten, ?_⟩
  · intro earlierRow earlierColumn earlier earlierAt precedes
    have earlierMember : ⟨earlierRow, earlierColumn, earlier.content⟩ ∈ placesOf rows :=
      mem_placesOf.mpr ⟨earlier, earlierAt, rfl⟩
    exact front _ (mem_before places earlierMember precedes)
  · intro fault reported
    rw [content] at reported
    have succeeds : ∀ earlier ∈ before,
        bitOfCell functions tolerance earlier = .ok (bitOfText earlier.text) :=
      fun earlier inFront => bitOfCell_of_stands usable (front earlier inFront)
    exact decode_of_fault even places succeeds reported

/-- The first cell that stands for no bit is reported. -/
theorem decode_of_not_stands
    (usable : tolerance.IsTolerance)
    (typed : ∀ cell ∈ rows.flatten, cell.content ≠ zeroCell →
      Yields (fun _ => True) IsFormulaFault (evaluate functions cell.content))
    (even : rows.flatten.length % bitsPerCharacter = 0)
    (notAll : ¬ ∀ cell ∈ rows.flatten, Stands functions tolerance cell.content) :
    ∃ (row column : Nat) (cell : Cell) (mismatch : Mismatch),
      IsAt rows row column cell ∧
        ¬ Stands functions tolerance cell.content ∧
        (∀ (earlierRow earlierColumn : Nat) (earlier : Cell),
          IsAt rows earlierRow earlierColumn earlier →
            (earlierRow < row ∨ (earlierRow = row ∧ earlierColumn < column)) →
              Stands functions tolerance earlier.content) ∧
        decode functions (datumOfRows rows) tolerance =
          .error (.codec (.ambiguousCell row column cell.content mismatch)) := by
  obtain ⟨row, column, cell, ⟨isAt, fails, front⟩, inRows, decoded⟩ :=
    exists_isFirstFailing usable even notAll
  obtain ⟨mismatch, reported⟩ :=
    @bitOfCell_of_not_stands functions tolerance ⟨row, column, cell.content⟩ usable
      (typed cell inRows) fails
  exact ⟨row, column, cell, mismatch, isAt, fails, front, decoded _ reported⟩

/-- Decoding rows of cells has exactly one of three outcomes, if the cells have values or
faults of formulas. A number of cells that is no multiple of eight is a fault of the
decoding. Otherwise, the first cell in reading order that stands for no bit is reported.
Otherwise all cells stand for bits: zeros at the zero cells, ones at the verified cells,
and the text is the one that has these bits, eight for each character. -/
theorem decode_outcome
    (functions : Elementary)
    (rows : List (List Cell))
    (tolerance : Number)
    (usable : tolerance.IsTolerance)
    (typed : ∀ cell ∈ rows.flatten, cell.content ≠ zeroCell →
      Yields (fun _ => True) IsFormulaFault (evaluate functions cell.content)) :
    (rows.flatten.length % bitsPerCharacter ≠ 0 →
      ∃ cause : CodecFault,
        decode functions (datumOfRows rows) tolerance = .error (.codec cause) ∧
          cause.family = .decode) ∧
    (rows.flatten.length % bitsPerCharacter = 0 →
      (¬ ∀ cell ∈ rows.flatten, Stands functions tolerance cell.content) →
      ∃ (row column : Nat) (cell : Cell) (mismatch : Mismatch),
        IsAt rows row column cell ∧
          ¬ Stands functions tolerance cell.content ∧
          (∀ (earlierRow earlierColumn : Nat) (earlier : Cell),
            IsAt rows earlierRow earlierColumn earlier →
              (earlierRow < row ∨ (earlierRow = row ∧ earlierColumn < column)) →
                Stands functions tolerance earlier.content) ∧
          decode functions (datumOfRows rows) tolerance =
            .error (.codec (.ambiguousCell row column cell.content mismatch))) ∧
    (rows.flatten.length % bitsPerCharacter = 0 →
      (∀ cell ∈ rows.flatten, Stands functions tolerance cell.content) →
      ∃ report : DecodeReport,
        decode functions (datumOfRows rows) tolerance = .ok report ∧
          report.bits = String.ofList
            (rows.flatten.map fun cell => if cell.content = zeroCell then '0' else '1') ∧
          report.verifiedCells =
            rows.flatten.countP (fun cell => decide (cell.content ≠ zeroCell)) ∧
          report.byteCount = report.text.length ∧
          bitsOfText report.text = .ok report.bits) := by
  refine ⟨?uneven, ?ambiguous, ?decoded⟩
  case uneven =>
    intro uneven
    exact ⟨_, decode_uneven functions rows tolerance uneven, rfl⟩
  case ambiguous =>
    intro even notAll
    exact decode_of_not_stands usable typed even notAll
  case decoded =>
    intro even stand
    obtain ⟨text, decoded, written, count⟩ := decode_of_stands usable even stand
    refine ⟨_, decoded, rfl, count_bitsOfRows rows, ?_, written⟩
    rw [DecodeReport.byteCount, String.length_ofList, count]

/-- Ragged rows, one of them empty, with eight cells. -/
def raggedRows : List (List Cell) :=
  [[.text "0", .expression "√1"], [], [.text "0!", .text "0", .text "2/3"],
    [.text "0", .expression "1", .text "("]]

/-- They have one of the three outcomes. -/
theorem decode_raggedRows :
    defaultTolerance.IsTolerance ∧
      (∀ cell ∈ raggedRows.flatten, cell.content ≠ zeroCell →
        Yields (fun _ => True) IsFormulaFault (evaluate sampleLibrary cell.content)) ∧
      raggedRows.flatten.length % bitsPerCharacter = 0 ∧
      ((∃ (row column : Nat) (cell : Cell) (mismatch : Mismatch),
        IsAt raggedRows row column cell ∧
          decode sampleLibrary (datumOfRows raggedRows) defaultTolerance =
            .error (.codec (.ambiguousCell row column cell.content mismatch))) ∨
      ∃ report : DecodeReport,
        decode sampleLibrary (datumOfRows raggedRows) defaultTolerance = .ok report ∧
          bitsOfText report.text = .ok report.bits) := by
  have usable := isTolerance_defaultTolerance
  have brief : ∀ cell ∈ raggedRows.flatten,
      cell.content.toList.length ≤ longestSuperscript := by
    decide
  have typed : ∀ cell ∈ raggedRows.flatten, cell.content ≠ zeroCell →
      Yields (fun _ => True) IsFormulaFault (evaluate sampleLibrary cell.content) := by
    intro cell member _
    have short : ShortSuperscripts cell.content.toList := .of_length_le (brief cell member)
    exact (yields_evaluate sampleLibrary_documented short).imp fun _ _ => trivial
  have even : raggedRows.flatten.length % bitsPerCharacter = 0 := by decide
  obtain ⟨-, ambiguous, decoded⟩ :=
    decode_outcome sampleLibrary raggedRows defaultTolerance usable typed
  refine ⟨usable, typed, even, ?_⟩
  by_cases stand : ∀ cell ∈ raggedRows.flatten,
      Stands sampleLibrary defaultTolerance cell.content
  · obtain ⟨report, reported, -, -, -, written⟩ := decoded even stand
    exact .inr ⟨report, reported, written⟩
  · obtain ⟨row, column, cell, mismatch, isAt, -, -, reported⟩ := ambiguous even stand
    exact .inl ⟨row, column, cell, mismatch, isAt, reported⟩

end FormulaGrid
