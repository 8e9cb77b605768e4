import FormulaGrid.Proofs.Formula.Origins
import FormulaGrid.Proofs.Message.Extension

/-!
Contract: a decoding looks at the texts of the cells in reading order, and at nothing else.

Owns:
- the texts that are read as bits (`IsRead`), and what becomes of any other one, wherever it
  stands (`bitOfCell_of_not_isRead`);
- the outcome that all rows with the same texts in reading order have (`FlatOutcome`);
- the report of texts (`DecodeReport.Reports`), and the reports of texts that follow others
  (`DecodeReport.Reports.append`);
- the index of a cell among all cells (`flatIndex`), by which a reported cell is found in any
  other rows with the same texts (`decode_rearranged`).

The tolerance need not be one that may be used, and nothing is assumed of the primitives.
-/

namespace FormulaGrid

/-! ## Texts -/

/-- The text is read as a bit: it is the zero cell, or it is verified against one. -/
def IsRead (functions : Elementary) (tolerance : Number) (text : String) : Prop :=
  text = zeroCell ∨ verify functions text (.int 1) tolerance = .ok true

theorem requireTolerance_not_isCodecFault (tolerance : Number) :
    Yields (fun _ => True) (fun fault => ¬ IsCodecFault fault) (requireTolerance tolerance) := by
  unfold requireTolerance
  repeat' split
  all_goals first
    | trivial
    | exact not_isCodecFault_of_argument _
    | exact nofun

theorem attempt_not_isCodecFault (functions : Elementary) (text : String) :
    Yields (fun _ => True) (fun fault => ¬ IsCodecFault fault) (attempt functions text) := by
  have evaluated := evaluate_not_isCodecFault functions text
  unfold attempt
  cases outcome : evaluate functions text with
  | ok value => trivial
  | error fault =>
      rw [outcome] at evaluated
      cases fault with
      | formula cause => trivial
      | _ => exact evaluated

theorem distance_not_isCodecFault (value : Float) (expected : Number) :
    Yields (fun _ => True) (fun fault => ¬ IsCodecFault fault) (distance value expected) := by
  unfold distance
  split
  next => trivial
  next => exact fun ⟨_, same⟩ => Fault.noConfusion same

/-- No comparison has a fault of texts and grids. -/
theorem check_not_isCodecFault
    (functions : Elementary)
    (text : String)
    (expected tolerance : Number) :
    Yields (fun _ => True) (fun fault => ¬ IsCodecFault fault)
      (check functions text expected tolerance) := by
  refine (requireTolerance_not_isCodecFault tolerance).bind fun _ _ => ?_
  refine (attempt_not_isCodecFault functions text).bind fun outcome _ => ?_
  cases outcome with
  | error cause => trivial
  | ok value => exact (distance_not_isCodecFault value expected).bind fun _ _ => trivial

section

variable {functions : Elementary} {tolerance : Number}

/-- A text that is read is read as its bit. -/
theorem bitOfCell_of_isRead
    {cell : PlacedCell}
    (isRead : IsRead functions tolerance cell.text) :
    bitOfCell functions tolerance cell = .ok (bitOfText cell.text) := by
  rcases isRead with zero | verified
  · exact bitOfCell_of_zero zero
  · obtain ⟨usable, agrees⟩ := (verify_iff toFloat?_one).mp verified
    exact bitOfCell_of_stands usable (.inr agrees)

/-- Any other text is reported, with the place where it stands and always for the same reason,
or has a fault that names no place. -/
theorem bitOfCell_of_not_isRead
    {text : String}
    (notRead : ¬ IsRead functions tolerance text) :
    (∃ mismatch : Mismatch, ∀ row column : Nat,
      bitOfCell functions tolerance ⟨row, column, text⟩ =
        .error (.codec (.ambiguousCell row column text mismatch))) ∨
    ∃ fault : Fault, ¬ IsCodecFault fault ∧
      ∀ row column : Nat, bitOfCell functions tolerance ⟨row, column, text⟩ = .error fault := by
  obtain ⟨nonzero, notVerified⟩ := not_or.mp notRead
  have outcome := check_not_isCodecFault functions text (.int 1) tolerance
  unfold verify at notVerified
  unfold bitOfCell
  simp only [if_neg nonzero]
  cases checked : check functions text (.int 1) tolerance with
  | error fault =>
      rw [checked] at outcome
      exact .inr ⟨fault, outcome, fun row column => rfl⟩
  | ok verdict =>
      rw [checked] at notVerified
      cases verdict with
      | noValue cause => exact .inl ⟨.noValue cause, fun row column => rfl⟩
      | value value distance =>
          have far : ¬ tolerance.exceeds distance = true :=
            fun near => notVerified (congrArg Except.ok near)
          exact .inl ⟨.otherValue value, fun row column => if_neg far⟩

/-- The text is the first that is not read. -/
structure IsFirstUnread
    (functions : Elementary)
    (tolerance : Number)
    (texts : List String)
    (index : Nat)
    (text : String) :
    Prop where
  inTexts : texts[index]? = some text
  unread : ¬ IsRead functions tolerance text
  front : ∀ (earlier : Nat) (other : String),
    earlier < index → texts[earlier]? = some other → IsRead functions tolerance other

theorem exists_isFirstUnread
    {texts : List String}
    (notAll : ¬ ∀ text ∈ texts, IsRead functions tolerance text) :
    ∃ (index : Nat) (text : String), IsFirstUnread functions tolerance texts index text := by
  obtain ⟨before, text, after, rfl, front, unread⟩ := exists_first_without notAll
  refine ⟨before.length, text, by simp, unread, fun earlier other precedes inTexts => ?_⟩
  rw [List.getElem?_append_left precedes] at inTexts
  exact front other (List.mem_of_getElem? inTexts)

end

/-! ## Reports -/

theorem areBits_map_bitOfText (texts : List String) : AreBits (texts.map bitOfText) :=
  List.forall_mem_map.mpr fun text _ => isBit_bitOfText text

/-- The report is the one of texts that are read: it has their bits, and the text with these
bits. -/
structure DecodeReport.Reports (report : DecodeReport) (texts : List String) : Prop where
  bits : report.bits = String.ofList (texts.map bitOfText)
  text : bitsOfText report.text = .ok report.bits
  verifiedCells : report.verifiedCells = (texts.map bitOfText).count '1'

namespace DecodeReport.Reports

/-- There is no other report of the same texts. -/
theorem unique
    {report other : DecodeReport}
    {texts : List String}
    (reports : report.Reports texts)
    (otherReports : other.Reports texts) :
    report = other := by
  obtain ⟨bits, written, verified⟩ := reports
  obtain ⟨otherBits, otherWritten, otherVerified⟩ := otherReports
  have sameBits : report.bits = other.bits := bits.trans otherBits.symm
  have read := textOfBits_bitsOfText written
  rw [sameBits, textOfBits_bitsOfText otherWritten] at read
  cases report
  cases other
  cases sameBits
  cases read
  cases verified.trans otherVerified.symm
  rfl

/-- Texts that follow others have their report behind that of the others. -/
theorem append
    {front back : DecodeReport}
    {texts others : List String}
    (frontReports : front.Reports texts)
    (backReports : back.Reports others) :
    (⟨front.text ++ back.text, front.bits ++ back.bits,
      front.verifiedCells + back.verifiedCells⟩ : DecodeReport).Reports (texts ++ others) := by
  obtain ⟨frontNarrow, frontBits⟩ := narrow_of_bitsOfText frontReports.text
  obtain ⟨backNarrow, backBits⟩ := narrow_of_bitsOfText backReports.text
  refine ⟨?bits, ?text, ?verifiedCells⟩
  case bits =>
    show front.bits ++ back.bits = _
    rw [frontReports.bits, backReports.bits, List.map_append, String.ofList_append]
  case text =>
    show bitsOfText (front.text ++ back.text) = .ok (front.bits ++ back.bits)
    have narrow : AreNarrow (front.text ++ back.text).toList := by
      rw [String.toList_append]
      exact List.forall_mem_append.mpr ⟨frontNarrow, backNarrow⟩
    rw [bitsOfText_narrow narrow, String.toList_append, octetsOf_append, frontBits, backBits,
      String.ofList_append]
  case verifiedCells =>
    show front.verifiedCells + back.verifiedCells = _
    rw [frontReports.verifiedCells, backReports.verifiedCells, List.map_append, List.count_append]

end DecodeReport.Reports

/-! ## Rows -/

/-- The texts of rows, in reading order. -/
def textsOf (rows : List (List Cell)) : List String :=
  rows.flatten.map Cell.content

theorem length_textsOf (rows : List (List Cell)) :
    (textsOf rows).length = rows.flatten.length :=
  List.length_map _

theorem textsOf_append (front back : List (List Cell)) :
    textsOf (front ++ back) = textsOf front ++ textsOf back := by
  unfold textsOf
  rw [List.flatten_append, List.map_append]

theorem textsOf_cellsOfGrid (grid : Grid) : textsOf (cellsOfGrid grid) = grid.cells := by
  unfold textsOf
  rw [flatten_cellsOfGrid, List.map_map]
  exact List.map_id _

theorem map_bitOfText_textsOf (rows : List (List Cell)) :
    (textsOf rows).map bitOfText = bitsOfRows rows := by
  unfold textsOf bitsOfRows
  rw [List.map_map]
  rfl

/-- A text has the same index as its place. -/
theorem getElem?_textsOf (rows : List (List Cell)) (index : Nat) :
    (textsOf rows)[index]? = (placesOf rows)[index]?.map PlacedCell.text := by
  rw [textsOf, ← texts_placesOf, List.getElem?_map]

/-- What a decoding makes of texts, in whatever rows they stand. -/
inductive FlatOutcome
    (functions : Elementary)
    (tolerance : Number)
    (texts : List String) :
    Prop where
  | uneven
      (uneven : texts.length % bitsPerCharacter ≠ 0)
      (decoded : ∀ rows : List (List Cell), textsOf rows = texts →
        decode functions (datumOfRows rows) tolerance =
          .error (.codec (.unevenCells texts.length)))
  | report
      (report : DecodeReport)
      (even : texts.length % bitsPerCharacter = 0)
      (read : ∀ text ∈ texts, IsRead functions tolerance text)
      (reports : report.Reports texts)
      (decoded : ∀ rows : List (List Cell), textsOf rows = texts →
        decode functions (datumOfRows rows) tolerance = .ok report)
  | ambiguous
      (index : Nat)
      (text : String)
      (mismatch : Mismatch)
      (isFirst : IsFirstUnread functions tolerance texts index text)
      (decoded : ∀ rows : List (List Cell), textsOf rows = texts →
        ∃ row column : Nat,
          (placesOf rows)[index]? = some ⟨row, column, text⟩ ∧
            decode functions (datumOfRows rows) tolerance =
              .error (.codec (.ambiguousCell row column text mismatch)))
  | interrupted
      (fault : Fault)
      (index : Nat)
      (text : String)
      (isFirst : IsFirstUnread functions tolerance texts index text)
      (notCodec : ¬ IsCodecFault fault)
      (decoded : ∀ rows : List (List Cell), textsOf rows = texts →
        decode functions (datumOfRows rows) tolerance = .error fault)

section

variable {functions : Elementary} {tolerance : Number} {texts : List String}

/-- The first text that is not read gives its fault, with its place. -/
theorem IsFirstUnread.exists_place
    {index : Nat}
    {text : String}
    (isFirst : IsFirstUnread functions tolerance texts index text)
    (even : texts.length % bitsPerCharacter = 0)
    {rows : List (List Cell)}
    (same : textsOf rows = texts) :
    ∃ row column : Nat,
      (placesOf rows)[index]? = some ⟨row, column, text⟩ ∧
        ∀ fault : Fault, bitOfCell functions tolerance ⟨row, column, text⟩ = .error fault →
          decode functions (datumOfRows rows) tolerance = .error fault := by
  obtain ⟨inTexts, -, front⟩ := isFirst
  subst same
  rw [length_textsOf] at even
  simp only [getElem?_textsOf] at inTexts front
  obtain ⟨⟨row, column, _⟩, stands, rfl⟩ := Option.map_eq_some_iff.mp inTexts
  refine ⟨row, column, stands, fun fault reported => ?_⟩
  obtain ⟨within, same⟩ := List.getElem?_eq_some_iff.mp stands
  have places : placesOf rows =
      (placesOf rows).take index ++ (placesOf rows)[index] :: (placesOf rows).drop (index + 1) := by
    rw [List.getElem_cons_drop, List.take_append_drop]
  rw [same] at places
  refine decode_of_fault even places (fun earlier inFront => bitOfCell_of_isRead ?_) reported
  obtain ⟨place, precedes, rfl⟩ := List.mem_take_iff_getElem.mp inFront
  rw [Nat.lt_min] at precedes
  exact front place _ precedes.1 (by rw [List.getElem?_eq_getElem precedes.2]; rfl)

/-- Texts that are all read have one report, in whatever rows they stand. -/
theorem exists_report_of_isRead
    (even : texts.length % bitsPerCharacter = 0)
    (read : ∀ text ∈ texts, IsRead functions tolerance text) :
    ∃ report : DecodeReport,
      report.Reports texts ∧
        ∀ rows : List (List Cell), textsOf rows = texts →
          decode functions (datumOfRows rows) tolerance = .ok report := by
  have whole : (texts.map bitOfText).length % bitsPerCharacter = 0 := by
    rwa [List.length_map]
  obtain ⟨text, -, written, -⟩ := exists_text_of_bits (areBits_map_bitOfText texts) whole
  have reports : (⟨text, _, _⟩ : DecodeReport).Reports texts := ⟨rfl, written, rfl⟩
  refine ⟨_, reports, fun rows same => ?_⟩
  subst same
  rw [length_textsOf] at even
  have each := (forall_placesOf_iff _).mpr (List.forall_mem_map.mp read)
  obtain ⟨found, decoded, foundWritten, -⟩ :=
    decode_of_bits even fun place member => bitOfCell_of_isRead (each place member)
  rw [← map_bitOfText_textsOf] at decoded foundWritten
  rw [decoded]
  -- The bits determine the text, so these rows have no other report.
  exact congrArg Except.ok (DecodeReport.Reports.unique ⟨rfl, foundWritten, rfl⟩ reports)

end

/-- All rows with the same texts have the same outcome, but for the places. -/
theorem flatOutcome
    (functions : Elementary)
    (tolerance : Number)
    (texts : List String) :
    FlatOutcome functions tolerance texts := by
  by_cases even : texts.length % bitsPerCharacter = 0
  case neg =>
    refine .uneven even fun rows same => ?_
    rw [← same, length_textsOf] at even ⊢
    exact decode_uneven functions rows tolerance even
  by_cases read : ∀ text ∈ texts, IsRead functions tolerance text
  case pos =>
    obtain ⟨report, reports, decoded⟩ := exists_report_of_isRead even read
    exact .report report even read reports decoded
  -- The fault is that of the first unread text. Its reason is fixed before the rows are.
  obtain ⟨index, text, isFirst⟩ := exists_isFirstUnread read
  rcases bitOfCell_of_not_isRead isFirst.unread with
    ⟨mismatch, reported⟩ | ⟨fault, notCodec, reported⟩
  · refine .ambiguous index text mismatch isFirst fun rows same => ?_
    obtain ⟨row, column, stands, decoded⟩ := isFirst.exists_place even same
    exact ⟨row, column, stands, decoded _ (reported row column)⟩
  · refine .interrupted fault index text isFirst notCodec fun rows same => ?_
    obtain ⟨row, column, -, decoded⟩ := isFirst.exists_place even same
    exact decoded _ (reported row column)

/-! ## Indices -/

/-- The index among all cells of the one in the row and the column. -/
def flatIndex (rows : List (List Cell)) (row column : Nat) : Nat :=
  (rows.take row).flatten.length + column

/-- The place one row further down. -/
def PlacedCell.below (place : PlacedCell) : PlacedCell :=
  { place with row := place.row + 1 }

/-- Behind the places of the first row come those of the others, one row further down. -/
theorem placesOf_cons (row : List Cell) (others : List (List Cell)) :
    placesOf (row :: others) = placesInRow 0 row ++ (placesOf others).map PlacedCell.below := by
  have shifted (index : Nat) (cells : List Cell) :
      placesInRow (index + 1) cells = (placesInRow index cells).map PlacedCell.below := by
    refine List.ext_getElem? fun column => ?_
    rw [placesInRow, placesInRow, List.getElem?_map, List.getElem?_mapIdx, List.getElem?_mapIdx,
      Option.map_map]
    rfl
  unfold placesOf
  rw [List.mapIdx_cons, List.flatten_cons, List.map_flatten]
  congr 2
  refine List.ext_getElem? fun index => ?_
  rw [List.getElem?_map, List.getElem?_mapIdx, List.getElem?_mapIdx, Option.map_map]
  exact congrArg (Option.map · _) (funext (shifted index))

/-- The index of a place is that of its row and its column. -/
theorem flatIndex_of_getElem?_placesOf
    {rows : List (List Cell)}
    {index : Nat}
    {place : PlacedCell}
    (stands : (placesOf rows)[index]? = some place) :
    flatIndex rows place.row place.column = index := by
  induction rows generalizing index place with
  | nil => cases stands
  | cons row others inductionHypothesis =>
      have length : (placesInRow 0 row).length = row.length := List.length_mapIdx
      rw [placesOf_cons] at stands
      rcases Nat.lt_or_ge index row.length with inRow | behind
      · rw [List.getElem?_append_left (length ▸ inRow), placesInRow, List.getElem?_mapIdx] at stands
        obtain ⟨cell, -, rfl⟩ := Option.map_eq_some_iff.mp stands
        exact Nat.zero_add index
      · rw [List.getElem?_append_right (length ▸ behind), List.getElem?_map, length] at stands
        obtain ⟨above, inOthers, rfl⟩ := Option.map_eq_some_iff.mp stands
        have further := inductionHypothesis inOthers
        unfold flatIndex at further ⊢
        show ((row :: others).take (above.row + 1)).flatten.length + above.column = index
        rw [List.take_succ_cons, List.flatten_cons, List.length_append, Nat.add_assoc, further,
          Nat.add_sub_cancel' behind]

/-- In the place with an index stands a cell with the text of this index. -/
theorem exists_isAt_of_getElem?_placesOf
    {rows : List (List Cell)}
    {index row column : Nat}
    {text : String}
    (stands : (placesOf rows)[index]? = some ⟨row, column, text⟩) :
    ∃ cell : Cell,
      IsAt rows row column cell ∧ cell.content = text ∧ flatIndex rows row column = index := by
  obtain ⟨cell, isAt, content⟩ := mem_placesOf.mp (List.mem_of_getElem? stands)
  exact ⟨cell, isAt, content, flatIndex_of_getElem?_placesOf stands⟩

/-! ## Arrangements -/

/-- Rows of cells, or a grid. -/
inductive Arrangement where
  | plain (rows : List (List Cell))
  | made (grid : Grid)

namespace Arrangement

/-- The rows of cells. -/
def cells : Arrangement → List (List Cell)
  | plain rows => rows
  | made grid => cellsOfGrid grid

/-- The arrangement as it is handed to a decoding. -/
def toDatum : Arrangement → Datum
  | plain rows => datumOfRows rows
  | made grid => grid.toDatum

theorem toDatum_eq_datumOfRows (arrangement : Arrangement) :
    arrangement.toDatum = datumOfRows arrangement.cells := by
  cases arrangement with
  | plain rows => rfl
  | made grid => exact toDatum_eq grid

end Arrangement

/-- The fault is not the report of a cell. -/
def Fault.BlamesNoCell (fault : Fault) : Prop :=
  ∀ (row column : Nat) (text : String) (mismatch : Mismatch),
    fault ≠ .codec (.ambiguousCell row column text mismatch)

/-- The place and the text of the cell that an outcome reports. -/
def blamedCell? : Except Fault DecodeReport → Option (Nat × Nat × String)
  | .ok _ => none
  | .error (.codec (.ambiguousCell row column text _)) => some (row, column, text)
  | .error _ => none

theorem exists_of_blamedCell?
    {outcome : Except Fault DecodeReport}
    {row column : Nat}
    {text : String}
    (same : blamedCell? outcome = some (row, column, text)) :
    ∃ mismatch : Mismatch, outcome = .error (.codec (.ambiguousCell row column text mismatch)) := by
  unfold blamedCell? at same
  split at same
  next => cases same
  next mismatch =>
    cases same
    exact ⟨mismatch, rfl⟩
  next => cases same

/-- Two decodings end alike: with the same report, with the same fault, or with the report of a
cell that has the same text and the same index in both, and fails for the same reason. -/
inductive EndAlike (left right : List (List Cell)) :
    Except Fault DecodeReport → Except Fault DecodeReport → Prop where
  | report (report : DecodeReport) : EndAlike left right (.ok report) (.ok report)
  | fault (fault : Fault) (blamesNoCell : fault.BlamesNoCell) :
      EndAlike left right (.error fault) (.error fault)
  | ambiguous
      {row column otherRow otherColumn : Nat}
      {cell other : Cell}
      {text : String}
      {mismatch : Mismatch}
      (isAt : IsAt left row column cell)
      (otherAt : IsAt right otherRow otherColumn other)
      (content : cell.content = text)
      (otherContent : other.content = text)
      (index : flatIndex left row column = flatIndex right otherRow otherColumn) :
      EndAlike left right
        (.error (.codec (.ambiguousCell row column text mismatch)))
        (.error (.codec (.ambiguousCell otherRow otherColumn text mismatch)))

/-- Rows with the same texts are decoded alike. -/
theorem endAlike_of_textsOf
    (functions : Elementary)
    (tolerance : Number)
    {left right : List (List Cell)}
    (same : textsOf left = textsOf right) :
    EndAlike left right
      (decode functions (datumOfRows left) tolerance)
      (decode functions (datumOfRows right) tolerance) := by
  cases flatOutcome functions tolerance (textsOf right) with
  | uneven _ decoded =>
      rw [decoded left same, decoded right rfl]
      exact .fault _ nofun
  | report report _ _ _ decoded =>
      rw [decoded left same, decoded right rfl]
      exact .report report
  | interrupted fault _ _ _ notCodec decoded =>
      rw [decoded left same, decoded right rfl]
      exact .fault fault fun _ _ _ _ same => notCodec ⟨_, same⟩
  | ambiguous index text mismatch _ decoded =>
      obtain ⟨row, column, stands, leftDecoded⟩ := decoded left same
      obtain ⟨otherRow, otherColumn, otherStands, rightDecoded⟩ := decoded right rfl
      obtain ⟨cell, isAt, content, flat⟩ := exists_isAt_of_getElem?_placesOf stands
      obtain ⟨other, otherAt, otherContent, otherFlat⟩ :=
        exists_isAt_of_getElem?_placesOf otherStands
      rw [leftDecoded, rightDecoded]
      exact .ambiguous isAt otherAt content otherContent (flat.trans otherFlat.symm)

/-- A cell is known by its text unless this is empty. -/
theorem text_cellText_toDatum {cell : Cell} (filled : cellText cell.toDatum ≠ "") :
    Datum.text (cellText cell.toDatum) = cell.toDatum := by
  cases cell with
  | text content => rfl
  | expression content => exact absurd rfl filled

/-- A grid that is made of rows holds just these. An expression among the cells is refused, so
that no cell is changed. -/
theorem toDatum_of_ofDatum
    {rows : List (List Cell)}
    {grid : Grid}
    (made : Grid.ofDatum (datumOfRows rows) = .ok grid) :
    grid.toDatum = datumOfRows rows := by
  obtain ⟨items, elements, further⟩ := exists_of_bind_eq_ok made
  cases elements
  have lists : (rows.map fun row => Datum.list (row.map Cell.toDatum)).mapM Grid.elementsOf =
      .ok (rows.map (List.map Cell.toDatum)) := by
    have each : ∀ items ∈ rows.map fun row => Datum.list (row.map Cell.toDatum),
        Grid.elementsOf items = .ok (items.elements?.getD []) :=
      List.forall_mem_map.mpr fun row _ => rfl
    rw [mapM_of_ok each, List.map_map]
    rfl
  rw [bind_of_ok lists] at further
  have same := Grid.rows_eq_of_ofRows further
  rw [List.map_map] at same
  unfold Grid.toDatum datumOfRows
  rw [same, List.map_map]
  refine congrArg Datum.list (List.map_congr_left fun row member => congrArg Datum.list ?_)
  have inGrid : row.map (cellText ∘ Cell.toDatum) ∈ grid.rows := by
    rw [same]
    exact List.mem_map.mpr ⟨row, member, List.map_map⟩
  show ((row.map Cell.toDatum).map cellText).map Datum.text = row.map Cell.toDatum
  rw [List.map_map, List.map_map]
  refine List.map_congr_left fun cell inRow => text_cellText_toDatum fun empty => ?_
  exact (grid.layout.2.of_mem inGrid).2.2 (empty ▸ List.mem_map_of_mem inRow)

section

variable {functions : Elementary} {tolerance : Number} {report : DecodeReport}

/-- Rows are decoded just if their texts are all read and fall into groups of eight. The report
is that of the texts. -/
theorem decode_eq_ok_iff {rows : List (List Cell)} :
    decode functions (datumOfRows rows) tolerance = .ok report ↔
      (textsOf rows).length % bitsPerCharacter = 0 ∧
        (∀ text ∈ textsOf rows, IsRead functions tolerance text) ∧
        report.Reports (textsOf rows) := by
  cases flatOutcome functions tolerance (textsOf rows) with
  | uneven uneven decoded =>
      rw [decoded rows rfl]
      exact iff_of_false nofun fun decodes => uneven decodes.1
  | report found even read reports decoded =>
      rw [decoded rows rfl]
      constructor
      · intro same
        cases same
        exact ⟨even, read, reports⟩
      · rintro ⟨-, -, alsoReports⟩
        exact congrArg Except.ok (reports.unique alsoReports)
  | ambiguous index text mismatch isFirst decoded =>
      obtain ⟨row, column, -, refused⟩ := decoded rows rfl
      rw [refused]
      exact iff_of_false nofun fun decodes =>
        isFirst.unread (decodes.2.1 text (List.mem_of_getElem? isFirst.inTexts))
  | interrupted fault index text isFirst _ decoded =>
      rw [decoded rows rfl]
      exact iff_of_false nofun fun decodes =>
        isFirst.unread (decodes.2.1 text (List.mem_of_getElem? isFirst.inTexts))

/-- Rows that follow others are decoded with them if both are decoded alone. -/
theorem decode_append
    {front back : List (List Cell)}
    {frontReport backReport : DecodeReport}
    (frontDecoded : decode functions (datumOfRows front) tolerance = .ok frontReport)
    (backDecoded : decode functions (datumOfRows back) tolerance = .ok backReport) :
    decode functions (datumOfRows (front ++ back)) tolerance =
      .ok ⟨frontReport.text ++ backReport.text, frontReport.bits ++ backReport.bits,
        frontReport.verifiedCells + backReport.verifiedCells⟩ := by
  obtain ⟨frontEven, frontRead, frontReports⟩ := decode_eq_ok_iff.mp frontDecoded
  obtain ⟨backEven, backRead, backReports⟩ := decode_eq_ok_iff.mp backDecoded
  refine decode_eq_ok_iff.mpr ?_
  rw [textsOf_append]
  refine ⟨?_, List.forall_mem_append.mpr ⟨frontRead, backRead⟩, frontReports.append backReports⟩
  rw [List.length_append]
  exact Nat.mod_eq_zero_of_dvd
    (Nat.dvd_add (Nat.dvd_of_mod_eq_zero frontEven) (Nat.dvd_of_mod_eq_zero backEven))

end

/-- A decoding depends on the texts of the cells in reading order only. Any two arrangements with
the same texts, be they rows of texts and expressions or grids, end alike under the same
tolerance. So a grid that is made of rows is decoded as the rows are. Rows that are decoded
alone, and then fall into groups of eight cells, are decoded one behind the other to their texts
one behind the other. -/
theorem decode_rearranged
    (functions : Elementary)
    (tolerance : Number) :
    (∀ left right : Arrangement, textsOf left.cells = textsOf right.cells →
      EndAlike left.cells right.cells
        (decode functions left.toDatum tolerance)
        (decode functions right.toDatum tolerance)) ∧
    (∀ (rows : List (List Cell)) (grid : Grid), Grid.ofDatum (datumOfRows rows) = .ok grid →
      decode functions grid.toDatum tolerance = decode functions (datumOfRows rows) tolerance) ∧
    (∀ (front back : List (List Cell)) (frontReport backReport : DecodeReport),
      decode functions (datumOfRows front) tolerance = .ok frontReport →
      decode functions (datumOfRows back) tolerance = .ok backReport →
        ∃ report : DecodeReport,
          decode functions (datumOfRows (front ++ back)) tolerance = .ok report ∧
            report.text = frontReport.text ++ backReport.text ∧
            report.bits = frontReport.bits ++ backReport.bits) := by
  refine ⟨?rearranged, ?made, ?followed⟩
  case rearranged =>
    intro left right same
    rw [left.toDatum_eq_datumOfRows, right.toDatum_eq_datumOfRows]
    exact endAlike_of_textsOf functions tolerance same
  case made =>
    intro rows grid made
    rw [toDatum_of_ofDatum made]
  case followed =>
    intro front back frontReport backReport frontDecoded backDecoded
    exact ⟨_, decode_append frontDecoded backDecoded, rfl, rfl⟩

/-- Seven zero cells and a formula for one, in three rows. -/
def unitRows : List (List Cell) :=
  [List.replicate 3 (.text "0"), List.replicate 3 (.text "0"), [.text "0", .text "2/2"]]

theorem decode_unitRows :
    decode sampleLibrary (datumOfRows unitRows) defaultTolerance =
      .ok ⟨"\x01", "00000001", 1⟩ :=
  eq_ok_of_toOption (by decide +kernel)

/-- The ragged rows have their first unread text, `2/3`, in the third row. In a grid of three
columns it is reported in the second row, where it has the same index. A grid of the other rows
is decoded as these are, and twice these rows give their text twice. -/
theorem decode_rearranged_raggedRows :
    ∃ (regular grid : Grid) (mismatch : Mismatch) (row column : Nat) (cell : Cell),
      Grid.ofCells ((textsOf raggedRows).map Datum.text) 3 = .ok regular ∧
        decode sampleLibrary (datumOfRows raggedRows) defaultTolerance =
          .error (.codec (.ambiguousCell 2 2 "2/3" mismatch)) ∧
        decode sampleLibrary regular.toDatum defaultTolerance =
          .error (.codec (.ambiguousCell row column "2/3" mismatch)) ∧
        IsAt (cellsOfGrid regular) row column cell ∧
        flatIndex (cellsOfGrid regular) row column = 4 ∧
        Grid.ofDatum (datumOfRows unitRows) = .ok grid ∧
        decode sampleLibrary grid.toDatum defaultTolerance =
          .ok ⟨"", "00000001", 1⟩ ∧
        ∃ report : DecodeReport,
          decode sampleLibrary (datumOfRows (unitRows ++ unitRows)) defaultTolerance = .ok report ∧
            report.text = "" := by
  obtain ⟨rearranged, made, followed⟩ := decode_rearranged sampleLibrary defaultTolerance
  have filled : "" ∉ textsOf raggedRows := by decide
  obtain ⟨regular, regularMade⟩ := Grid.exists_ofCells (by decide : 0 < 3) filled
  have same : textsOf raggedRows = textsOf (cellsOfGrid regular) := by
    rw [textsOf_cellsOfGrid, Grid.cells_of_ofCells regularMade]
  have blamed : blamedCell? (decode sampleLibrary (datumOfRows raggedRows) defaultTolerance) =
      some (2, 2, "2/3") := by
    decide +kernel
  obtain ⟨mismatch, reported⟩ := exists_of_blamedCell? blamed
  have alike := rearranged (.plain raggedRows) (.made regular) same
  dsimp only [Arrangement.toDatum, Arrangement.cells] at alike
  rw [reported] at alike
  have isMade : (Grid.ofDatum (datumOfRows unitRows)).toOption.isSome = true := by decide +kernel
  obtain ⟨grid, found⟩ := Option.isSome_iff_exists.mp isMade
  have gridMade := eq_ok_of_toOption found
  obtain ⟨report, twice, text, -⟩ := followed unitRows unitRows _ _ decode_unitRows decode_unitRows
  generalize regularDecoded :
    decode sampleLibrary regular.toDatum defaultTolerance = outcome at alike
  cases alike with
  | fault _ blamesNoCell => exact absurd rfl (blamesNoCell _ _ _ _)
  | ambiguous _ otherAt _ _ index =>
      exact ⟨regular, grid, mismatch, _, _, _, regularMade, reported, regularDecoded, otherAt,
        index.symm.trans (by decide), gridMade, (made unitRows grid gridMade).trans decode_unitRows,
        report, twice, text⟩

end FormulaGrid
