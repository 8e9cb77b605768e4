import FormulaGrid.Proofs.Message.Arrangement

/-!
Contract: what a larger tolerance changes about a verification and a decoding.

Owns:
- what is verified is verified under every larger tolerance (`verify_of_atMost`), so that more
  texts are read (`IsRead.of_atMost`) and the first unread one is not an earlier one
  (`IsFirstUnread.le_of_atMost`);
- values of unknown shape are rows of cells (`exists_rows_of_placedCells`), or are refused for their
  shape under every tolerance (`decode_of_shape`);
- a larger tolerance changes whether a value is decoded and which cell is reported, but not what
  it is decoded to (`decode_of_atMost`).
-/

namespace FormulaGrid

section

variable {functions : Elementary} {narrower wider : Number}

/-- A comparison finds the same under all tolerances that may be used. -/
theorem check_congr
    (usable : narrower.IsTolerance)
    (wideUsable : wider.IsTolerance)
    (text : String)
    (expected : Number) :
    check functions text expected narrower = check functions text expected wider := by
  unfold check
  rw [(requireTolerance_iff narrower).mpr usable, (requireTolerance_iff wider).mpr wideUsable]

variable
  (usable : narrower.IsTolerance)
  (wideUsable : wider.IsTolerance)
  (atMost : narrower.AtMost wider)

include usable wideUsable atMost

/-- What is verified is verified under a larger tolerance. -/
theorem verify_of_atMost
    {text : String}
    {expected : Number}
    (verified : verify functions text expected narrower = .ok true) :
    verify functions text expected wider = .ok true := by
  obtain ⟨verdict, checked, passed⟩ := exists_of_map_eq_ok verified
  rw [check_congr usable wideUsable] at checked
  unfold verify
  rw [checked]
  cases verdict with
  | noValue cause => cases passed
  | value value distance => exact congrArg Except.ok (Number.exceeds_mono atMost passed)

theorem IsRead.of_atMost
    {text : String}
    (isRead : IsRead functions narrower text) :
    IsRead functions wider text :=
  isRead.imp_right fun verified => verify_of_atMost usable wideUsable atMost verified

/-- The first unread text is not an earlier one under a larger tolerance. -/
theorem IsFirstUnread.le_of_atMost
    {texts : List String}
    {index otherIndex : Nat}
    {text other : String}
    (isFirst : IsFirstUnread functions narrower texts index text)
    (wideFirst : IsFirstUnread functions wider texts otherIndex other) :
    index ≤ otherIndex := by
  by_contra earlier
  have isRead := isFirst.front otherIndex other (Nat.lt_of_not_le earlier) wideFirst.inTexts
  exact wideFirst.unread (isRead.of_atMost usable wideUsable atMost)

end

/-! ## Rows -/

/-- Of two indices, the place of the smaller one is read first. -/
theorem precedes_or_eq_of_le
    {rows : List (List Cell)}
    {index otherIndex : Nat}
    {place other : PlacedCell}
    (stands : (placesOf rows)[index]? = some place)
    (otherStands : (placesOf rows)[otherIndex]? = some other)
    (le : index ≤ otherIndex) :
    place.Precedes other ∨ place = other := by
  rcases Nat.lt_or_eq_of_le le with lt | rfl
  · obtain ⟨within, rfl⟩ := List.getElem?_eq_some_iff.mp stands
    obtain ⟨otherWithin, rfl⟩ := List.getElem?_eq_some_iff.mp otherStands
    exact .inl (List.pairwise_iff_getElem.mp (pairwise_placesOf rows) _ _ within otherWithin lt)
  · exact .inr (Option.some.inj (stands.symm.trans otherStands))

/-- A cell is only reported if its text is the first unread one. -/
theorem isFirstUnread_of_decode
    {functions : Elementary}
    {tolerance : Number}
    {rows : List (List Cell)}
    {row column : Nat}
    {text : String}
    {mismatch : Mismatch}
    (reported : decode functions (datumOfRows rows) tolerance =
      .error (.codec (.ambiguousCell row column text mismatch))) :
    ∃ index : Nat,
      IsFirstUnread functions tolerance (textsOf rows) index text ∧
        (placesOf rows)[index]? = some ⟨row, column, text⟩ := by
  cases flatOutcome functions tolerance (textsOf rows) with
  | uneven _ decoded =>
      rw [decoded rows rfl] at reported
      cases reported
  | report _ _ _ _ decoded =>
      rw [decoded rows rfl] at reported
      cases reported
  | interrupted fault _ _ _ notCodec decoded =>
      rw [decoded rows rfl] at reported
      exact absurd ⟨_, Except.error.inj reported⟩ notCodec
  | ambiguous index other otherMismatch isFirst decoded =>
      obtain ⟨otherRow, otherColumn, stands, refused⟩ := decoded rows rfl
      rw [refused] at reported
      cases reported
      exact ⟨index, isFirst, stands⟩

/-! ## Values of unknown shape -/

/-- The places are those of the cells of a row. -/
def PlacedInRow (index column : Nat) (places : List PlacedCell) : Prop :=
  ∃ row : List Cell, placedRow index column (row.map Cell.toDatum) = .ok places

/-- The places are those of the cells of rows. -/
def PlacedInRows (index : Nat) (places : List PlacedCell) : Prop :=
  ∃ rows : List (List Cell),
    placedRows index (rows.map fun row => .list (row.map Cell.toDatum)) = .ok places

theorem PlacedInRow.cons
    {index column : Nat}
    {places : List PlacedCell}
    (placed : PlacedInRow index (column + 1) places)
    (cell : Cell) :
    PlacedInRow index column (⟨index, column, cell.content⟩ :: places) := by
  obtain ⟨row, placed⟩ := placed
  refine ⟨cell :: row, ?_⟩
  cases cell <;>
    · show (placedRow index (column + 1) (row.map Cell.toDatum) >>= _) = _
      rw [bind_of_ok placed]
      rfl

theorem PlacedInRow.append
    {index : Nat}
    {first rest : List PlacedCell}
    (firstPlaced : PlacedInRow index 0 first)
    (restPlaced : PlacedInRows (index + 1) rest) :
    PlacedInRows index (first ++ rest) := by
  obtain ⟨row, firstPlaced⟩ := firstPlaced
  obtain ⟨rows, restPlaced⟩ := restPlaced
  refine ⟨row :: rows, ?_⟩
  show (placedRow index 0 (row.map Cell.toDatum) >>= _) = _
  rw [bind_of_ok firstPlaced, bind_of_ok restPlaced]
  rfl

/-- Items that have places have those of cells. -/
theorem yields_placedRow (index column : Nat) (items : List Datum) :
    Yields (PlacedInRow index column) Fault.BlamesNoCell (placedRow index column items) := by
  induction items generalizing column with
  | nil => exact ⟨[], rfl⟩
  | cons item others inductionHypothesis =>
      have behind := inductionHypothesis (column + 1)
      cases item with
      | text content => exact behind.bind fun _ placed => placed.cons (.text content)
      | expression content => exact behind.bind fun _ placed => placed.cons (.expression content)
      | _ => exact nofun

/-- Rows that have places have those of rows of cells. -/
theorem yields_placedRows (index : Nat) (items : List Datum) :
    Yields (PlacedInRows index) Fault.BlamesNoCell (placedRows index items) := by
  induction items generalizing index with
  | nil => exact ⟨[], rfl⟩
  | cons item others inductionHypothesis =>
      have behind := inductionHypothesis (index + 1)
      have front (cells : List Datum) :
          Yields (PlacedInRows index) Fault.BlamesNoCell (do
            let first ← placedRow index 0 cells
            let rest ← placedRows (index + 1) others
            return first ++ rest) :=
        (yields_placedRow index 0 cells).bind fun _ firstPlaced =>
          behind.bind fun _ restPlaced => firstPlaced.append restPlaced
      cases item with
      | list cells => exact front cells
      | record fields => exact front _
      | _ => exact nofun

theorem yields_placedCells (grid : Datum) :
    Yields (PlacedInRows 0) Fault.BlamesNoCell (placedCells grid) := by
  cases grid with
  | list items => exact yields_placedRows 0 items
  | record fields => exact yields_placedRows 0 _
  | _ => exact nofun

/-- A value with cells has those of some rows, and is decoded as these are. -/
theorem exists_rows_of_placedCells
    {grid : Datum}
    {places : List PlacedCell}
    (placed : placedCells grid = .ok places) :
    ∃ rows : List (List Cell),
      placesOf rows = places ∧
        ∀ (functions : Elementary) (tolerance : Number),
          decode functions grid tolerance = decode functions (datumOfRows rows) tolerance := by
  obtain ⟨rows, samePlaces⟩ := (yields_placedCells grid).of_ok placed
  have alsoPlaced : placedCells (datumOfRows rows) = .ok places := samePlaces
  refine ⟨rows, Except.ok.inj ((placedCells_datumOfRows rows).symm.trans alsoPlaced),
    fun functions tolerance => ?_⟩
  unfold decode
  rw [placed, alsoPlaced]

/-- A value is decoded as some rows of cells are, or is refused for its shape. The tolerance has
no part in this. -/
theorem decode_of_shape (grid : Datum) :
    (∃ rows : List (List Cell), ∀ (functions : Elementary) (tolerance : Number),
      decode functions grid tolerance = decode functions (datumOfRows rows) tolerance) ∨
    ∃ fault : Fault, fault.BlamesNoCell ∧ ∀ (functions : Elementary) (tolerance : Number),
      decode functions grid tolerance = .error fault := by
  have shape := yields_placedCells grid
  cases placed : placedCells grid with
  | error fault =>
      rw [placed] at shape
      refine .inr ⟨fault, shape, fun functions tolerance => ?_⟩
      unfold decode
      rw [placed]
      rfl
  | ok places =>
      obtain ⟨rows, -, same⟩ := exists_rows_of_placedCells placed
      exact .inl ⟨rows, same⟩

/-- Under a larger tolerance more is accepted, and nothing else changes. What is verified stays
verified. A value that is decoded has the same report under any two tolerances that decode it,
and a larger one decodes it if a smaller one does. If both report a cell, that of the larger one
is the same or a later one in reading order. -/
theorem decode_of_atMost
    (functions : Elementary)
    (narrower wider : Number)
    (usable : narrower.IsTolerance)
    (wideUsable : wider.IsTolerance)
    (atMost : narrower.AtMost wider) :
    (∀ (text : String) (expected : Number),
      verify functions text expected narrower = .ok true →
        verify functions text expected wider = .ok true) ∧
    (∀ (grid : Datum) (report : DecodeReport),
      decode functions grid narrower = .ok report →
        decode functions grid wider = .ok report) ∧
    (∀ (grid : Datum) (tolerance other : Number) (report otherReport : DecodeReport),
      decode functions grid tolerance = .ok report →
      decode functions grid other = .ok otherReport →
        report = otherReport) ∧
    (∀ (grid : Datum) (row column otherRow otherColumn : Nat) (text otherText : String)
        (mismatch otherMismatch : Mismatch),
      decode functions grid narrower =
        .error (.codec (.ambiguousCell row column text mismatch)) →
      decode functions grid wider =
        .error (.codec (.ambiguousCell otherRow otherColumn otherText otherMismatch)) →
        row < otherRow ∨ (row = otherRow ∧ column ≤ otherColumn)) := by
  refine ⟨fun _ _ => verify_of_atMost usable wideUsable atMost, ?accepted, ?unique, ?reported⟩
  case accepted =>
    intro grid report decoded
    rcases decode_of_shape grid with ⟨rows, same⟩ | ⟨fault, -, refused⟩
    · rw [same] at decoded ⊢
      obtain ⟨even, read, reports⟩ := decode_eq_ok_iff.mp decoded
      exact decode_eq_ok_iff.mpr
        ⟨even, fun text member => (read text member).of_atMost usable wideUsable atMost, reports⟩
    · rw [refused] at decoded
      cases decoded
  case unique =>
    intro grid tolerance other report otherReport decoded otherDecoded
    rcases decode_of_shape grid with ⟨rows, same⟩ | ⟨fault, -, refused⟩
    · rw [same] at decoded otherDecoded
      exact (decode_eq_ok_iff.mp decoded).2.2.unique (decode_eq_ok_iff.mp otherDecoded).2.2
    · rw [refused] at decoded
      cases decoded
  case reported =>
    intro grid row column otherRow otherColumn text otherText mismatch otherMismatch reported
      otherReported
    rcases decode_of_shape grid with ⟨rows, same⟩ | ⟨fault, blamesNoCell, refused⟩
    · rw [same] at reported otherReported
      obtain ⟨index, isFirst, stands⟩ := isFirstUnread_of_decode reported
      obtain ⟨otherIndex, wideFirst, otherStands⟩ := isFirstUnread_of_decode otherReported
      have le := isFirst.le_of_atMost usable wideUsable atMost wideFirst
      rcases precedes_or_eq_of_le stands otherStands le with precedes | samePlace
      · exact precedes.imp_right fun within => ⟨within.1, within.2.le⟩
      · cases samePlace
        exact .inr ⟨rfl, le_rfl⟩
    · rw [refused] at reported
      exact absurd (Except.error.inj reported) (blamesNoCell _ _ _ _)

/-- Fourteen zero cells in two rows, of which one ends with a half too much, the other with two
too much. -/
def excessRows : List (List Cell) :=
  [List.replicate 7 (.text "0") ++ [.text "3/2"], List.replicate 7 (.text "0") ++ [.expression "3"]]

/-- From the usual tolerance to one: a formula for one stays verified, the rows with it are still
decoded, and in the other rows not the first excess is reported, but the second. -/
theorem decode_of_atMost_excessRows :
    defaultTolerance.IsTolerance ∧
      (Number.int 1).IsTolerance ∧
      defaultTolerance.AtMost (.int 1) ∧
      verify sampleLibrary "2/2" (.int 1) (.int 1) = .ok true ∧
      decode sampleLibrary (datumOfRows unitRows) (.int 1) = .ok ⟨"\x01", "00000001", 1⟩ ∧
      (∀ report : DecodeReport,
        decode sampleLibrary (datumOfRows unitRows) (.float 1e-2) = .ok report →
          report.text = "\x01") ∧
      ∃ (mismatch otherMismatch : Mismatch) (row column : Nat),
        decode sampleLibrary (datumOfRows excessRows) defaultTolerance =
            .error (.codec (.ambiguousCell 0 7 "3/2" mismatch)) ∧
          decode sampleLibrary (datumOfRows excessRows) (.int 1) =
            .error (.codec (.ambiguousCell row column "3" otherMismatch)) ∧
          (0 < row ∨ (0 = row ∧ 7 ≤ column)) := by
  have usable := isTolerance_defaultTolerance
  have wideUsable : (Number.int 1).IsTolerance :=
    (requireTolerance_iff _).mp (eq_ok_of_toOption (by decide +kernel))
  have atMost := defaultTolerance_atMost_one
  obtain ⟨verifies, accepted, unique, ordered⟩ :=
    decode_of_atMost sampleLibrary defaultTolerance (.int 1) usable wideUsable atMost
  have verified : verify sampleLibrary "2/2" (.int 1) defaultTolerance = .ok true :=
    eq_ok_of_toOption (by decide +kernel)
  have decoded := decode_unitRows
  have blamed : blamedCell? (decode sampleLibrary (datumOfRows excessRows) defaultTolerance) =
      some (0, 7, "3/2") := by
    decide +kernel
  have wideBlamed : blamedCell? (decode sampleLibrary (datumOfRows excessRows) (.int 1)) =
      some (1, 7, "3") := by
    decide +kernel
  obtain ⟨mismatch, reported⟩ := exists_of_blamedCell? blamed
  obtain ⟨otherMismatch, otherReported⟩ := exists_of_blamedCell? wideBlamed
  refine ⟨usable, wideUsable, atMost, verifies _ _ verified, accepted _ _ decoded, ?_, mismatch,
    otherMismatch, 1, 7, reported, otherReported,
    ordered _ _ _ _ _ _ _ _ _ reported otherReported⟩
  intro report alsoDecoded
  rw [unique _ _ _ _ _ alsoDecoded decoded]

end FormulaGrid
