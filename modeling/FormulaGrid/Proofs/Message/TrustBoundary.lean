import FormulaGrid.Proofs.Message.Decoding

/-!
Contract: which faults leave a decoding.

Owns:
- the texts that split into tokens or have a fault of the formula (`SplitsTyped`), which
  evaluate to a value or have such a fault (`yields_evaluate_of_splitsTyped`);
- a first failing cell that splits so is reported; any other one ends the decoding with the
  fault of a run of raised digits (`decode_of_isFirstFailing`), so there are no other faults
  than those of the decoding unless there is such a cell (`yields_decode`);
- a tolerance that may not be used is refused at the first cell that is not the zero cell
  (`decode_of_refused`, `decode_of_not_isTolerance`);
- the decoding of arbitrary cells gives a report or a fault of the decoding, except where
  the first failing cell does not split so (`decode_closed_iff`).

Decoding is meant to be closed for all cells. It is not: a run of raised digits is read as
a whole number before anything looks at the formula, and a number that no double holds has
a fault that a verification does not record.
-/

namespace FormulaGrid

/-- Splitting the text ends with tokens or with a fault of the formula. -/
def SplitsTyped (text : String) : Prop :=
  Yields (fun _ => True) IsFormulaFault (tokenize text)

theorem ShortSuperscripts.splitsTyped
    {text : String}
    (short : ShortSuperscripts text.toList) :
    SplitsTyped text :=
  (yields_tokenize short).imp fun _ _ => trivial

/-- A text that does not split so has the fault of a run, as it has when it is evaluated. -/
theorem exists_runFault
    {text : String}
    (untyped : ¬ SplitsTyped text)
    (functions : Elementary) :
    ∃ fault : Fault,
      IsRunFault fault ∧ tokenize text = .error fault ∧ evaluate functions text = .error fault := by
  have outcome := tokenize_cases text
  unfold SplitsTyped at untyped
  cases tokenized : tokenize text with
  | ok line =>
      rw [tokenized] at untyped
      exact absurd trivial untyped
  | error fault =>
      rw [tokenized] at untyped outcome
      refine ⟨fault, outcome.resolve_left fun lexical => untyped lexical.isFormulaFault, rfl,
        ?_⟩
      rw [evaluate, tokenized]
      rfl

/-- Any other text evaluates to a finite value or to a fault of the formula. -/
theorem yields_evaluate_of_splitsTyped
    {functions : Elementary}
    (documented : functions.Documented)
    {text : String}
    (typed : SplitsTyped text) :
    Yields IsFinite IsFormulaFault (evaluate functions text) := by
  have outcome := tokenize_cases text
  unfold SplitsTyped at typed
  unfold evaluate
  cases tokenized : tokenize text with
  | ok line =>
      rw [tokenized] at outcome
      exact line.yields_read documented outcome
  | error fault =>
      rw [tokenized] at typed
      exact typed

theorem IsRunFault.ne_codec {fault : Fault} (isRun : IsRunFault fault) (cause : CodecFault) :
    fault ≠ .codec cause := by
  rcases isRun with rfl | ⟨digits, rfl⟩ <;> exact Fault.noConfusion

section

variable {functions : Elementary} {tolerance : Number}

/-- A fault that is none of the formula passes through a comparison. -/
theorem check_of_runFault
    {text : String}
    {fault : Fault}
    (usable : tolerance.IsTolerance)
    (evaluated : evaluate functions text = .error fault)
    (isRun : IsRunFault fault)
    (expected : Number) :
    check functions text expected tolerance = .error fault := by
  unfold check attempt
  rw [(requireTolerance_iff tolerance).mpr usable, evaluated]
  rcases isRun with rfl | ⟨digits, rfl⟩ <;> rfl

/-- So it passes through the verification of a cell. -/
theorem bitOfCell_of_fault
    {cell : PlacedCell}
    {fault : Fault}
    (usable : tolerance.IsTolerance)
    (nonzero : cell.text ≠ zeroCell)
    (evaluated : evaluate functions cell.text = .error fault)
    (isRun : IsRunFault fault) :
    bitOfCell functions tolerance cell = .error fault := by
  unfold bitOfCell
  rw [if_neg nonzero, check_of_runFault usable evaluated isRun]
  rfl

variable {rows : List (List Cell)}

/-- Of all cells that fail, the first one decides. If it splits into tokens or with a fault
of the formula, it is reported with its place; otherwise the fault of a run of raised digits
ends the decoding. -/
theorem decode_of_isFirstFailing
    (documented : functions.Documented)
    (usable : tolerance.IsTolerance)
    (even : rows.flatten.length % bitsPerCharacter = 0)
    (notAll : ¬ ∀ cell ∈ rows.flatten, Stands functions tolerance cell.content) :
    ∃ (row column : Nat) (cell : Cell),
      IsFirstFailing functions tolerance rows row column cell ∧
        (SplitsTyped cell.content → ∃ mismatch : Mismatch,
          decode functions (datumOfRows rows) tolerance =
            .error (.codec (.ambiguousCell row column cell.content mismatch))) ∧
        (¬ SplitsTyped cell.content → ∃ fault : Fault,
          IsRunFault fault ∧
            tokenize cell.content = .error fault ∧
            decode functions (datumOfRows rows) tolerance = .error fault) := by
  obtain ⟨row, column, cell, isFirst, -, decoded⟩ := exists_isFirstFailing usable even notAll
  have fails : ¬ Stands functions tolerance cell.content := isFirst.2.1
  refine ⟨row, column, cell, isFirst, fun typed => ?_, fun untyped => ?_⟩
  · have outcome := yields_evaluate_of_splitsTyped documented typed
    obtain ⟨mismatch, reported⟩ :=
      @bitOfCell_of_not_stands functions tolerance ⟨row, column, cell.content⟩ usable
        (fun _ => outcome.imp fun _ _ => trivial) fails
    exact ⟨mismatch, decoded _ reported⟩
  · obtain ⟨fault, isRun, tokenized, evaluated⟩ := exists_runFault untyped functions
    have nonzero : cell.content ≠ zeroCell := (not_or.mp fails).1
    exact ⟨fault, isRun, tokenized,
      decoded _ (bitOfCell_of_fault usable nonzero evaluated isRun)⟩

/-- The place of the first failing cell is the only one. -/
theorem IsFirstFailing.unique
    {row column otherRow otherColumn : Nat}
    {cell other : Cell}
    (isFirst : IsFirstFailing functions tolerance rows row column cell)
    (alsoFirst : IsFirstFailing functions tolerance rows otherRow otherColumn other) :
    cell = other := by
  obtain ⟨⟨cells, inRows, inRow⟩, fails, front⟩ := isFirst
  obtain ⟨⟨otherCells, otherInRows, otherInRow⟩, otherFails, otherFront⟩ := alsoFirst
  have notEarlier : ¬ (row < otherRow ∨ (row = otherRow ∧ column < otherColumn)) :=
    fun earlier => fails (otherFront _ _ cell ⟨cells, inRows, inRow⟩ earlier)
  have notLater : ¬ (otherRow < row ∨ (otherRow = row ∧ otherColumn < column)) :=
    fun earlier => otherFails (front _ _ other ⟨otherCells, otherInRows, otherInRow⟩ earlier)
  obtain ⟨rfl, rfl⟩ : row = otherRow ∧ column = otherColumn := by omega
  rw [inRows] at otherInRows
  cases otherInRows
  rw [inRow] at otherInRow
  exact Option.some.inj otherInRow

/-- If it does not split so, there is the fault of its run. -/
theorem IsFirstFailing.decode_of_untyped
    {row column : Nat}
    {cell : Cell}
    (isFirst : IsFirstFailing functions tolerance rows row column cell)
    (documented : functions.Documented)
    (usable : tolerance.IsTolerance)
    (even : rows.flatten.length % bitsPerCharacter = 0)
    (untyped : ¬ SplitsTyped cell.content) :
    ∃ fault : Fault,
      IsRunFault fault ∧ decode functions (datumOfRows rows) tolerance = .error fault := by
  have notAll : ¬ ∀ cell ∈ rows.flatten, Stands functions tolerance cell.content :=
    fun all => isFirst.2.1 (all cell isFirst.1.mem_flatten)
  obtain ⟨otherRow, otherColumn, other, otherFirst, -, untypedCase⟩ :=
    decode_of_isFirstFailing documented usable even notAll
  obtain ⟨fault, isRun, -, decoded⟩ := untypedCase (isFirst.unique otherFirst ▸ untyped)
  exact ⟨fault, isRun, decoded⟩

/-- If it splits so, there is a report or a fault of the decoding. -/
theorem yields_decode
    (documented : functions.Documented)
    (usable : tolerance.IsTolerance)
    (typed : rows.flatten.length % bitsPerCharacter = 0 →
      ∀ (row column : Nat) (cell : Cell),
        IsFirstFailing functions tolerance rows row column cell → SplitsTyped cell.content) :
    Yields (fun _ => True)
      (fun fault => ∃ cause : CodecFault,
        fault = .codec cause ∧ Family.decode ∈ cause.family.lineage)
      (decode functions (datumOfRows rows) tolerance) := by
  by_cases even : rows.flatten.length % bitsPerCharacter = 0
  case neg =>
    rw [decode_uneven functions rows tolerance even]
    exact ⟨_, rfl, (by decide : Family.decode ∈ Family.decode.lineage)⟩
  case pos =>
  by_cases stand : ∀ cell ∈ rows.flatten, Stands functions tolerance cell.content
  · obtain ⟨text, decoded, -, -⟩ := decode_of_stands usable even stand
    rw [decoded]
    trivial
  · obtain ⟨row, column, cell, isFirst, typedCase, -⟩ :=
      decode_of_isFirstFailing documented usable even stand
    obtain ⟨mismatch, decoded⟩ := typedCase (typed even row column cell isFirst)
    rw [decoded]
    exact ⟨_, rfl, (by decide : Family.decode ∈ Family.ambiguousCell.lineage)⟩

end

/-- A refused tolerance ends the decoding at the first cell that is not the zero cell. -/
theorem decode_of_refused
    {functions : Elementary}
    {rows : List (List Cell)}
    {tolerance : Number}
    {fault : Fault}
    (refused : requireTolerance tolerance = .error fault)
    (even : rows.flatten.length % bitsPerCharacter = 0)
    (nonzero : ¬ ∀ cell ∈ rows.flatten, cell.content = zeroCell) :
    decode functions (datumOfRows rows) tolerance = .error fault := by
  obtain ⟨before, place, after, places, front, fails⟩ :=
    exists_first_without (mt (forall_placesOf_iff (· = zeroCell)).mp nonzero)
  have zeros : ∀ earlier ∈ before,
      bitOfCell functions tolerance earlier = .ok (bitOfText earlier.text) :=
    fun earlier inFront => bitOfCell_of_zero (front earlier inFront)
  have reported : bitOfCell functions tolerance place = .error fault := by
    unfold bitOfCell
    rw [if_neg fails, check_of_refused refused]
    rfl
  exact decode_of_fault even places zeros reported

/-- Doubles that may not be used as the tolerance are refused so. -/
theorem decode_of_not_isTolerance
    {functions : Elementary}
    {rows : List (List Cell)}
    {tolerance : Float}
    (unusable : ¬ (Number.float tolerance).IsTolerance)
    (even : rows.flatten.length % bitsPerCharacter = 0)
    (nonzero : ¬ ∀ cell ∈ rows.flatten, cell.content = zeroCell) :
    decode functions (datumOfRows rows) (.float tolerance) =
      .error (.argument (.unfitTolerance (.float tolerance))) :=
  decode_of_refused (requireTolerance_of_not_isTolerance unusable) even nonzero

/-- The outcome is a report or a fault of the decoding. -/
def IsClosedOutcome (outcome : Except Fault DecodeReport) : Prop :=
  (∃ report : DecodeReport, outcome = .ok report) ∨
    ∃ cause : CodecFault, outcome = .error (.codec cause) ∧ Family.decode ∈ cause.family.lineage

/-- Decoding rows of arbitrary cells gives a report or a fault of the decoding, unless the
first failing cell neither splits into tokens nor with a fault of the formula. If cells
fail, the first of them is reported with its place where it splits so, whatever the reason
for which it fails. Every text without a run of more than 308 raised digits splits so. -/
theorem decode_closed_iff
    (functions : Elementary)
    (documented : functions.Documented)
    (rows : List (List Cell))
    (tolerance : Number)
    (usable : tolerance.IsTolerance) :
    (IsClosedOutcome (decode functions (datumOfRows rows) tolerance) ↔
      ¬ (rows.flatten.length % bitsPerCharacter = 0 ∧
        ∃ (row column : Nat) (cell : Cell),
          IsFirstFailing functions tolerance rows row column cell ∧
            ¬ SplitsTyped cell.content)) ∧
    (rows.flatten.length % bitsPerCharacter = 0 →
      (¬ ∀ cell ∈ rows.flatten, Stands functions tolerance cell.content) →
      ∃ (row column : Nat) (cell : Cell),
        IsFirstFailing functions tolerance rows row column cell ∧
          (SplitsTyped cell.content → ∃ mismatch : Mismatch,
            decode functions (datumOfRows rows) tolerance =
              .error (.codec (.ambiguousCell row column cell.content mismatch)))) ∧
    ∀ text : String, ShortSuperscripts text.toList → SplitsTyped text := by
  refine ⟨?closed, ?reported, fun text short => short.splitsTyped⟩
  case closed =>
    by_cases interrupted : rows.flatten.length % bitsPerCharacter = 0 ∧
      ∃ (row column : Nat) (cell : Cell),
        IsFirstFailing functions tolerance rows row column cell ∧ ¬ SplitsTyped cell.content
    · obtain ⟨even, row, column, cell, isFirst, untyped⟩ := interrupted
      obtain ⟨fault, isRun, decoded⟩ :=
        isFirst.decode_of_untyped documented usable even untyped
      refine iff_of_false ?_ (not_not_intro ⟨even, row, column, cell, isFirst, untyped⟩)
      rintro (⟨report, same⟩ | ⟨cause, same, -⟩)
      · rw [decoded] at same
        cases same
      · rw [decoded] at same
        exact isRun.ne_codec cause (Except.error.inj same)
    · refine iff_of_true ?_ interrupted
      have outcome := yields_decode documented usable fun even row column cell isFirst =>
        not_not.mp fun untyped => interrupted ⟨even, row, column, cell, isFirst, untyped⟩
      cases decoded : decode functions (datumOfRows rows) tolerance with
      | ok report => exact .inl ⟨report, rfl⟩
      | error fault =>
          rw [decoded] at outcome
          obtain ⟨cause, rfl, decodeFamily⟩ := outcome
          exact .inr ⟨cause, rfl, decodeFamily⟩
  case reported =>
    intro even notAll
    obtain ⟨row, column, cell, isFirst, typedCase, -⟩ :=
      decode_of_isFirstFailing documented usable even notAll
    exact ⟨row, column, cell, isFirst, typedCase⟩

/-- Ragged rows with a cell that is no formula, but splits into tokens. Their decoding is
closed. -/
theorem decode_closed_raggedRows :
    sampleLibrary.Documented ∧
      defaultTolerance.IsTolerance ∧
      (∀ cell ∈ raggedRows.flatten, SplitsTyped cell.content) ∧
      IsClosedOutcome (decode sampleLibrary (datumOfRows raggedRows) defaultTolerance) := by
  have usable := isTolerance_defaultTolerance
  have brief : ∀ cell ∈ raggedRows.flatten,
      cell.content.toList.length ≤ longestSuperscript := by
    decide
  obtain ⟨closed, -, shortSplit⟩ :=
    decode_closed_iff sampleLibrary sampleLibrary_documented raggedRows defaultTolerance usable
  have typed : ∀ cell ∈ raggedRows.flatten, SplitsTyped cell.content :=
    fun cell member => shortSplit cell.content (.of_length_le (brief cell member))
  refine ⟨sampleLibrary_documented, usable, typed, closed.mpr ?_⟩
  rintro ⟨-, row, column, cell, ⟨isAt, -, -⟩, untyped⟩
  exact untyped (typed cell isAt.mem_flatten)

/-! ## A run that no double holds -/

/-- A power of one with 400 raised digits. -/
def overlongPower : String :=
  String.ofList ('1' :: List.replicate 400 '⁹')

/-- The power, and seven zero cells. -/
def overlongRows : List (List Cell) :=
  [.text overlongPower :: List.replicate 7 (.text "0")]

theorem length_overlongPower : overlongPower.length = 401 := by
  unfold overlongPower
  rw [String.length_ofList, List.length_cons, List.length_replicate]

theorem tokenize_overlongPower :
    tokenize overlongPower = .error (.range .integerBeyondFloat) := by
  have visible : Text.allBlank ('1' :: List.replicate 400 '⁹') = false := rfl
  have scanned : (match scan true 0 ('1' :: List.replicate 400 '⁹') with
      | .error (.range .integerBeyondFloat) => true
      | _ => false) = true := by
    decide +kernel
  unfold tokenize overlongPower
  rw [String.toList_ofList, visible]
  cases outcome : scan true 0 ('1' :: List.replicate 400 '⁹') with
  | ok tokens => rw [outcome] at scanned; cases scanned
  | error fault =>
      rw [outcome] at scanned
      split at scanned
      next same => cases same; rfl
      next => cases scanned

/-- Decoding is not closed for all cells: the power ends it with the fault of an integer
beyond the range of doubles, which is no fault of the decoding. -/
theorem decode_overlongRows_not_closed :
    defaultTolerance.IsTolerance ∧
      decode sampleLibrary (datumOfRows overlongRows) defaultTolerance =
        .error (.range .integerBeyondFloat) ∧
      ¬ IsClosedOutcome (decode sampleLibrary (datumOfRows overlongRows) defaultTolerance) := by
  have usable := isTolerance_defaultTolerance
  have even : overlongRows.flatten.length % bitsPerCharacter = 0 := by rfl
  have evaluated : evaluate sampleLibrary overlongPower =
      .error (.range .integerBeyondFloat) := by
    rw [evaluate, tokenize_overlongPower]
    rfl
  have nonzero : overlongPower ≠ zeroCell := by
    intro same
    have lengths : overlongPower.length = zeroCell.length := congrArg String.length same
    exact absurd (length_overlongPower.symm.trans lengths) (by decide)
  have failed : bitOfCell sampleLibrary defaultTolerance ⟨0, 0, overlongPower⟩ =
      .error (.range .integerBeyondFloat) :=
    bitOfCell_of_fault usable nonzero evaluated (.inl rfl)
  have decoded : decode sampleLibrary (datumOfRows overlongRows) defaultTolerance =
      .error (.range .integerBeyondFloat) := by
    rw [decode_even _ _ _ even]
    show ((⟨0, 0, overlongPower⟩ :: _ : List PlacedCell).mapM _ >>= _) = _
    rw [List.mapM_cons, failed]
    rfl
  refine ⟨usable, decoded, ?_⟩
  rw [decoded]
  rintro (⟨report, same⟩ | ⟨cause, same, -⟩) <;> cases same

end FormulaGrid
