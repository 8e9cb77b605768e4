import FormulaGrid.Proofs.Message.Tolerance

/-!
Contract: encoding what was decoded.

Owns:
- the report of a decoding is that of some texts (`exists_reports_of_decode`), so its text has
  narrow characters only;
- texts with the same bits have the same report (`DecodeReport.Reports.congr`), so the report of
  a text is that of every grid that encodes the text (`Encodes.reports`);
- a report is kept when its text is encoded and decoded again (`encode_decode`).

What is decoded may be written in other formulas, in rows of other lengths, and with another pool.
Encoding replaces all of these and keeps the bits. A tolerance that is smaller than that of the
options may refuse the new formulas, although it has verified the old ones.
-/

namespace FormulaGrid

section

variable {functions : Elementary} {report : DecodeReport}

/-- A report that was decoded is that of texts. -/
theorem exists_reports_of_decode
    {grid : Datum}
    {tolerance : Number}
    (decoded : decode functions grid tolerance = .ok report) :
    ∃ texts : List String, report.Reports texts := by
  rcases decode_of_shape grid with ⟨rows, same⟩ | ⟨fault, -, refused⟩
  · rw [same] at decoded
    exact ⟨textsOf rows, (decode_eq_ok_iff.mp decoded).2.2⟩
  · rw [refused] at decoded
    cases decoded

namespace DecodeReport.Reports

variable {texts : List String} (reports : report.Reports texts)

include reports

theorem narrow : AreNarrow report.text.toList :=
  (narrow_of_bitsOfText reports.text).1

/-- The octets of the text are the bits of the texts. -/
theorem octets : octetsOf report.text.toList = texts.map bitOfText := by
  have written := (narrow_of_bitsOfText reports.text).2
  rw [reports.bits] at written
  exact (String.ofList_injective written).symm

/-- Texts with the same bits have the same report. -/
theorem congr
    {others : List String}
    (same : others.map bitOfText = texts.map bitOfText) :
    report.Reports others :=
  ⟨same ▸ reports.bits, reports.text, same ▸ reports.verifiedCells⟩

end DecodeReport.Reports

variable {options : EncodingOptions} {made : Grid}

/-- The report of a text is that of a grid that encodes the text. -/
theorem Encodes.reports
    {texts : List String}
    (encodes : Encodes functions report.text options made)
    (reports : report.Reports texts) :
    report.Reports made.cells :=
  reports.congr (encodes.bits.trans reports.octets)

/-- So it is the only one that this grid has, under any tolerance. -/
theorem eq_of_reports_cells
    {tolerance : Number}
    {found : DecodeReport}
    (reports : report.Reports made.cells)
    (decoded : decode functions made.toDatum tolerance = .ok found) :
    found = report := by
  rw [toDatum_eq] at decoded
  have foundReports := (decode_eq_ok_iff.mp decoded).2.2
  rw [textsOf_cellsOfGrid] at foundReports
  exact foundReports.unique reports

end

/-- Encoding what was decoded keeps the report. Whatever a value is made of, and under whatever
tolerance it was decoded, the text of its report has narrow characters only. All options for which
there is a pool encode it as a grid with the bits of the report. This grid is decoded to the same
report under every finite tolerance that is not smaller than that of the options, and to no other
one under any tolerance. The text that a grid of a text is decoded to is encoded as this very
grid again. -/
theorem encode_decode (functions : Elementary) :
    (∀ (grid : Datum) (tolerance : Number) (report : DecodeReport),
      decode functions grid tolerance = .ok report →
        AreNarrow report.text.toList ∧
          ∀ (options : EncodingOptions) (pool : Variant.Synthesis),
            Variant.synthesize functions (.int 1) options.poolRequest = .ok pool →
              ∃ made : Grid,
                encode functions report.text options = .ok made ∧
                  made.bits = report.bits ∧
                  (∀ other : Number,
                    other.IsFinite →
                    options.tolerance.AtMost other →
                      decode functions made.toDatum other = .ok report) ∧
                  ∀ (other : Number) (found : DecodeReport),
                    decode functions made.toDatum other = .ok found → found = report) ∧
    (∀ (text : String) (options : EncodingOptions) (made : Grid) (tolerance : Number)
        (report : DecodeReport),
      encode functions text options = .ok made →
      decode functions made.toDatum tolerance = .ok report →
        report.text = text ∧ encode functions report.text options = .ok made) := by
  refine ⟨?decoded, ?encoded⟩
  case decoded =>
    intro grid tolerance report decoded
    obtain ⟨texts, reports⟩ := exists_reports_of_decode decoded
    refine ⟨reports.narrow, fun options pool searched => ?_⟩
    obtain ⟨made, encoded⟩ := exists_encode_of_pool searched reports.narrow
    have encodes := (yields_encode functions report.text options).of_ok encoded
    have reportsCells : report.Reports made.cells := encodes.reports reports
    refine ⟨made, encoded, ?_, fun other finite atMost => ?_,
      fun other found alsoDecoded => eq_of_reports_cells reportsCells alsoDecoded⟩
    · rw [bits_eq, ← reportsCells.bits]
    · obtain ⟨found, foundDecoded, -⟩ := decode_of_encode encoded finite atMost
      rw [foundDecoded, eq_of_reports_cells reportsCells foundDecoded]
  case encoded =>
    intro text options made tolerance report encoded decoded
    have encodes := (yields_encode functions text options).of_ok encoded
    rw [toDatum_eq] at decoded
    have reports := (decode_eq_ok_iff.mp decoded).2.2
    rw [textsOf_cellsOfGrid] at reports
    -- Both texts have the bits of the cells, and bits are those of one text only.
    have written : bitsOfText text = .ok report.bits := by
      rw [bitsOfText_narrow encodes.narrow, reports.bits, encodes.bits]
    have read := textOfBits_bitsOfText reports.text
    rw [textOfBits_bitsOfText written] at read
    have same : report.text = text := (Except.ok.inj read).symm
    exact ⟨same, same ▸ encoded⟩

/-- Seven zero cells and a formula for one are encoded in rows of five cells, and decoded again
under the tolerance one. The grid of a message is made again from its text. -/
theorem encode_decode_unitRows :
    ∃ (options : EncodingOptions) (made grid : Grid) (pool : Variant.Synthesis)
        (report : DecodeReport),
      EncodingOptions.make 5 = .ok options ∧
        Variant.synthesize sampleLibrary (.int 1) options.poolRequest = .ok pool ∧
        (Number.int 1).IsFinite ∧
        options.tolerance.AtMost (.int 1) ∧
        decode sampleLibrary (datumOfRows unitRows) defaultTolerance =
          .ok ⟨"\x01", "00000001", 1⟩ ∧
        encode sampleLibrary "\x01" options = .ok made ∧
        made.bits = "00000001" ∧
        decode sampleLibrary made.toDatum (.int 1) = .ok ⟨"\x01", "00000001", 1⟩ ∧
        encode sampleLibrary sampleMessage options = .ok grid ∧
        decode sampleLibrary grid.toDatum (.int 1) = .ok report ∧
        encode sampleLibrary report.text options = .ok grid := by
  obtain ⟨options, pool, isMade, isDefault, searched, -⟩ :=
    exists_pool_of_verify (by decide : (0 : Int) < 5) verify_sampleLibrary
  have finite := isFinite_one
  have atMost : options.tolerance.AtMost (.int 1) := isDefault ▸ defaultTolerance_atMost_one
  have decoded := decode_unitRows
  obtain ⟨grid, encoded⟩ := exists_encode_of_pool searched narrow_sampleMessage
  obtain ⟨report, gridDecoded, -⟩ := decode_of_encode encoded finite atMost
  obtain ⟨decodes, encodes⟩ := encode_decode sampleLibrary
  obtain ⟨made, madeEncoded, bits, again, -⟩ := (decodes _ _ _ decoded).2 options pool searched
  exact ⟨options, made, grid, pool, report, isMade, searched, finite, atMost, decoded, madeEncoded,
    bits, again (.int 1) finite atMost, encoded, gridDecoded,
    (encodes _ _ _ _ _ encoded gridDecoded).2⟩

/-! ## A smaller tolerance -/

theorem verify_roundedLibrary :
    ∀ expression ∈ standardCatalog.poolForTarget (.int 1) true,
      verify roundedLibrary expression.text (.int 1) defaultTolerance = .ok true := by
  have tested : ∀ expression ∈ standardCatalog.poolForTarget (.int 1) true,
      (verify roundedLibrary expression.text (.int 1) defaultTolerance).toOption =
        some true := by
    decide +kernel
  intro expression member
  exact eq_ok_of_toOption (tested expression member)

/-- Three rows of ones. -/
def oneRows : List (List Cell) :=
  List.replicate 3 (List.replicate 8 (.text "1"))

/-- A grid of a decoded text need not be decoded under the tolerance that decoded the text. The
ones are exact, but among the formulas of the whole pool for one the tangent is a little less. -/
theorem decode_not_kept_oneRows :
    ∃ (options : EncodingOptions) (pool : Variant.Synthesis) (made : Grid),
      decode roundedLibrary (datumOfRows oneRows) (.float 1e-17) =
          .ok ⟨"ÿÿÿ", "111111111111111111111111", 24⟩ ∧
        EncodingOptions.make 8 true = .ok options ∧
        Variant.synthesize roundedLibrary (.int 1) options.poolRequest = .ok pool ∧
        encode roundedLibrary "ÿÿÿ" options = .ok made ∧
        ∀ report : DecodeReport,
          decode roundedLibrary made.toDatum (.float 1e-17) ≠ .ok report := by
  obtain ⟨options, pool, isMade, -, searched, isPool⟩ :=
    exists_pool_of_verify (by decide : (0 : Int) < 8) verify_roundedLibrary
  have decoded : decode roundedLibrary (datumOfRows oneRows) (.float 1e-17) =
      .ok ⟨"ÿÿÿ", "111111111111111111111111", 24⟩ :=
    eq_ok_of_toOption (by decide +kernel)
  obtain ⟨texts, reports⟩ := exists_reports_of_decode decoded
  obtain ⟨made, encoded⟩ := exists_encode_of_pool searched reports.narrow
  refine ⟨options, pool, made, decoded, isMade, searched, encoded, fun report again => ?_⟩
  have inGrid : "tan(π/4)" ∈ made.cells := by
    rw [cells_of_encode searched encoded, isPool]
    decide +kernel
  have refuted : verify roundedLibrary "tan(π/4)" (.int 1) (.float 1e-17) = .ok false :=
    eq_ok_of_toOption (by decide +kernel)
  rw [toDatum_eq] at again
  have read := (decode_eq_ok_iff.mp again).2.1
  rw [textsOf_cellsOfGrid] at read
  rcases read "tan(π/4)" inGrid with zero | confirmed
  · exact absurd zero (by decide)
  · rw [refuted] at confirmed
    cases confirmed

end FormulaGrid
