import FormulaGrid.Proofs.Console.Replies

/-!
Contract: what encoding prints is what decoding reads.

Owns:
- the outcome behind a reply of success (`exists_of_replyTo`), and the grid behind the
  output of an encoding (`exists_grid_of_run_encode`);
- the cells of a grid that encodes a text have no blanks (`Encodes.hasNoBlank`), so that its
  rows are read back from what is printed;
- decoding the output of encoding prints the text again (`run_decode_of_run_encode`).

The two commands share the text form of the grid and nothing else: neither its width nor
its layout. Decoding takes the width from the first row, and looks at the rows only.
-/

namespace FormulaGrid

/-- The cells of a grid that encodes a text have no blanks. -/
theorem Encodes.hasNoBlank
    {functions : Elementary}
    {text : String}
    {options : EncodingOptions}
    {grid : Grid}
    (encodes : Encodes functions text options grid) :
    grid.HasNoBlank := by
  intro cell member
  rcases encodes.fit cell member with rfl | ⟨-, noBlank, -⟩
  · exact Text.hasNoBlank_iff.mpr (by decide)
  · exact Text.hasNoBlank_iff.mpr noBlank

namespace Console

/-- A reply with the status zero is that to a value, if failures have another one. -/
theorem exists_of_replyTo
    {Value : Type}
    {answered : Answered}
    {action : String}
    {outcome : Except Fault Value}
    {shown : Value → Reply}
    {reply : Reply}
    (replied : replyTo answered action outcome shown = .ok reply)
    (succeeded : reply.status = 0) :
    ∃ value : Value, outcome = .ok value ∧ reply = shown value := by
  cases outcome with
  | ok value => exact ⟨value, rfl, (Except.ok.inj replied).symm⟩
  | error fault =>
      unfold replyTo at replied
      dsimp only at replied
      split at replied
      next =>
        cases replied
        cases succeeded
      next => cases replied

/-- What encoding prints when it succeeds is the text form of the grid, its last line
ended. -/
theorem exists_grid_of_run_encode
    {functions : Elementary}
    {source : Except PathFault String}
    {text : String}
    {width : Int}
    {advanced compact : Bool}
    {tolerance : Float}
    {reply : Reply}
    (replied : Command.run functions source
      (.encode text (some width) advanced compact (some tolerance)) = .ok reply)
    (succeeded : reply.status = 0) :
    ∃ (options : EncodingOptions) (grid : Grid),
      options.tolerance = .float tolerance ∧
        encode functions text options = .ok grid ∧
        reply.output = grid.toText (!compact) ++ "\n" := by
  obtain ⟨grid, outcome, rfl⟩ := exists_of_replyTo replied succeeded
  obtain ⟨options, made, encoded⟩ :
      ∃ options, EncodingOptions.make width advanced none (.float tolerance) = .ok options ∧
        encode functions text options = .ok grid :=
    exists_of_bind_eq_ok outcome
  exact ⟨options, grid, (yields_make width advanced (.float tolerance)).of_ok made, encoded, rfl⟩

/-- The lines that decoding prints after a text if it is asked to report: the numbers of its
characters, of its cells and of those that were verified, one for each bit that is set. -/
def reportOfText (text bits : String) : String :=
  "\nDECODE REPORT:\n" ++
  "  Characters:     " ++ Numeral.natural text.length ++ "\n" ++
  "  Cells:          " ++ Numeral.natural (8 * text.length) ++ "\n" ++
  "  Verified cells: " ++ Numeral.natural (bits.toList.count '1') ++ "\n"

/-- Encoding and decoding go together. If encoding a text succeeds, whatever its width, its
tolerance, its pool and its layout are, then decoding what it has printed succeeds with every
finite tolerance that is not smaller, and prints the text and, if asked for, the report. -/
theorem run_decode_of_run_encode
    (functions : Elementary)
    (source : Except PathFault String)
    (text : String)
    (width : Int)
    (advanced compact : Bool)
    (tolerance wider : Float)
    (reply : Reply)
    (replied : Command.run functions source
      (.encode text (some width) advanced compact (some tolerance)) = .ok reply)
    (succeeded : reply.status = 0)
    (finite : wider.isFinite = true)
    (notSmaller : ¬ wider < tolerance)
    (path : Option String)
    (report : Bool) :
    ∃ bits : String,
      bitsOfText text = .ok bits ∧
        Command.run functions (.ok reply.output) (.decode path report (some wider)) =
          .ok ⟨0, text ++ "\n" ++ if report then reportOfText text bits else ""⟩ := by
  obtain ⟨options, grid, isFloat, encoded, printed⟩ :=
    exists_grid_of_run_encode replied succeeded
  have encodes : Encodes functions text options grid :=
    (yields_encode functions text options).of_ok encoded
  have usable : (Number.float tolerance).IsTolerance := isFloat ▸ encodes.usable
  have widerFinite : (Number.float wider).IsFinite := ⟨wider, rfl, finite⟩
  have atMost : options.tolerance.AtMost (.float wider) := by
    rw [isFloat]
    exact Number.atMost_of_not_lt usable.2 widerFinite notSmaller
  obtain ⟨found, decoded, rfl, written, -, -, verified⟩ :=
    decode_of_encode encoded widerFinite atMost
  -- The grid that is read may have another width, but decoding looks at the rows only.
  have read : Grid.ofText reply.output =
      .ok ⟨grid.rows, Grid.widthOf (grid.rows.map (List.map Datum.text)),
        grid.layout.widthOf⟩ := by
    rw [printed, Grid.ofText_append_newline]
    exact Grid.ofText_toText_of_hasNoBlank encodes.hasNoBlank _
  have cells : found.bits.length = 8 * found.text.length := by
    obtain ⟨-, same⟩ := narrow_of_bitsOfText written
    rw [same, String.length_ofList, length_octetsOf]
    rfl
  have summary : decodeSummary found = reportOfText found.text found.bits := by
    unfold decodeSummary reportOfText
    rw [cells, verified]
  have outcome : (Grid.ofText reply.output >>= fun read =>
      decode functions read.toDatum (.float wider)) = .ok found :=
    (bind_of_ok read _).trans decoded
  refine ⟨found.bits, written, ?_⟩
  show replyTo ⟨true, false⟩ "Decoding failed" (Grid.ofText reply.output >>= fun read =>
    decode functions read.toDatum (.float wider)) _ = _
  rw [outcome, ← summary]
  rfl

/-- The sample message is encoded in rows of five cells, and what is printed is decoded under
the tolerance one. -/
theorem run_decode_of_run_encode_sampleMessage :
    ∃ reply : Reply,
      Command.run sampleLibrary (.ok "")
          (.encode sampleMessage (some 5) false false (some 1e-4)) = .ok reply ∧
        reply.status = 0 ∧
        (1.0 : Float).isFinite = true ∧
        ¬ (1.0 : Float) < 1e-4 ∧
        Command.run sampleLibrary (.ok reply.output) (.decode none true (some 1.0)) =
          .ok ⟨0, "\x00Aÿ\n\nDECODE REPORT:\n  Characters:     3\n  Cells:          24\n" ++
            "  Verified cells: 10\n"⟩ := by
  obtain ⟨options, grid, made, -, encoded⟩ := exists_encode_sampleMessage
  have outcome : (EncodingOptions.make 5 false none (.float 1e-4) >>=
      encode sampleLibrary sampleMessage) = .ok grid :=
    (bind_of_ok made _).trans encoded
  have replied : Command.run sampleLibrary (.ok "")
      (.encode sampleMessage (some 5) false false (some 1e-4)) =
        .ok (.success (grid.toText true ++ "\n")) := by
    show replyTo _ _ (EncodingOptions.make 5 false none (.float 1e-4) >>=
      encode sampleLibrary sampleMessage) _ = _
    rw [outcome]
    rfl
  have finite : (1.0 : Float).isFinite = true := by decide +kernel
  have notSmaller : ¬ (1.0 : Float) < 1e-4 := by decide +kernel
  obtain ⟨bits, written, decoded⟩ :=
    run_decode_of_run_encode sampleLibrary (.ok "") sampleMessage 5 false false 1e-4 1.0 _
      replied rfl finite notSmaller none true
  rw [Except.ok.inj (written.symm.trans bitsOfText_sampleMessage)] at decoded
  exact ⟨_, replied, rfl, finite, notSmaller, decoded⟩

end Console

end FormulaGrid
