import FormulaGrid.Proofs.Message.Turns

/-!
Contract: what the grid of a text has in common with those of its parts, and with those of other
widths.

Owns:
- the cells of bits that follow others (`cellsOfBits_append`), and the octets of a text that
  follows another (`octetsOf_append`);
- the grid of a text has no cell that depends on what follows, nor on its width
  (`encode_append`).

The pool does not depend on the text, and the turn in it depends on the ones before a bit only.
A text that follows another is written in other expressions than it would be alone, but for the
same bits.
-/

namespace FormulaGrid

/-- Bits that follow others go on with the turn that these leave. -/
theorem cellsOfBits_append
    (pool : List Expression)
    (ones : Nat)
    (front back : List Char) :
    cellsOfBits pool ones (front ++ back) =
      cellsOfBits pool ones front ++ cellsOfBits pool (ones + front.count '1') back := by
  induction front generalizing ones with
  | nil => rfl
  | cons bit others inductionHypothesis =>
      rw [List.cons_append, cellsOfBits, cellsOfBits, List.count_cons]
      split
      next isOne =>
        rw [inductionHypothesis, Nat.add_right_comm]
        rfl
      next isZero =>
        rw [inductionHypothesis]
        rfl

theorem octetsOf_append (front back : List Char) :
    octetsOf (front ++ back) = octetsOf front ++ octetsOf back :=
  List.flatMap_append

/-- A pool is asked for without regard to the width. -/
theorem poolRequest_congr
    {options other : EncodingOptions}
    (tolerance : other.tolerance = options.tolerance)
    (poolSize : other.poolSize = options.poolSize)
    (includeAdvanced : other.includeAdvanced = options.includeAdvanced) :
    other.poolRequest = options.poolRequest := by
  unfold EncodingOptions.poolRequest EncodingOptions.resolvedPoolSize
  rw [tolerance, poolSize, includeAdvanced]

section

variable {functions : Elementary} {options : EncodingOptions}

/-- The unverified bits of a grid that encodes a text are those of the text. -/
theorem bits_of_encode
    {text : String}
    {grid : Grid}
    (encoded : encode functions text options = .ok grid) :
    grid.bits = String.ofList (octetsOf text.toList) := by
  have encodes : Encodes functions text options grid :=
    (yields_encode functions text options).of_ok encoded
  rw [bits_eq, encodes.bits]

/-- A grid that encodes a text has the cells of its bits, drawn from any pool that was found. -/
theorem cells_of_encode
    {pool : Variant.Synthesis}
    (searched : Variant.synthesize functions (.int 1) options.poolRequest = .ok pool)
    {text : String}
    {grid : Grid}
    (encoded : encode functions text options = .ok grid) :
    grid.cells = cellsOfBits pool.expressions 0 (octetsOf text.toList) := by
  obtain ⟨found, same, -, -, cells⟩ := exists_pool_of_encode encoded
  rw [searched] at same
  cases same
  exact cells

end

/-- Encoding is stable. If a text that follows another is encoded with it, both are encoded
alone: the cells of the one in front are the first cells of both, and the bits of both are those
of the one and then those of the other. With another width, and options that are the same
otherwise, a text has the same cells, in rows of the width of which only the last may be
shorter. -/
theorem encode_append
    (functions : Elementary)
    (options : EncodingOptions) :
    (∀ (front back : String) (grid : Grid),
      encode functions (front ++ back) options = .ok grid →
        ∃ frontGrid backGrid : Grid,
          encode functions front options = .ok frontGrid ∧
            frontGrid.cells <+: grid.cells ∧
            encode functions back options = .ok backGrid ∧
            grid.bits = frontGrid.bits ++ backGrid.bits) ∧
    (∀ (text : String) (grid : Grid) (other : EncodingOptions),
      encode functions text options = .ok grid →
      other.tolerance = options.tolerance →
      other.poolSize = options.poolSize →
      other.includeAdvanced = options.includeAdvanced →
        ∃ reshaped : Grid,
          encode functions text other = .ok reshaped ∧
            reshaped.cells = grid.cells ∧
            ∀ (index : Nat) (row : List String), reshaped.rows[index]? = some row →
              0 < row.length ∧
                row.length ≤ other.width ∧
                (index + 1 < reshaped.rows.length → row.length = other.width)) := by
  refine ⟨?extended, ?reshaped⟩
  case extended =>
    intro front back grid encoded
    obtain ⟨pool, searched, narrow, -, cells⟩ := exists_pool_of_encode encoded
    have bits := bits_of_encode encoded
    rw [String.toList_append] at narrow cells bits
    rw [octetsOf_append] at cells bits
    obtain ⟨frontNarrow, backNarrow⟩ := List.forall_mem_append.mp narrow
    obtain ⟨frontGrid, frontEncoded⟩ := exists_encode_of_pool searched frontNarrow
    obtain ⟨backGrid, backEncoded⟩ := exists_encode_of_pool searched backNarrow
    refine ⟨frontGrid, backGrid, frontEncoded, ?_, backEncoded, ?_⟩
    · rw [cells, cells_of_encode searched frontEncoded, cellsOfBits_append]
      exact List.prefix_append _ _
    · rw [bits, bits_of_encode frontEncoded, bits_of_encode backEncoded, String.ofList_append]
  case reshaped =>
    intro text grid other encoded tolerance poolSize includeAdvanced
    obtain ⟨pool, searched, narrow, -, cells⟩ := exists_pool_of_encode encoded
    rw [← poolRequest_congr tolerance poolSize includeAdvanced] at searched
    obtain ⟨reshaped, reshapedEncoded⟩ := exists_encode_of_pool searched narrow
    have encodes : Encodes functions text other reshaped :=
      (yields_encode functions text other).of_ok reshapedEncoded
    refine ⟨reshaped, reshapedEncoded, ?_, fun index row inRows => ?_⟩
    · rw [cells, cells_of_encode searched reshapedEncoded]
    · rw [← encodes.width]
      exact reshaped.layout.2.length_row inRows

/-- The sample message in rows of five cells: its last character is encoded alone, and so are the
others. In rows of three it has the same cells. -/
theorem encode_append_sampleMessage :
    ∃ (options other : EncodingOptions) (grid frontGrid backGrid reshaped : Grid),
      EncodingOptions.make 5 = .ok options ∧
        EncodingOptions.make 3 = .ok other ∧
        other.tolerance = options.tolerance ∧
        other.poolSize = options.poolSize ∧
        other.includeAdvanced = options.includeAdvanced ∧
        "\x00A" ++ "ÿ" = sampleMessage ∧
        encode sampleLibrary sampleMessage options = .ok grid ∧
        encode sampleLibrary "\x00A" options = .ok frontGrid ∧
        frontGrid.cells <+: grid.cells ∧
        encode sampleLibrary "ÿ" options = .ok backGrid ∧
        grid.bits = frontGrid.bits ++ backGrid.bits ∧
        encode sampleLibrary sampleMessage other = .ok reshaped ∧
        reshaped.cells = grid.cells := by
  obtain ⟨options, grid, isMade, -, encoded⟩ := exists_encode_sampleMessage
  obtain ⟨other, otherMade, tolerance, poolSize, includeAdvanced⟩ :
      ∃ other : EncodingOptions,
        EncodingOptions.make 3 = .ok other ∧
          other.tolerance = options.tolerance ∧
          other.poolSize = options.poolSize ∧
          other.includeAdvanced = options.includeAdvanced := by
    cases isMade
    exact ⟨_, rfl, rfl, rfl, rfl⟩
  have parts : "\x00A" ++ "ÿ" = sampleMessage := by decide
  obtain ⟨extended, reshaping⟩ := encode_append sampleLibrary options
  obtain ⟨frontGrid, backGrid, frontEncoded, begins, backEncoded, bits⟩ :=
    extended "\x00A" "ÿ" grid (parts ▸ encoded)
  obtain ⟨reshaped, reshapedEncoded, same, -⟩ :=
    reshaping sampleMessage grid other encoded tolerance poolSize includeAdvanced
  exact ⟨options, other, grid, frontGrid, backGrid, reshaped, isMade, otherMade, tolerance,
    poolSize, includeAdvanced, parts, encoded, frontEncoded, begins, backEncoded, bits, reshapedEncoded, same⟩

end FormulaGrid
