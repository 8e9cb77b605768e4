import FormulaGrid.Message.Encoding
import FormulaGrid.Proofs.Grid
import FormulaGrid.Proofs.Message.Decoding
import FormulaGrid.Proofs.Variant.Search

/-!
Contract: encoding and decoding are inverse.

Owns:
- the cells of bits stand for these bits (`bits_of_cellsOfBits`);
- the request for the pool of an encoding (`EncodingOptions.poolRequest`), which does not
  depend on the text, and the cells of a grid that draws from the pool
  (`exists_pool_of_encode`, `exists_encode_of_pool`);
- what is known of a grid that encodes a text (`yields_encode`), and when there is one
  (`exists_encode`), as there is with the default pool if it verifies (`exists_pool_of_verify`);
- the grid of a text is decoded to the text under every tolerance that is not smaller,
  and the default options encode every text of narrow characters
  (`decode_encode`).

Decoding verifies each cell again. It succeeds because the search has verified the pool
and because no expression has the text of the zero cell.
-/

namespace FormulaGrid

section

variable {pool : List Expression}

/-- A cell of bits is the zero cell or has the text of an expression of the pool. -/
theorem mem_cellsOfBits
    (nonempty : 0 < pool.length)
    {ones : Nat}
    {bits : List Char}
    {cell : String}
    (member : cell ∈ cellsOfBits pool ones bits) :
    cell = zeroCell ∨ ∃ expression ∈ pool, expression.text = cell := by
  induction bits generalizing ones with
  | nil => cases member
  | cons bit others inductionHypothesis =>
      unfold cellsOfBits at member
      split at member
      next =>
        have place : ones % pool.length < pool.length := Nat.mod_lt _ nonempty
        rw [List.getElem?_eq_getElem place] at member
        rcases List.mem_cons.mp member with rfl | behind
        · exact .inr ⟨_, List.getElem_mem place, rfl⟩
        · exact inductionHypothesis behind
      next =>
        rcases List.mem_cons.mp member with rfl | behind
        · exact .inl rfl
        · exact inductionHypothesis behind

/-- The cells of bits stand for these bits. -/
theorem bits_of_cellsOfBits
    (nonempty : 0 < pool.length)
    (ones : Nat)
    {bits : List Char}
    (areBits : AreBits bits) :
    (cellsOfBits pool ones bits).map bitOfText = bits := by
  induction bits generalizing ones with
  | nil => rfl
  | cons bit others inductionHypothesis =>
      obtain ⟨isBit, behind⟩ := List.forall_mem_cons.mp areBits
      unfold cellsOfBits
      rcases isBit with rfl | rfl
      · show bitOfText zeroCell :: (cellsOfBits pool ones others).map bitOfText = _
        rw [inductionHypothesis ones behind]
        rfl
      · have place : ones % pool.length < pool.length := Nat.mod_lt _ nonempty
        have notZero : bitOfText pool[ones % pool.length].text = '1' :=
          if_neg pool[ones % pool.length].isCellText.2.2
        rw [if_pos (beq_self_eq_true _), List.getElem?_eq_getElem place]
        show bitOfText pool[ones % pool.length].text ::
          (cellsOfBits pool (ones + 1) others).map bitOfText = _
        rw [inductionHypothesis (ones + 1) behind, notZero]

end

/-- The pool that is searched for one is that of the catalog for one. -/
theorem poolForTarget_one (includeAdvanced : Bool) :
    standardCatalog.poolForTarget (.float 1.0) includeAdvanced =
      standardCatalog.poolForTarget (.int 1) includeAdvanced := by
  have float : (Number.float 1.0).equalsInt 1 = true := by decide
  have int : (Number.int 1).equalsInt 1 = true := by decide
  unfold Catalog.poolForTarget
  rw [if_pos float, if_pos int]

theorem requireTarget_one : Variant.requireTarget (.int 1) = .ok 1.0 := by
  have fits : fitsFloat 1 = true := by decide
  have same : Float.ofInt 1 = 1.0 := by decide
  unfold Variant.requireTarget
  dsimp only
  rw [if_pos fits, same]

/-! ## The pool of an encoding -/

/-- What an encoding asks the search for one for. -/
def EncodingOptions.poolRequest (options : EncodingOptions) : Variant.Request where
  count := options.resolvedPoolSize
  tolerance := options.tolerance
  includeAdvanced := options.includeAdvanced

section

variable {functions : Elementary} {text : String} {options : EncodingOptions}

/-- A grid that encodes a text has the cells of its bits, drawn from a pool. -/
theorem exists_pool_of_encode
    {grid : Grid}
    (encoded : encode functions text options = .ok grid) :
    ∃ pool : Variant.Synthesis,
      Variant.synthesize functions (.int 1) options.poolRequest = .ok pool ∧
        AreNarrow text.toList ∧
        grid.width = options.width ∧
        grid.cells = cellsOfBits pool.expressions 0 (octetsOf text.toList) := by
  obtain ⟨bits, written, drawn⟩ := exists_of_bind_eq_ok encoded
  obtain ⟨pool, searched, made⟩ := exists_of_bind_eq_ok drawn
  obtain ⟨narrow, rfl⟩ := narrow_of_bitsOfText written
  have cells := Grid.cells_of_ofCells made
  rw [String.toList_ofList] at cells
  exact ⟨pool, searched, narrow, Grid.width_of_ofCells made, cells⟩

/-- With a pool, every text of narrow characters is encoded. -/
theorem exists_encode_of_pool
    {pool : Variant.Synthesis}
    (searched : Variant.synthesize functions (.int 1) options.poolRequest = .ok pool)
    (narrow : AreNarrow text.toList) :
    ∃ grid : Grid, encode functions text options = .ok grid := by
  have nonempty := ((Variant.yields_synthesize requireTarget_one _).of_ok searched).1
  have filled : "" ∉ cellsOfBits pool.expressions 0 (octetsOf text.toList) := by
    intro member
    rcases mem_cellsOfBits nonempty member with zero | ⟨expression, -, empty⟩
    · exact absurd zero (by decide)
    · exact expression.isCellText.1 empty
  obtain ⟨grid, made⟩ := Grid.exists_ofCells options.width_pos filled
  refine ⟨grid, ?_⟩
  unfold encode
  rw [bitsOfText_narrow narrow, bind_of_ok rfl]
  show (Variant.synthesize functions (.int 1) options.poolRequest >>= _) = _
  rw [bind_of_ok searched, String.toList_ofList, made]

end

/-! ## Grids -/

/-- What is known of a grid that encodes a text: it has the width that the options ask for
and the bits of the text, and its cells stand for these bits under the tolerance of the
options, which may be used. -/
structure Encodes
    (functions : Elementary)
    (text : String)
    (options : EncodingOptions)
    (grid : Grid) :
    Prop where
  narrow : AreNarrow text.toList
  usable : options.tolerance.IsTolerance
  width : grid.width = options.width
  bits : grid.cells.map bitOfText = octetsOf text.toList
  stand : ∀ cell ∈ grid.cells, Stands functions options.tolerance cell
  fit : ∀ cell ∈ grid.cells, cell = zeroCell ∨ IsCellText cell

theorem yields_encode
    (functions : Elementary)
    (text : String)
    (options : EncodingOptions) :
    Yields (Encodes functions text options) (fun _ => True) (encode functions text options) := by
  refine (yields_self (encode functions text options)).imp fun grid encoded => ?_
  obtain ⟨pool, searched, narrow, width, cells⟩ := exists_pool_of_encode encoded
  obtain ⟨nonempty, verified⟩ := (Variant.yields_synthesize requireTarget_one _).of_ok searched
  have accepted (expression : Expression) (member : expression ∈ pool.expressions) :
      options.tolerance.IsTolerance ∧
        Agrees functions expression.text 1.0 options.tolerance :=
    (verify_iff rfl).mp (verified expression member)
  refine ⟨narrow, ?_, width, ?_, ?_, ?_⟩
  · exact (accepted pool.expressions[0] (List.getElem_mem nonempty)).1
  · rw [cells, bits_of_cellsOfBits nonempty 0 (areBits_octetsOf _)]
  · intro cell member
    rw [cells] at member
    rcases mem_cellsOfBits nonempty member with zero | ⟨expression, inPool, rfl⟩
    · exact .inl zero
    · exact .inr (accepted expression inPool).2
  · intro cell member
    rw [cells] at member
    rcases mem_cellsOfBits nonempty member with zero | ⟨expression, -, rfl⟩
    · exact .inl zero
    · exact .inr expression.isCellText

/-- There are eight cells for each character. -/
theorem Encodes.length_cells
    {functions : Elementary}
    {text : String}
    {options : EncodingOptions}
    {grid : Grid}
    (encodes : Encodes functions text options grid) :
    grid.cells.length = bitsPerCharacter * text.length := by
  have lengths := congrArg List.length encodes.bits
  rwa [List.length_map, length_octetsOf, String.length_toList] at lengths

/-- A grid as rows of cells. -/
def cellsOfGrid (grid : Grid) : List (List Cell) :=
  grid.rows.map (List.map Cell.text)

theorem toDatum_eq (grid : Grid) : grid.toDatum = datumOfRows (cellsOfGrid grid) := by
  unfold Grid.toDatum datumOfRows cellsOfGrid
  rw [List.map_map]
  congr 1
  refine List.map_congr_left fun row _ => ?_
  show Datum.list _ = Datum.list _
  rw [List.map_map]
  rfl

theorem flatten_cellsOfGrid (grid : Grid) :
    (cellsOfGrid grid).flatten = grid.cells.map Cell.text := by
  unfold cellsOfGrid Grid.cells
  rw [List.map_flatten]

theorem bitsOfRows_cellsOfGrid (grid : Grid) :
    bitsOfRows (cellsOfGrid grid) = grid.cells.map bitOfText := by
  unfold bitsOfRows
  rw [flatten_cellsOfGrid, List.map_map]
  rfl

/-- The unverified bits of a grid are those that its cells stand for. -/
theorem bits_eq (grid : Grid) : grid.bits = String.ofList (grid.cells.map bitOfText) := by
  unfold Grid.bits bitOfText
  simp only [beq_iff_eq]

/-- A grid that encodes a text is decoded to it, under every tolerance that is not
smaller. -/
theorem decode_of_encode
    {functions : Elementary}
    {text : String}
    {options : EncodingOptions}
    {grid : Grid}
    {tolerance : Number}
    (encoded : encode functions text options = .ok grid)
    (finite : tolerance.IsFinite)
    (atMost : options.tolerance.AtMost tolerance) :
    ∃ report : DecodeReport,
      decode functions grid.toDatum tolerance = .ok report ∧
        report.text = text ∧
        bitsOfText text = .ok report.bits ∧
        report.bits = grid.bits ∧
        grid.cellCount = bitsPerCharacter * text.length ∧
        report.verifiedCells = report.bits.toList.count '1' := by
  have encodes := (yields_encode functions text options).of_ok encoded
  have count := encodes.length_cells
  obtain ⟨narrow, usable, -, bits, stand, -⟩ := encodes
  have even : (cellsOfGrid grid).flatten.length % bitsPerCharacter = 0 := by
    rw [flatten_cellsOfGrid, List.length_map, count, Nat.mul_mod_right]
  have standWider : ∀ cell ∈ (cellsOfGrid grid).flatten,
      Stands functions tolerance cell.content := by
    intro cell member
    rw [flatten_cellsOfGrid] at member
    obtain ⟨content, inGrid, rfl⟩ := List.mem_map.mp member
    exact (stand content inGrid).imp_right fun agrees => agrees.mono atMost
  obtain ⟨found, decoded, written, -⟩ :=
    decode_of_stands (usable.of_atMost atMost finite) even standWider
  rw [bitsOfRows_cellsOfGrid, bits] at decoded written
  have same : found = text := by
    have read := textOfBits_bitsOfText written
    rw [textOfBits_octetsOf narrow, String.ofList_toList] at read
    exact (Except.ok.inj read).symm
  subst same
  rw [← toDatum_eq] at decoded
  refine ⟨_, decoded, rfl, written, ?_, count, ?_⟩
  · rw [bits_eq, bits]
  · rw [String.toList_ofList]

theorem nodup_poolForTarget_one (includeAdvanced : Bool) :
    (Expression.texts (standardCatalog.poolForTarget (.int 1) includeAdvanced)).Nodup := by
  have distinct := standardCatalog.distinct
  have int : (Number.int 1).equalsInt 1 = true := by decide
  unfold Catalog.poolForTarget
  rw [if_pos int]
  refine distinct.sublist (List.Sublist.map _ ?_)
  cases includeAdvanced with
  | false =>
      exact (List.sublist_append_left _ _).trans (List.sublist_append_left _ _)
  | true =>
      exact List.Sublist.append_right (List.sublist_append_left _ _) _

theorem length_poolForTarget_one_pos (includeAdvanced : Bool) :
    0 < (standardCatalog.poolForTarget (.int 1) includeAdvanced).length := by
  cases includeAdvanced <;> decide

section DefaultPool

variable {functions : Elementary} {options : EncodingOptions}

theorem resolvedPoolSize_eq (poolSize : options.poolSize = none) :
    options.resolvedPoolSize =
      (standardCatalog.poolForTarget (.int 1) options.includeAdvanced).length := by
  unfold EncodingOptions.resolvedPoolSize
  rw [poolSize]
  rfl

/-- If the pool for one verifies, a search for as many notations as it has finds it. -/
theorem exists_synthesis
    (poolSize : options.poolSize = none)
    (verified : ∀ expression ∈
      standardCatalog.poolForTarget (.int 1) options.includeAdvanced,
      verify functions expression.text (.int 1) options.tolerance = .ok true) :
    ∃ synthesis : Variant.Synthesis,
      Variant.synthesize functions (.int 1) options.poolRequest = .ok synthesis ∧
        synthesis.expressions =
          standardCatalog.poolForTarget (.int 1) options.includeAdvanced := by
  have agree : ∀ expression ∈ standardCatalog.poolForTarget (.int 1) options.includeAdvanced,
      verify functions expression.text (.float 1.0) options.tolerance = .ok true :=
    fun expression member =>
      (verify_iff rfl).mpr ((verify_iff toFloat?_one).mp (verified expression member))
  have size := resolvedPoolSize_eq poolSize
  have positive := length_poolForTarget_one_pos options.includeAdvanced
  obtain ⟨synthesis, searched, found⟩ :=
    @Variant.search_of_pool functions ⟨1.0, options.tolerance, options.resolvedPoolSize⟩
      _ _ 10000 (poolForTarget_one options.includeAdvanced) agree
      (nodup_poolForTarget_one options.includeAdvanced) size.symm
  have large : ¬ (options.resolvedPoolSize : Int) < 1 := by omega
  have counted : Variant.requireCount options.poolRequest.count = .ok () := if_neg large
  refine ⟨synthesis, ?_, found⟩
  unfold Variant.synthesize
  rw [requireTarget_one]
  dsimp only [bind, Except.bind]
  rw [counted]
  exact searched

/-- The options that want exactly this pool then encode every text of narrow
characters. -/
theorem exists_encode
    {text : String}
    (narrow : AreNarrow text.toList)
    (poolSize : options.poolSize = none)
    (verified : ∀ expression ∈
      standardCatalog.poolForTarget (.int 1) options.includeAdvanced,
      verify functions expression.text (.int 1) options.tolerance = .ok true) :
    ∃ grid : Grid, encode functions text options = .ok grid := by
  obtain ⟨synthesis, synthesized, -⟩ := exists_synthesis poolSize verified
  exact exists_encode_of_pool synthesized narrow

end DefaultPool

/-- Options with a positive width are made. -/
theorem EncodingOptions.exists_make
    {width : Int}
    (wide : 0 < width)
    (includeAdvanced : Bool) :
    ∃ options : EncodingOptions,
      make width includeAdvanced = .ok options ∧
        options.poolSize = none ∧
        options.tolerance = defaultTolerance ∧
        options.includeAdvanced = includeAdvanced := by
  unfold make
  rw [dif_pos wide]
  exact ⟨_, rfl, rfl, rfl, rfl⟩

/-- They find the pool of the catalog for one, if it verifies. -/
theorem exists_pool_of_verify
    {functions : Elementary}
    {width : Int}
    {includeAdvanced : Bool}
    (wide : 0 < width)
    (verified : ∀ expression ∈ standardCatalog.poolForTarget (.int 1) includeAdvanced,
      verify functions expression.text (.int 1) defaultTolerance = .ok true) :
    ∃ (options : EncodingOptions) (pool : Variant.Synthesis),
      EncodingOptions.make width includeAdvanced = .ok options ∧
        options.tolerance = defaultTolerance ∧
        Variant.synthesize functions (.int 1) options.poolRequest = .ok pool ∧
        pool.expressions = standardCatalog.poolForTarget (.int 1) includeAdvanced := by
  obtain ⟨options, isMade, noSize, isDefault, rfl⟩ :=
    EncodingOptions.exists_make wide includeAdvanced
  rw [← isDefault] at verified
  obtain ⟨pool, searched, isPool⟩ := exists_synthesis noSize verified
  exact ⟨options, pool, isMade, isDefault, searched, isPool⟩

/-- Encoding and decoding are inverse. A grid that encodes a text, with any options, is
decoded to the text under every finite tolerance that is not smaller than that of the
options: with the bits of the text, which are those of the grid, eight cells for each
character and as many verified cells as ones. The default pool, if its texts verify
against one, encodes exactly the texts of narrow characters. -/
theorem decode_encode
    (functions : Elementary)
    (text : String)
    (options : EncodingOptions) :
    (∀ (grid : Grid) (tolerance : Number),
      encode functions text options = .ok grid →
      tolerance.IsFinite →
      options.tolerance.AtMost tolerance →
        ∃ report : DecodeReport,
          decode functions grid.toDatum tolerance = .ok report ∧
            report.text = text ∧
            bitsOfText text = .ok report.bits ∧
            report.bits = grid.bits ∧
            grid.cellCount = bitsPerCharacter * text.length ∧
            report.verifiedCells = report.bits.toList.count '1') ∧
    (options.poolSize = none →
      options.tolerance = defaultTolerance →
      (∀ expression ∈ standardCatalog.poolForTarget (.int 1) options.includeAdvanced,
        verify functions expression.text (.int 1) defaultTolerance = .ok true) →
        (AreNarrow text.toList → ∃ grid : Grid, encode functions text options = .ok grid) ∧
        (¬ AreNarrow text.toList → ∃ cause : CodecFault,
          encode functions text options = .error (.codec cause) ∧ cause.family = .encode)) := by
  refine ⟨fun grid tolerance => decode_of_encode, fun poolSize isDefault verified => ⟨?_, ?_⟩⟩
  · intro narrow
    rw [← isDefault] at verified
    exact exists_encode narrow poolSize verified
  · intro notNarrow
    obtain ⟨wide, position, -, -, refused⟩ := bitsOfText_wide notNarrow
    refine ⟨.wideCharacter wide position, ?_, rfl⟩
    unfold encode
    rw [refused]
    rfl

/-- The default pool verifies with the primitives of the samples. -/
theorem verify_sampleLibrary :
    ∀ expression ∈ standardCatalog.poolForTarget (.int 1) false,
      verify sampleLibrary expression.text (.int 1) defaultTolerance = .ok true := by
  have tested : ∀ expression ∈ standardCatalog.poolForTarget (.int 1) false,
      (verify sampleLibrary expression.text (.int 1) defaultTolerance).toOption =
        some true := by
    decide +kernel
  intro expression member
  exact eq_ok_of_toOption (tested expression member)

/-- A text with the first and with the last of the narrow characters. -/
def sampleMessage : String :=
  "\x00Aÿ"

theorem narrow_sampleMessage : AreNarrow sampleMessage.toList := by
  have characters : sampleMessage.toList = ['\x00', 'A', 'ÿ'] := rfl
  intro character member
  rw [characters] at member
  simp only [List.mem_cons, List.not_mem_nil, or_false] at member
  rcases member with rfl | rfl | rfl <;> decide

theorem bitsOfText_sampleMessage : bitsOfText sampleMessage = .ok "000000000100000111111111" := by
  rfl

/-- In rows of five cells the text is encoded. -/
theorem exists_encode_sampleMessage :
    ∃ (options : EncodingOptions) (grid : Grid),
      EncodingOptions.make 5 = .ok options ∧
        options.tolerance = defaultTolerance ∧
        encode sampleLibrary sampleMessage options = .ok grid := by
  obtain ⟨options, pool, isMade, isDefault, searched, -⟩ :=
    exists_pool_of_verify (by decide : (0 : Int) < 5) verify_sampleLibrary
  obtain ⟨grid, made⟩ := exists_encode_of_pool searched narrow_sampleMessage
  exact ⟨options, grid, isMade, isDefault, made⟩

theorem isFinite_one : (Number.int 1).IsFinite :=
  ⟨1.0, toFloat?_one, by decide⟩

theorem defaultTolerance_atMost_one : defaultTolerance.AtMost (.int 1) :=
  ⟨_, _, rfl, rfl, by decide +kernel⟩

/-- In rows of five cells the text is encoded, and decoded again under the tolerance
one. -/
theorem decode_encode_sampleMessage :
    ∃ options : EncodingOptions,
      EncodingOptions.make 5 = .ok options ∧
        (∀ expression ∈ standardCatalog.poolForTarget (.int 1) options.includeAdvanced,
          verify sampleLibrary expression.text (.int 1) defaultTolerance = .ok true) ∧
        AreNarrow sampleMessage.toList ∧
        (Number.int 1).IsFinite ∧
        options.tolerance.AtMost (.int 1) ∧
        ∃ (grid : Grid) (report : DecodeReport),
          encode sampleLibrary sampleMessage options = .ok grid ∧
            decode sampleLibrary grid.toDatum (.int 1) = .ok report ∧
            report.text = sampleMessage := by
  obtain ⟨options, isMade, noSize, isDefault, plain⟩ :=
    EncodingOptions.exists_make (by decide : (0 : Int) < 5) false
  have verified : ∀ expression ∈
      standardCatalog.poolForTarget (.int 1) options.includeAdvanced,
      verify sampleLibrary expression.text (.int 1) defaultTolerance = .ok true := by
    rw [plain]
    exact verify_sampleLibrary
  have finite := isFinite_one
  have atMost : options.tolerance.AtMost (.int 1) := isDefault ▸ defaultTolerance_atMost_one
  obtain ⟨decoded, encoded⟩ := decode_encode sampleLibrary sampleMessage options
  obtain ⟨grid, made⟩ := (encoded noSize isDefault verified).1 narrow_sampleMessage
  obtain ⟨report, read, same, -⟩ := decoded grid (.int 1) made finite atMost
  exact ⟨options, isMade, verified, narrow_sampleMessage, finite, atMost, grid, report, made,
    read, same⟩

end FormulaGrid
