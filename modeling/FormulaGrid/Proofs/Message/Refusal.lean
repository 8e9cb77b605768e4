import FormulaGrid.Proofs.Message.Tolerance
import FormulaGrid.Proofs.Message.TrustBoundary
import FormulaGrid.Proofs.Variant.Distinctness

/-!
Contract: where a tolerance that may not be used is refused.

Owns:
- the numbers that are no tolerances (`Number.IsUnfit`), which are refused as arguments
  (`requireTolerance_of_isUnfit`);
- a search looks at the tolerance before it can end, whatever it searches for
  (`synthesize_of_refused`), and so does an encoding, even of the empty text
  (`encode_of_refused`);
- a decoding looks at it with the first cell that is not the zero cell. Without such a cell it ends
  with a report (`decode_of_zeros`), so it is the one operation that accepts an unfit tolerance
  (`refuses_unfit`).

The tolerance is only ever looked at where a text is compared. Each operation therefore refuses it
as soon as there is something to compare.
-/

namespace FormulaGrid

/-! ## Tolerances -/

/-- The number is zero, negative, infinite, or not a number at all. -/
def Number.IsUnfit : Number → Prop
  | .int value => value ≤ 0
  | .float value =>
      (value == 0.0) = true ∨ value < 0.0 ∨ value.isInf = true ∨ value.isNaN = true

theorem not_isTolerance_of_isUnfit
    {tolerance : Float}
    (unfit : (Number.float tolerance).IsUnfit) :
    ¬ (Number.float tolerance).IsTolerance := by
  rintro ⟨positive, finite⟩
  obtain ⟨units, count⟩ := finite.exists_units
  have counted : unitsOf (parts tolerance) = some units := count
  have zero : unitsOf (parts 0.0) = some 0 := rfl
  have positiveUnits : 0 < units := (Number.isPositive_iff count).mp positive
  rcases unfit with isZero | negative | infinite | undefined
  · exact absurd ((beq_iff_units counted zero).mp isZero) (Int.ne_of_gt positiveUnits)
  · exact absurd ((lt_iff_units counted zero).mp negative) (Int.not_lt.mpr positiveUnits.le)
  · obtain ⟨sign, same⟩ := exists_infinity_of_isInf infinite
    rw [same] at counted
    cases counted
  · have partsUndefined : (parts tolerance).isNaN = true := undefined
    cases same : parts tolerance with
    | notANumber => rw [same] at counted; cases counted
    | infinity | zero | finite => rw [same] at partsUndefined; cases partsUndefined

theorem requireTolerance_of_isUnfit {tolerance : Number} (unfit : tolerance.IsUnfit) :
    requireTolerance tolerance = .error (Fault.argument (.unfitTolerance tolerance)).reported := by
  cases tolerance with
  | int value =>
      have notPositive : ¬ (Number.int value).isPositive = true :=
        fun positive => absurd (of_decide_eq_true positive) (Int.not_lt.mpr unfit)
      exact if_neg notPositive
  | float value => exact requireTolerance_of_not_isTolerance (not_isTolerance_of_isUnfit unfit)

/-! ## Searches -/

namespace Variant

section

variable {value : Float} {number : Binary} (fields : Binary.ofFloat? value = some number)

include fields

/-- The first of all steps proposes the literal of the target. -/
theorem proposal_zero
    {steps : Steps}
    (formed : stepsOf factorialRatioBound (.float value) Pattern.all = .ok steps) :
    0 < steps.count ∧ steps.proposal 0 = some ⟨binaryLiteral number, .parametric⟩ := by
  obtain ⟨others, -, rfl⟩ := exists_others_of_stepsOf (parametricSteps_of_fields fields) formed
  have five : 0 < (parametricForms (binaryLiteral number)
      (bracketed (Number.float value).isNegative (binaryLiteral number))).length := Nat.succ_pos 4
  exact ⟨Nat.lt_of_lt_of_le five (Nat.le_add_right _ _), rfl⟩

/-- A target without a pool is not zero. -/
theorem toInt?_ne_zero_of_no_pool
    {includeAdvanced : Bool}
    (noPool : standardCatalog.poolForTarget (.float value) includeAdvanced = []) :
    number.toInt? ≠ some 0 := by
  intro isZero
  have whole : (Number.float value).whole? = some 0 :=
    (Number.whole?_of_fields fields).trans isZero
  have filled : standardCatalog.zero.isEmpty = false := rfl
  unfold Catalog.poolForTarget at noPool
  split at noPool
  next one =>
    rw [Number.whole?_eq_some_iff.mpr one] at whole
    cases whole
  next =>
    rw [if_pos (Number.whole?_eq_some_iff.mp whole)] at noPool
    rw [noPool] at filled
    cases filled

end

section

variable {functions : Elementary} {goal : Goal} {fault : Fault}

/-- A text that is new is compared first of all. -/
theorem Progress.consider_of_refused
    {text : String}
    {progress : Progress}
    (refused : requireTolerance goal.tolerance = .error fault)
    (unseen : text ∉ progress.seen)
    (expression : Except Fault Expression) :
    progress.consider functions goal text expression = .error fault := by
  unfold Progress.consider
  rw [if_neg unseen, verify_of_refused refused]
  rfl

/-- At the start all texts but the zero cell are new. -/
theorem Progress.not_mem_seen_start {text : String} (nonzero : text ≠ zeroCell) :
    text ∉ Progress.start.seen :=
  fun inSeen => nonzero (List.mem_singleton.mp inSeen)

variable (refused : requireTolerance goal.tolerance = .error fault)

include refused

/-- A pool is refused with its first expression. -/
theorem searchPool_of_refused
    (wanted : 0 < goal.count)
    (expression : Expression)
    (others : List Expression) :
    searchPool functions goal (expression :: others) Progress.start = .error fault := by
  have notReached : ¬ Progress.start.reached goal = true := Progress.not_reached_of_lt wanted
  have unseen := Progress.not_mem_seen_start expression.isCellText.2.2
  rw [searchPool, if_neg notReached, Progress.consider_of_refused refused unseen]
  rfl

/-- Steps are refused with the first one, if it proposes something else than the zero cell. -/
theorem searchSteps_of_refused
    {steps : Steps}
    {candidate : Candidate}
    {budget : Budget}
    (filled : 0 < steps.count)
    (affordable : (budget.spent : Int) < budget.limit)
    (proposed : steps.proposal 0 = some candidate)
    (nonzero : candidate.text ≠ zeroCell) :
    searchSteps functions goal steps 0 steps.count budget Progress.start = .error fault := by
  have unseen := Progress.not_mem_seen_start nonzero
  obtain ⟨count, same⟩ := Nat.exists_eq_add_of_lt filled
  have paid : budget.spend = .ok { budget with spent := budget.spent + 1 } :=
    if_neg (Int.not_le.mpr affordable)
  rw [same, Nat.zero_add, searchSteps, paid]
  dsimp only
  rw [proposed]
  dsimp only
  rw [Progress.consider_of_refused refused unseen]
  rfl

/-- A search is refused with the first expression of its pool. If it has no pool, it is refused
with the literal of the target, which is not the zero cell because zero has a pool. -/
theorem search_of_refused
    (finite : goal.target.isFinite = true)
    (wanted : 0 < goal.count)
    (includeAdvanced : Bool)
    {attempts : Nat}
    (affordable : 0 < attempts) :
    search functions goal includeAdvanced attempts = .error fault := by
  obtain ⟨number, fields⟩ := exists_ofFloat?_of_isFinite finite
  unfold search
  dsimp only
  cases pool : standardCatalog.poolForTarget (.float goal.target) includeAdvanced with
  | cons expression others =>
      rw [searchPool_of_refused refused wanted]
      rfl
  | nil =>
      obtain ⟨steps, formed, -⟩ := exists_steps finite
      obtain ⟨filled, proposed⟩ := proposal_zero fields formed
      have nonzero := binaryLiteral_ne_zeroCell fields (toInt?_ne_zero_of_no_pool fields pool)
      have notReached : ¬ Progress.start.reached goal = true := Progress.not_reached_of_lt wanted
      have budgeted : ((0 : Nat) : Int) < attempts := Int.ofNat_lt.mpr affordable
      rw [searchPool, bind_of_ok rfl, if_neg notReached, bind_of_ok formed,
        searchSteps_of_refused refused filled budgeted proposed nonzero]
      rfl

end

/-- A request that is not refused for itself is refused for its tolerance. -/
theorem synthesize_of_refused
    {functions : Elementary}
    {target : Datum}
    {float : Float}
    {request : Request}
    {fault : Fault}
    (refused : requireTolerance request.tolerance = .error fault)
    (isTarget : requireTarget target = .ok float)
    (counted : 1 ≤ request.count)
    (affordable : 1 ≤ request.attempts) :
    synthesize functions target request = .error fault := by
  have wanted : 0 < (request.goal float).count := by
    show 0 < request.count.toNat
    omega
  rw [synthesize_eq_search functions isTarget counted affordable]
  exact search_of_refused refused (isFinite_of_requireTarget isTarget) wanted _ (by omega)

end Variant

/-! ## Encodings -/

theorem resolvedPoolSize_pos (options : EncodingOptions) : 0 < options.resolvedPoolSize := by
  have positive := options.poolSize_pos
  unfold EncodingOptions.resolvedPoolSize
  cases size : options.poolSize with
  | none => exact length_poolForTarget_one_pos options.includeAdvanced
  | some count => exact positive count size

/-- An encoding searches its pool before it looks whether there are bits to write. -/
theorem encode_of_refused
    {functions : Elementary}
    {text : String}
    {options : EncodingOptions}
    {fault : Fault}
    (refused : requireTolerance options.tolerance = .error fault)
    (narrow : AreNarrow text.toList) :
    encode functions text options = .error fault := by
  have counted : 1 ≤ options.poolRequest.count :=
    Int.ofNat_le.mpr (resolvedPoolSize_pos options)
  have searched : Variant.synthesize functions (.int 1) options.poolRequest = .error fault :=
    Variant.synthesize_of_refused refused requireTarget_one counted (by decide : (1 : Int) ≤ 10000)
  unfold encode
  rw [bitsOfText_narrow narrow, bind_of_ok rfl]
  show (Variant.synthesize functions (.int 1) options.poolRequest >>= _) = _
  rw [searched]
  rfl

/-! ## Decodings -/

/-- The report of so many zero cells. -/
def zeroReport (cells : Nat) : DecodeReport where
  text := String.ofList (List.replicate (cells / bitsPerCharacter) '\x00')
  bits := String.ofList (List.replicate cells '0')
  verifiedCells := 0

theorem octetsOf_replicate_zero (count : Nat) :
    octetsOf (List.replicate count '\x00') = List.replicate (bitsPerCharacter * count) '0' := by
  induction count with
  | zero => rfl
  | succ count inductionHypothesis =>
      have first : octet 0 = List.replicate bitsPerCharacter '0' := by decide
      rw [List.replicate_succ, octetsOf, List.flatMap_cons]
      show octet 0 ++ octetsOf (List.replicate count '\x00') = _
      rw [inductionHypothesis, first, List.replicate_append_replicate, Nat.mul_succ, Nat.add_comm]

theorem reports_zeroReport
    {texts : List String}
    (zeros : ∀ text ∈ texts, text = zeroCell)
    (even : texts.length % bitsPerCharacter = 0) :
    (zeroReport texts.length).Reports texts := by
  have bits : texts.map bitOfText = List.replicate texts.length '0' := by
    rw [List.eq_replicate_of_mem zeros, List.map_replicate, List.length_replicate]
    rfl
  refine ⟨?bits, ?text, ?verifiedCells⟩
  case bits =>
    rw [bits]
    rfl
  case text =>
    have narrow :
        AreNarrow (List.replicate (texts.length / bitsPerCharacter) '\x00') := by
      intro character member
      rw [List.eq_of_mem_replicate member]
      decide
    show bitsOfText (String.ofList _) = .ok (String.ofList _)
    rw [bitsOfText_narrow (String.toList_ofList ▸ narrow), String.toList_ofList,
      octetsOf_replicate_zero, Nat.mul_div_cancel' (Nat.dvd_of_mod_eq_zero even)]
  case verifiedCells =>
    have noOne : '1' ∉ List.replicate texts.length '0' :=
      fun one => absurd (List.eq_of_mem_replicate one) (by decide)
    rw [bits]
    exact (List.count_eq_zero.mpr noOne).symm

/-- Zero cells alone are decoded under every tolerance. -/
theorem decode_of_zeros
    {functions : Elementary}
    {rows : List (List Cell)}
    (zeros : ∀ text ∈ textsOf rows, text = zeroCell)
    (even : (textsOf rows).length % bitsPerCharacter = 0)
    (tolerance : Number) :
    decode functions (datumOfRows rows) tolerance = .ok (zeroReport (textsOf rows).length) :=
  decode_eq_ok_iff.mpr
    ⟨even, fun text member => .inl (zeros text member), reports_zeroReport zeros even⟩

/-- A tolerance that is zero, negative, infinite or not a number is refused by every operation
that compares: by each verification and each comparison of two formulas, by each search that is
not refused for its other arguments, and by each encoding of a text of narrow characters. A
decoding refuses it just if one of its cells is not the zero cell. Otherwise it compares nothing,
and ends with the report of zeros alone. All refuse it with the same fault of a value, which names
the tolerance unless this has too many digits. -/
theorem refuses_unfit
    (functions : Elementary)
    (tolerance : Number)
    (unfit : tolerance.IsUnfit) :
    let refusal := (Fault.argument (.unfitTolerance tolerance)).reported
    refusal.concernsValue = true ∧
    (∀ value : Float, tolerance = .float value →
      refusal = .argument (.unfitTolerance tolerance)) ∧
    (∀ (text : String) (expected : Number),
      verify functions text expected tolerance = .error refusal) ∧
    (∀ first second : String,
      equivalent functions first second tolerance = .error refusal) ∧
    (∀ (target : Datum) (float : Float) (request : Variant.Request),
      Variant.requireTarget target = .ok float →
      request.tolerance = tolerance →
      1 ≤ request.count →
      1 ≤ request.attempts →
        Variant.synthesize functions target request = .error refusal) ∧
    (∀ (text : String) (options : EncodingOptions),
      AreNarrow text.toList →
      options.tolerance = tolerance →
        encode functions text options = .error refusal) ∧
    (∀ (grid : Datum) (cells : List PlacedCell),
      placedCells grid = .ok cells →
      cells.length % bitsPerCharacter = 0 →
        ((∃ cell ∈ cells, cell.text ≠ zeroCell) →
          decode functions grid tolerance = .error refusal) ∧
        ((∀ cell ∈ cells, cell.text = zeroCell) →
          decode functions grid tolerance = .ok (zeroReport cells.length))) := by
  have refused := requireTolerance_of_isUnfit unfit
  refine ⟨concernsValue_of_argument _, ?named, verify_of_refused refused,
    equivalent_of_refused refused, ?searches, ?encodes, ?decodes⟩
  case named =>
    rintro value rfl
    rfl
  case searches =>
    rintro target float request isTarget rfl counted affordable
    exact Variant.synthesize_of_refused refused isTarget counted affordable
  case encodes =>
    rintro text options narrow rfl
    exact encode_of_refused refused narrow
  case decodes =>
    intro grid cells placed even
    obtain ⟨rows, rfl, same⟩ := exists_rows_of_placedCells placed
    rw [same]
    refine ⟨fun ⟨cell, member, nonzero⟩ => ?_, fun zeros => ?_⟩
    · refine decode_of_refused refused (length_placesOf rows ▸ even) fun zeros => nonzero ?_
      exact (forall_placesOf_iff (· = zeroCell)).mpr zeros cell member
    · have allZero : ∀ text ∈ textsOf rows, text = zeroCell :=
        List.forall_mem_map.mpr ((forall_placesOf_iff (· = zeroCell)).mp zeros)
      rw [length_placesOf, ← length_textsOf] at even ⊢
      exact decode_of_zeros allZero even tolerance

/-- The tolerance zero, in all operations: the empty text is not encoded under it, and the ragged
rows are not decoded. -/
theorem refuses_unfit_zero :
    ∃ (options : EncodingOptions) (cells : List PlacedCell),
      (Number.float 0.0).IsUnfit ∧
        verify sampleLibrary "1" (.int 1) (.float 0.0) =
          .error (.argument (.unfitTolerance (.float 0.0))) ∧
        equivalent sampleLibrary "1" "1" (.float 0.0) =
          .error (.argument (.unfitTolerance (.float 0.0))) ∧
        Variant.requireTarget (.float (-0.1)) = .ok (-0.1) ∧
        Variant.synthesize sampleLibrary (.float (-0.1)) { tolerance := .float 0.0 } =
          .error (.argument (.unfitTolerance (.float 0.0))) ∧
        EncodingOptions.make 5 false none (.float 0.0) = .ok options ∧
        AreNarrow "".toList ∧
        encode sampleLibrary "" options = .error (.argument (.unfitTolerance (.float 0.0))) ∧
        placedCells (datumOfRows raggedRows) = .ok cells ∧
        cells.length % bitsPerCharacter = 0 ∧
        decode sampleLibrary (datumOfRows raggedRows) (.float 0.0) =
          .error (.argument (.unfitTolerance (.float 0.0))) := by
  have unfit : (Number.float 0.0).IsUnfit := .inl rfl
  obtain ⟨options, isMade, isZero⟩ : ∃ options : EncodingOptions,
      EncodingOptions.make 5 false none (.float 0.0) = .ok options ∧
        options.tolerance = .float 0.0 :=
    ⟨_, rfl, rfl⟩
  have isTarget : Variant.requireTarget (.float (-0.1)) = .ok (-0.1) := by rfl
  have narrow : AreNarrow "".toList := nofun
  have placed := placedCells_datumOfRows raggedRows
  have even : (placesOf raggedRows).length % bitsPerCharacter = 0 := by decide
  obtain ⟨-, -, verifies, compares, searches, encodes, decodes⟩ :=
    refuses_unfit sampleLibrary (.float 0.0) unfit
  exact ⟨options, placesOf raggedRows, unfit, verifies "1" (.int 1), compares "1" "1", isTarget,
    searches _ _ _ isTarget rfl (by decide) (by decide), isMade, narrow,
    encodes "" options narrow isZero, placed, even,
    (decodes _ _ placed even).1 ⟨⟨0, 1, "√1"⟩, by decide, by decide⟩⟩

/-- Not every operation refuses the tolerance zero: eight zero cells are decoded under it. -/
theorem decode_zeros_not_refused :
    (Number.float 0.0).IsUnfit ∧
      decode sampleLibrary (datumOfRows [List.replicate 8 (.text "0")]) (.float 0.0) =
        .ok ⟨"\x00", "00000000", 0⟩ ∧
      decode sampleLibrary (datumOfRows [List.replicate 8 (.text "0")]) (.float 0.0) ≠
        .error (.argument (.unfitTolerance (.float 0.0))) := by
  have zeros : ∀ text ∈ textsOf [List.replicate 8 (.text "0")], text = zeroCell := by decide
  have decoded := @decode_of_zeros sampleLibrary _ zeros (by decide) (.float 0.0)
  have report : zeroReport 8 = ⟨"\x00", "00000000", 0⟩ := by rfl
  refine ⟨.inl rfl, decoded.trans (congrArg Except.ok report), ?_⟩
  rw [decoded]
  exact nofun

end FormulaGrid
