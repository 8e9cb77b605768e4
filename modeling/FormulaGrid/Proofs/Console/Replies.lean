import FormulaGrid.Console.Run
import FormulaGrid.Proofs.Grid.Text
import FormulaGrid.Proofs.Message.Encoding
import FormulaGrid.Proofs.Message.TrustBoundary
import FormulaGrid.Proofs.Variant.Classification

/-!
Contract: which outcomes a command tells, and which leave it.

Owns:
- replies that tell an outcome (`Tells`), and when the reply to an outcome does
  (`tellsUnless_replyTo`);
- the grids that decoding is interrupted at (`Interrupts`);
- what interrupts each command (`run_tells`).

A command is meant to tell every fault. Encoding, generating and identifying do. The
others answer some faults only: evaluating and decoding those of the core, verifying those
of values. A run of raised digits that is too long, and a tolerance that decoding cannot
use, are of neither kind there.
-/

namespace FormulaGrid.Console

/-- The reply tells the outcome: it has the status of the value, or it is the notice of the
fault, with the status one. -/
def Tells
    {Value : Type}
    (status : Value → Nat)
    (outcome : Except Fault Value)
    (reply : Except Fault Reply) :
    Prop :=
  match outcome with
  | .ok value => ∃ shown : Reply, reply = .ok shown ∧ shown.status = status value
  | .error fault => ∃ action : String, reply = .ok (.failure action fault.message)

/-- The reply tells the outcome unless it is interrupted; then the fault leaves the command
with no reply. -/
def TellsUnless
    {Value : Type}
    (interrupted : Prop)
    (status : Value → Nat)
    (outcome : Except Fault Value)
    (reply : Except Fault Reply) :
    Prop :=
  (¬ interrupted → Tells status outcome reply) ∧
    (interrupted → ∃ fault : Fault, outcome = .error fault ∧ reply = .error fault)

section

variable {Value : Type} {answered : Answered} {outcome : Except Fault Value}
  {shown : Value → Reply} {status : Value → Nat}

/-- A reply tells an outcome whose fault the command answers. -/
theorem tells_replyTo
    (action : String)
    (statuses : ∀ value, (shown value).status = status value)
    (covered : Yields (fun _ => True) (fun fault => answered.covers fault = true) outcome) :
    Tells status outcome (replyTo answered action outcome shown) := by
  cases outcome with
  | ok value => exact ⟨shown value, rfl, statuses value⟩
  | error fault => exact ⟨action, if_pos covered⟩

theorem tellsUnless_replyTo
    {interrupted : Prop}
    (action : String)
    (statuses : ∀ value, (shown value).status = status value)
    (covered : ¬ interrupted →
      Yields (fun _ => True) (fun fault => answered.covers fault = true) outcome)
    (passed : interrupted →
      ∃ fault : Fault, outcome = .error fault ∧ answered.covers fault = false) :
    TellsUnless interrupted status outcome (replyTo answered action outcome shown) := by
  refine ⟨fun not => tells_replyTo action statuses (covered not), fun interrupted => ?_⟩
  obtain ⟨fault, rfl, notCovered⟩ := passed interrupted
  refine ⟨fault, rfl, if_neg ?_⟩
  rw [notCovered]
  exact Bool.false_ne_true

end

/-! ## The faults that are answered -/

theorem covers_of_isCodecFault
    {fault : Fault}
    (ofValues : Bool)
    (isCodec : IsCodecFault fault) :
    (Answered.mk true ofValues).covers fault = true := by
  obtain ⟨cause, rfl⟩ := isCodec
  rfl

theorem covers_of_isReportedCodecFault
    {fault : Fault}
    (isReported : IsReportedCodecFault fault) :
    (Answered.mk true true).covers fault = true := by
  rcases isReported with isCodec | rfl
  · exact covers_of_isCodecFault true isCodec
  · rfl

theorem covers_of_isRequestFault
    {fault : Fault}
    (isRequest : Variant.IsRequestFault fault) :
    (Answered.mk true true).covers fault = true := by
  rcases isRequest with ⟨cause, rfl⟩ | ⟨cause, rfl⟩ <;> rfl

theorem not_covers_of_isRunFault
    {fault : Fault}
    (isRun : IsRunFault fault) :
    (Answered.mk true false).covers fault = false := by
  rcases isRun with rfl | ⟨digits, rfl⟩ <;> rfl

theorem yields_make
    (width : Int)
    (includeAdvanced : Bool)
    (tolerance : Number) :
    Yields (fun options => options.tolerance = tolerance) IsReportedCodecFault
      (EncodingOptions.make width includeAdvanced none tolerance) := by
  unfold EncodingOptions.make
  split
  next => rfl
  next => exact isReportedCodecFault _

/-- With a double as its tolerance, encoding has faults of texts, of grids and of requests
only. -/
theorem yields_encode_float
    {functions : Elementary}
    (documented : functions.Documented)
    (text : String)
    {options : EncodingOptions}
    {tolerance : Float}
    (isFloat : options.tolerance = .float tolerance) :
    Yields (fun _ => True) (fun fault => (Answered.mk true true).covers fault = true)
      (encode functions text options) := by
  unfold encode
  refine ((yields_bitsOfText text).mono (fun _ => id)
    fun _ => covers_of_isCodecFault true).bind fun bits _ => ?_
  refine ((Variant.yields_synthesize_float documented requireTarget_one isFloat).mono
    (fun _ => id) fun _ => covers_of_isRequestFault).bind fun pool _ => ?_
  exact (Grid.yields_ofCells _ _).mono (fun _ => id) fun _ => covers_of_isReportedCodecFault

/-- Generating looks at the target and the count as the search does. -/
theorem runGenerate_eq
    (functions : Elementary)
    (target : Float)
    (count : Int)
    (includeAdvanced : Bool)
    (tolerance : Float) :
    runGenerate functions target (some count) includeAdvanced (some tolerance) =
      replyTo ⟨true, true⟩ ("Generation failed for " ++ displayValue target)
        (Variant.synthesize functions (.float target)
          { count, tolerance := .float tolerance, includeAdvanced })
        fun synthesis => .success (synthesisListing target synthesis) := by
  unfold runGenerate
  dsimp only
  congr 1
  by_cases finite : target.isFinite = true
  · have isTarget := Variant.requireTarget_of_isFinite finite
    rw [isTarget]
    dsimp only [bind, Except.bind, present]
    cases counted : Variant.requireCount count with
    | ok => rfl
    | error fault =>
        unfold Variant.synthesize
        rw [isTarget]
        dsimp only [bind, Except.bind]
        rw [counted]
  · unfold Variant.synthesize
    rw [Variant.requireTarget_of_not_isFinite finite]
    rfl

/-- The status of a verdict: one if it has not passed. -/
def verdictStatus (tolerance : Float) (verdict : Verdict) : Nat :=
  if verdict.passed (.float tolerance) then 0 else 1

theorem status_verdictReply
    (text : String)
    (expected tolerance : Float)
    (verdict : Verdict) :
    (verdictReply text expected tolerance verdict).status = verdictStatus tolerance verdict := by
  unfold verdictReply verdictStatus
  cases verdict with
  | noValue cause => rfl
  | value value distance =>
      dsimp only
      split <;> rfl

/-- Decoding the grid is interrupted: its cells are looked at, and the tolerance cannot be
used for one that is not the zero cell, or the first that fails has a run of raised digits
that is too long. -/
def Interrupts
    (functions : Elementary)
    (tolerance : Float)
    (grid : Grid) :
    Prop :=
  grid.cellCount % bitsPerCharacter = 0 ∧
    ((¬ (Number.float tolerance).IsTolerance ∧ ¬ ∀ cell ∈ grid.cells, cell = zeroCell) ∨
      ((Number.float tolerance).IsTolerance ∧
        ∃ (row column : Nat) (cell : Cell),
          IsFirstFailing functions (.float tolerance) (cellsOfGrid grid) row column cell ∧
            ¬ SplitsTyped cell.content))

section

variable {functions : Elementary}
  (documented : functions.Documented)
  (source : Except PathFault String)

include documented

/-! ## Commands that answer all faults -/

theorem tells_encode
    (text : String)
    (width : Int)
    (advanced compact : Bool)
    (tolerance : Float) :
    Tells (fun _ => 0)
      (EncodingOptions.make width advanced none (.float tolerance) >>= encode functions text)
      (Command.run functions source
        (.encode text (some width) advanced compact (some tolerance))) := by
  apply tells_replyTo "Encoding failed" (fun _ => rfl)
  refine ((yields_make width advanced (.float tolerance)).mono (fun _ => id)
    fun _ => covers_of_isReportedCodecFault).bind fun options isFloat => ?_
  exact yields_encode_float documented text isFloat

theorem tells_generate
    (target : Float)
    (count : Int)
    (includeAdvanced : Bool)
    (tolerance : Float) :
    Tells (fun _ => 0)
      (Variant.synthesize functions (.float target)
        { count, tolerance := .float tolerance, includeAdvanced })
      (Command.run functions source
        (.generate target (some count) includeAdvanced (some tolerance))) := by
  show Tells _ _ (runGenerate functions target (some count) includeAdvanced (some tolerance))
  rw [runGenerate_eq]
  apply tells_replyTo _ (fun _ => rfl)
  by_cases finite : target.isFinite = true
  · have isTarget := Variant.requireTarget_of_isFinite finite
    exact (Variant.yields_synthesize_float documented isTarget rfl).mono (fun _ => id)
      fun _ => covers_of_isRequestFault
  · unfold Variant.synthesize
    rw [Variant.requireTarget_of_not_isFinite finite]
    rfl

/-! ## Commands that pass faults on -/

theorem tellsUnless_evaluate (text : String) :
    TellsUnless (¬ SplitsTyped text) (fun _ => 0) (evaluate functions text)
      (Command.run functions source (.evaluate text)) := by
  apply tellsUnless_replyTo _ (fun _ => rfl)
  · intro typed
    refine (yields_evaluate_of_splitsTyped documented (not_not.mp typed)).mono
      (fun _ _ => trivial) fun fault isFormula => ?_
    obtain ⟨cause, rfl⟩ := isFormula
    rfl
  · intro untyped
    obtain ⟨fault, isRun, -, evaluated⟩ := exists_runFault untyped functions
    exact ⟨fault, evaluated, not_covers_of_isRunFault isRun⟩

theorem tellsUnless_verify
    (text : String)
    (expected tolerance : Float) :
    TellsUnless
      ((Number.float tolerance).IsTolerance ∧
        tokenize text = .error (.range .integerBeyondFloat))
      (verdictStatus tolerance)
      (check functions text (.float expected) (.float tolerance))
      (Command.run functions source (.verify text (some expected) (some tolerance))) := by
  apply tellsUnless_replyTo _ (status_verdictReply text expected tolerance)
  · intro notInterrupted
    by_cases usable : (Number.float tolerance).IsTolerance
    case neg =>
      rw [check_of_refused (requireTolerance_of_not_isTolerance usable)]
      rfl
    case pos =>
    by_cases typed : SplitsTyped text
    · have outcome := yields_evaluate_of_splitsTyped documented typed
      cases evaluated : evaluate functions text with
      | ok value =>
          rw [check_of_value usable rfl evaluated]
          trivial
      | error fault =>
          rw [evaluated] at outcome
          obtain ⟨cause, rfl⟩ := outcome
          rw [check_of_fault usable evaluated]
          trivial
    · -- Of the two faults of a run, a numeral that is too long is one of values.
      obtain ⟨fault, isRun, tokenized, evaluated⟩ := exists_runFault typed functions
      rw [check_of_runFault usable evaluated isRun]
      rcases isRun with rfl | ⟨digits, rfl⟩
      · exact absurd ⟨usable, tokenized⟩ notInterrupted
      · rfl
  · rintro ⟨usable, tokenized⟩
    have evaluated : evaluate functions text = .error (.range .integerBeyondFloat) := by
      rw [evaluate, tokenized]
      rfl
    exact ⟨_, check_of_runFault usable evaluated (.inl rfl) _, rfl⟩

/-- The decoding of a grid that does not interrupt it has faults of grids only. -/
theorem yields_decode_of_not_interrupts
    {tolerance : Float}
    {grid : Grid}
    (notInterrupts : ¬ Interrupts functions tolerance grid) :
    Yields (fun _ => True) IsCodecFault (decode functions grid.toDatum (.float tolerance)) := by
  have count : (cellsOfGrid grid).flatten.length = grid.cellCount := by
    rw [flatten_cellsOfGrid, List.length_map, Grid.cellCount]
  rw [toDatum_eq]
  by_cases usable : (Number.float tolerance).IsTolerance
  case pos =>
    refine (yields_decode documented usable fun even row column cell isFirst => ?_).mono
      (fun _ => id) fun fault isDecode => ?_
    · apply not_not.mp
      intro untyped
      exact notInterrupts ⟨count ▸ even, .inr ⟨usable, row, column, cell, isFirst, untyped⟩⟩
    · obtain ⟨cause, same, -⟩ := isDecode
      exact ⟨cause, same⟩
  case neg =>
  by_cases even : grid.cellCount % bitsPerCharacter = 0
  case neg =>
    rw [decode_uneven functions _ _ (count.symm ▸ even)]
    exact ⟨_, rfl⟩
  case pos =>
  -- Zero cells are read without a look at the tolerance.
  have zeros : ∀ cell ∈ (cellsOfGrid grid).flatten, cell.content = zeroCell := by
    rw [flatten_cellsOfGrid, List.forall_mem_map]
    exact not_not.mp fun nonzero => notInterrupts ⟨even, .inl ⟨usable, nonzero⟩⟩
  obtain ⟨text, decoded, -⟩ := decode_of_bits (count.symm ▸ even) fun place member =>
    bitOfCell_of_zero ((forall_placesOf_iff (· = zeroCell)).mpr zeros place member)
  rw [decoded]
  trivial

/-- That of a grid that does has a fault that is not answered. -/
theorem exists_fault_of_interrupts
    {tolerance : Float}
    {grid : Grid}
    (interrupts : Interrupts functions tolerance grid) :
    ∃ fault : Fault,
      decode functions grid.toDatum (.float tolerance) = .error fault ∧
        (Answered.mk true false).covers fault = false := by
  obtain ⟨even, reason⟩ := interrupts
  have evenCells : (cellsOfGrid grid).flatten.length % bitsPerCharacter = 0 := by
    rwa [flatten_cellsOfGrid, List.length_map]
  rw [toDatum_eq]
  rcases reason with ⟨unusable, nonzero⟩ | ⟨usable, row, column, cell, isFirst, untyped⟩
  · refine ⟨_, decode_of_not_isTolerance unusable evenCells ?_, rfl⟩
    rwa [flatten_cellsOfGrid, List.forall_mem_map]
  · obtain ⟨fault, isRun, decoded⟩ :=
      isFirst.decode_of_untyped documented usable evenCells untyped
    exact ⟨fault, decoded, not_covers_of_isRunFault isRun⟩

theorem tellsUnless_decode
    (input : String)
    (path : Option String)
    (report : Bool)
    (tolerance : Float) :
    TellsUnless
      (∃ grid : Grid, Grid.ofText input = .ok grid ∧ Interrupts functions tolerance grid)
      (fun _ => 0)
      (Grid.ofText input >>= fun grid => decode functions grid.toDatum (.float tolerance))
      (Command.run functions (.ok input) (.decode path report (some tolerance))) := by
  apply tellsUnless_replyTo "Decoding failed" (fun _ => rfl)
  · intro notInterrupted
    have outcome := Grid.yields_ofText input
    cases read : Grid.ofText input with
    | error fault =>
        rw [read] at outcome
        exact covers_of_isCodecFault false outcome
    | ok grid =>
        have goesOn : ¬ Interrupts functions tolerance grid :=
          fun interrupts => notInterrupted ⟨grid, read, interrupts⟩
        exact (yields_decode_of_not_interrupts documented goesOn).mono (fun _ => id)
          fun _ => covers_of_isCodecFault false
  · rintro ⟨grid, read, interrupts⟩
    obtain ⟨fault, decoded, notCovered⟩ := exists_fault_of_interrupts documented interrupts
    exact ⟨fault, (bind_of_ok read _).trans decoded, notCovered⟩

end

theorem tells_identity
    (functions : Elementary)
    (source : Except PathFault String)
    (name : String)
    (size : Int) :
    Tells (fun _ => 0) (signature (.text name) size none)
      (Command.run functions source (.identity name (some size))) := by
  apply tells_replyTo "Identity derivation failed" (fun _ => rfl)
  unfold signature
  dsimp only
  split
  next => exact concernsValue_of_argument _
  next =>
    split
    next => rfl
    next => trivial

/-- Every command tells its outcome, whatever it is asked for and whatever it reads, with
these exceptions. Evaluating passes on the fault of a text that neither splits into tokens
nor has a fault of the formula. Verifying passes on that of a run of raised digits that no
double holds. Decoding passes on the fault of a grid that interrupts it. -/
theorem run_tells
    (functions : Elementary)
    (documented : functions.Documented)
    (source : Except PathFault String) :
    (∀ (text : String) (width : Int) (advanced compact : Bool) (tolerance : Float),
      Tells (fun _ => 0)
        (EncodingOptions.make width advanced none (.float tolerance) >>= encode functions text)
        (Command.run functions source
          (.encode text (some width) advanced compact (some tolerance)))) ∧
    (∀ (target : Float) (count : Int) (includeAdvanced : Bool) (tolerance : Float),
      Tells (fun _ => 0)
        (Variant.synthesize functions (.float target)
          { count, tolerance := .float tolerance, includeAdvanced })
        (Command.run functions source
          (.generate target (some count) includeAdvanced (some tolerance)))) ∧
    (∀ (name : String) (size : Int),
      Tells (fun _ => 0) (signature (.text name) size none)
        (Command.run functions source (.identity name (some size)))) ∧
    (∀ text : String,
      TellsUnless (¬ SplitsTyped text) (fun _ => 0) (evaluate functions text)
        (Command.run functions source (.evaluate text))) ∧
    (∀ (text : String) (expected tolerance : Float),
      TellsUnless
        ((Number.float tolerance).IsTolerance ∧
          tokenize text = .error (.range .integerBeyondFloat))
        (verdictStatus tolerance)
        (check functions text (.float expected) (.float tolerance))
        (Command.run functions source (.verify text (some expected) (some tolerance)))) ∧
    ∀ (input : String) (path : Option String) (report : Bool) (tolerance : Float),
      TellsUnless
        (∃ grid : Grid, Grid.ofText input = .ok grid ∧ Interrupts functions tolerance grid)
        (fun _ => 0)
        (Grid.ofText input >>= fun grid => decode functions grid.toDatum (.float tolerance))
        (Command.run functions (.ok input) (.decode path report (some tolerance))) :=
  ⟨tells_encode documented source, tells_generate documented source,
    tells_identity functions source, tellsUnless_evaluate documented source,
    tellsUnless_verify documented source, tellsUnless_decode documented⟩

/-- A grid with the first bit set. -/
def firstBit : Grid :=
  ⟨[["1", "0", "0", "0", "0", "0", "0", "0"]], 8, by decide, by decide, trivial⟩

theorem ofText_firstBit : Grid.ofText "1 0 0 0 0 0 0 0" = .ok firstBit := by
  rfl

theorem interrupts_firstBit (functions : Elementary) : Interrupts functions 0.0 firstBit := by
  have unusable : ¬ (Number.float 0.0).IsTolerance := by
    rintro ⟨positive, -⟩
    exact absurd positive (by decide)
  exact ⟨by decide, .inl ⟨unusable, by decide⟩⟩

/-- A width of zero is told as a fault, and so is the value of a formula. A tolerance of zero
leaves the decoding of the grid. -/
theorem run_tells_firstBit :
    sampleLibrary.Documented ∧
      (∃ action : String,
        Command.run sampleLibrary (.ok "") (.encode "A" (some 0) false false (some 1e-4)) =
          .ok (.failure action "[encode_error] grid width must be at least 1, got 0")) ∧
      SplitsTyped "√4/2" ∧
      Tells (fun _ => 0) (evaluate sampleLibrary "√4/2")
        (Command.run sampleLibrary (.ok "") (.evaluate "√4/2")) ∧
      (∃ grid : Grid,
        Grid.ofText "1 0 0 0 0 0 0 0" = .ok grid ∧ Interrupts sampleLibrary 0.0 grid) ∧
      ∃ fault : Fault,
        Command.run sampleLibrary (.ok "1 0 0 0 0 0 0 0") (.decode none false (some 0.0)) =
          .error fault := by
  obtain ⟨encodes, -, -, evaluates, -, decodes⟩ :=
    run_tells sampleLibrary sampleLibrary_documented (.ok "")
  have typed : SplitsTyped "√4/2" :=
    ShortSuperscripts.splitsTyped (.of_length_le (by decide))
  have interrupted : ∃ grid : Grid,
      Grid.ofText "1 0 0 0 0 0 0 0" = .ok grid ∧ Interrupts sampleLibrary 0.0 grid :=
    ⟨firstBit, ofText_firstBit, interrupts_firstBit sampleLibrary⟩
  obtain ⟨fault, -, passed⟩ := (decodes "1 0 0 0 0 0 0 0" none false 0.0).2 interrupted
  exact ⟨sampleLibrary_documented, encodes "A" 0 false false 1e-4, typed,
    (evaluates "√4/2").1 (not_not.mpr typed), interrupted, fault, passed⟩

/-- Not every fault is told: the refusal of the tolerance zero leaves the decoding of a
grid. -/
theorem run_decode_not_told :
    Command.run sampleLibrary (.ok "1 0 0 0 0 0 0 0") (.decode none false (some 0.0)) =
        .error (.argument (.unfitTolerance (.float 0.0))) ∧
      ¬ ∃ reply : Reply,
        Command.run sampleLibrary (.ok "1 0 0 0 0 0 0 0") (.decode none false (some 0.0)) =
          .ok reply := by
  have passed :
      Command.run sampleLibrary (.ok "1 0 0 0 0 0 0 0") (.decode none false (some 0.0)) =
        .error (.argument (.unfitTolerance (.float 0.0))) := by
    rfl
  refine ⟨passed, ?_⟩
  rw [passed]
  rintro ⟨reply, same⟩
  cases same

end FormulaGrid.Console
