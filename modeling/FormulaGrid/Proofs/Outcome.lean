import FormulaGrid.Fault

/-!
Contract: outcomes whose value is good and whose fault is allowed.

Owns:
- the outcomes (`Yields`) and how they go through sequences of steps;
- the faults of texts and grids (`IsCodecFault`, and as reported
  `IsReportedCodecFault`), and the cause that a fault of a formula has
  (`causeOf?`), which is computed;
- the outcome of the same step for all items of a list (`mapM_of_ok`, `mapM_of_error`).
-/

namespace FormulaGrid

/-- The outcome is a good value or an allowed fault. -/
def Yields
    {Value : Type}
    (Good : Value → Prop)
    (Allowed : Fault → Prop) :
    Except Fault Value → Prop
  | .ok value => Good value
  | .error fault => Allowed fault

/-- The fault is one of texts and grids. -/
def IsCodecFault (fault : Fault) : Prop :=
  ∃ cause : CodecFault, fault = .codec cause

/-- The fault is one of texts and grids, or its message is too long to be written. -/
def IsReportedCodecFault (fault : Fault) : Prop :=
  IsCodecFault fault ∨ fault = .argument .overlongInteger

theorem isReportedCodecFault (cause : CodecFault) :
    IsReportedCodecFault (Fault.codec cause).reported :=
  (Fault.codec cause).reported_cases.imp_left fun same => ⟨cause, same⟩

/-- A refused argument is reported as a fault of a value, and not of texts or grids. -/
theorem concernsValue_of_argument (cause : ArgumentFault) :
    (Fault.argument cause).reported.concernsValue = true := by
  rcases (Fault.argument cause).reported_cases with same | same <;> rw [same] <;> rfl

theorem not_isCodecFault_of_argument (cause : ArgumentFault) :
    ¬ IsCodecFault (Fault.argument cause).reported := by
  rcases (Fault.argument cause).reported_cases with same | same <;> rw [same] <;> exact nofun

/-- What goes on from good values to good values yields good values. -/
theorem Yields.bind
    {First Second : Type}
    {GoodFirst : First → Prop}
    {GoodSecond : Second → Prop}
    {Allowed : Fault → Prop}
    {outcome : Except Fault First}
    {next : First → Except Fault Second}
    (yields : Yields GoodFirst Allowed outcome)
    (goesOn : ∀ value, GoodFirst value → Yields GoodSecond Allowed (next value)) :
    Yields GoodSecond Allowed (outcome >>= next) := by
  cases outcome with
  | error fault => exact yields
  | ok value => exact goesOn value yields

theorem Yields.map
    {First Second : Type}
    {GoodFirst : First → Prop}
    {GoodSecond : Second → Prop}
    {Allowed : Fault → Prop}
    {outcome : Except Fault First}
    {function : First → Second}
    (yields : Yields GoodFirst Allowed outcome)
    (keeps : ∀ value, GoodFirst value → GoodSecond (function value)) :
    Yields GoodSecond Allowed (outcome.map function) := by
  cases outcome with
  | error fault => exact yields
  | ok value => exact keeps value yields

/-- What is good and what is allowed may both be widened. -/
theorem Yields.mono
    {Value : Type}
    {Good Wider : Value → Prop}
    {Allowed Broader : Fault → Prop}
    {outcome : Except Fault Value}
    (yields : Yields Good Allowed outcome)
    (wider : ∀ value, Good value → Wider value)
    (broader : ∀ fault, Allowed fault → Broader fault) :
    Yields Wider Broader outcome := by
  cases outcome with
  | error fault => exact broader fault yields
  | ok value => exact wider value yields

theorem Yields.imp
    {Value : Type}
    {Good Wider : Value → Prop}
    {Allowed : Fault → Prop}
    {outcome : Except Fault Value}
    (yields : Yields Good Allowed outcome)
    (wider : ∀ value, Good value → Wider value) :
    Yields Wider Allowed outcome :=
  yields.mono wider fun _ allowed => allowed

theorem eq_ok_of_toOption
    {Value : Type}
    {outcome : Except Fault Value}
    {value : Value}
    (same : outcome.toOption = some value) :
    outcome = .ok value := by
  cases outcome with
  | error fault => cases same
  | ok found => exact congrArg Except.ok (Option.some.inj same)

deriving instance DecidableEq for Number, FormulaFault

/-- The cause of a formula's outcome that is no value. -/
def causeOf? {Value : Type} : Except Fault Value → Option FormulaFault
  | .ok _ => none
  | .error (.formula cause) => some cause
  | .error _ => none

theorem eq_error_of_causeOf?
    {Value : Type}
    {outcome : Except Fault Value}
    {cause : FormulaFault}
    (same : causeOf? outcome = some cause) :
    outcome = .error (.formula cause) := by
  unfold causeOf? at same
  split at same
  next => cases same
  next found => rw [Option.some.inj same]
  next => cases same

theorem Yields.of_ok
    {Value : Type}
    {Good : Value → Prop}
    {Allowed : Fault → Prop}
    {outcome : Except Fault Value}
    {value : Value}
    (yields : Yields Good Allowed outcome)
    (same : outcome = .ok value) :
    Good value := by
  rw [same] at yields
  exact yields

/-- What goes on from a value that is known. -/
theorem bind_of_ok
    {First Second : Type}
    {outcome : Except Fault First}
    {value : First}
    (same : outcome = .ok value)
    (next : First → Except Fault Second) :
    outcome >>= next = next value := by
  rw [same]
  rfl

/-- What goes on to a value has come from one. -/
theorem exists_of_bind_eq_ok
    {First Second : Type}
    {outcome : Except Fault First}
    {next : First → Except Fault Second}
    {result : Second}
    (same : outcome >>= next = .ok result) :
    ∃ value : First, outcome = .ok value ∧ next value = .ok result := by
  cases outcome with
  | error fault => cases same
  | ok value => exact ⟨value, rfl, same⟩

theorem exists_of_map_eq_ok
    {First Second : Type}
    {outcome : Except Fault First}
    {function : First → Second}
    {result : Second}
    (same : outcome.map function = .ok result) :
    ∃ value : First, outcome = .ok value ∧ function value = result := by
  cases outcome with
  | error fault => cases same
  | ok value => exact ⟨value, rfl, Except.ok.inj same⟩

/-- Of the value of an outcome it is good to know that it is the value. -/
theorem yields_self {Value : Type} (outcome : Except Fault Value) :
    Yields (fun value => outcome = .ok value) (fun _ => True) outcome := by
  cases outcome with
  | error => trivial
  | ok => rfl

section

variable {First Second : Type} {step : First → Except Fault Second} {function : First → Second}

/-- Steps that all succeed give all their results. -/
theorem mapM_of_ok
    {items : List First}
    (succeeds : ∀ item ∈ items, step item = .ok (function item)) :
    items.mapM step = .ok (items.map function) := by
  induction items with
  | nil => rfl
  | cons item others inductionHypothesis =>
      obtain ⟨first, behind⟩ := List.forall_mem_cons.mp succeeds
      rw [List.mapM_cons, first, inductionHypothesis behind]
      rfl

/-- The first step that fails gives its fault. -/
theorem mapM_of_error
    {before : List First}
    {item : First}
    {fault : Fault}
    (after : List First)
    (succeeds : ∀ earlier ∈ before, step earlier = .ok (function earlier))
    (fails : step item = .error fault) :
    (before ++ item :: after).mapM step = .error fault := by
  rw [List.mapM_append, mapM_of_ok succeeds, List.mapM_cons, fails]
  rfl

end

end FormulaGrid
