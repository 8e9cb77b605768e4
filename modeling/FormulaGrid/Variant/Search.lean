import FormulaGrid.Agreement
import FormulaGrid.Catalog.Standard
import FormulaGrid.Variant.Budget

/-!
Contract: the search for different notations of a target.

Owns:
- what a search has found so far (`Progress`) and the consideration of one more
  notation;
- the two stages of a search: the pool of the catalog, then the steps of all
  families on a budget;
- requests, their refusal, and the whole search (`synthesize`).

A notation is accepted if its text has not been considered before and its value
agrees with the target. The search ends with the last notation wanted.
-/

namespace FormulaGrid.Variant

/-- What is looked for: notations that agree with the target. -/
structure Goal where
  target : Float
  tolerance : Number
  count : Nat

/-- What has been found: the accepted expressions in order, the texts that need
not be considered again, and how many proposals were turned down. -/
structure Progress where
  accepted : List Expression
  seen : List String
  rejected : Nat

namespace Progress

/-- Nothing has been found; the zero cell is never considered. -/
def start : Progress :=
  ⟨[], [zeroCell], 0⟩

def reached (goal : Goal) (progress : Progress) : Bool :=
  progress.accepted.length == goal.count

/-- Consider a notation: accept it, as the expression made for it, or turn it
down. A text that does not agree is remembered as well, so it is not tested again. -/
def consider
    (functions : Elementary)
    (goal : Goal)
    (text : String)
    (expression : Except Fault Expression)
    (progress : Progress) :
    Except Fault Progress :=
  if text ∈ progress.seen then
    .ok { progress with rejected := progress.rejected + 1 }
  else do
    let agrees ← verify functions text (.float goal.target) goal.tolerance
    let seen := text :: progress.seen
    if agrees then
      let accepted ← expression
      return ⟨progress.accepted ++ [accepted], seen, progress.rejected⟩
    else
      return ⟨progress.accepted, seen, progress.rejected + 1⟩

/-- Whether a text that does not agree has been remembered makes no difference to what is
accepted and to the number of those turned down. -/
theorem consider_of_disagrees
    {functions : Elementary}
    {goal : Goal}
    {text : String}
    (disagrees : verify functions text (.float goal.target) goal.tolerance = .ok false)
    (expression : Except Fault Expression)
    (progress : Progress) :
    ∃ seen : List String, progress.consider functions goal text expression =
      .ok ⟨progress.accepted, seen, progress.rejected + 1⟩ := by
  unfold consider
  split
  · exact ⟨progress.seen, rfl⟩
  · rw [disagrees]
    exact ⟨text :: progress.seen, rfl⟩

end Progress

/-- Consider the expressions of a pool, until enough have been accepted. -/
def searchPool
    (functions : Elementary)
    (goal : Goal) :
    List Expression → Progress → Except Fault Progress
  | [], progress => .ok progress
  | expression :: others, progress =>
      if progress.reached goal then
        .ok progress
      else do
        let progress ←
          progress.consider functions goal expression.text (.ok expression)
        searchPool functions goal others progress

/-- Go through steps from one with the given index on, `remaining` of them at
most, until enough candidates have been accepted. Each step is paid for first. -/
def searchSteps
    (functions : Elementary)
    (goal : Goal)
    (steps : Steps) :
    (index remaining : Nat) → Budget → Progress → Except Fault (Budget × Progress)
  | _, 0, budget, progress => .ok (budget, progress)
  | index, remaining + 1, budget, progress =>
      match budget.spend with
      | .error fault => .error fault
      | .ok paid =>
          match steps.proposal index with
          | none => searchSteps functions goal steps (index + 1) remaining paid progress
          | some candidate => do
              let expression :=
                Expression.synthesize candidate.text (some candidate.pattern.label)
              let progress ←
                progress.consider functions goal candidate.text expression
              let counted := { paid with produced := progress.accepted.length }
              if progress.reached goal then
                return (counted, progress)
              else
                searchSteps functions goal steps (index + 1) remaining counted progress

/-- The outcome of a search: the expressions in the order in which they were
accepted, how many of them are catalogued, and what it took to find them. -/
structure Synthesis where
  target : Float
  expressions : List Expression
  fromCatalog : Nat
  attempts : Nat
  rejected : Nat

def Synthesis.synthesized (synthesis : Synthesis) : Nat :=
  synthesis.expressions.length - synthesis.fromCatalog

/-- Search the catalog, then all families within a budget of attempts. -/
def search
    (functions : Elementary)
    (goal : Goal)
    (includeAdvanced : Bool)
    (attempts : Nat) :
    Except Fault Synthesis := do
  let target : Number := .float goal.target
  let pool := standardCatalog.poolForTarget target includeAdvanced
  let catalogued ← searchPool functions goal pool Progress.start
  let fresh : Budget := ⟨attempts, target, goal.count, 0, catalogued.accepted.length⟩
  let (budget, progress) ←
    if catalogued.reached goal then
      pure (fresh, catalogued)
    else do
      let steps ← stepsOf factorialRatioBound target Pattern.all
      searchSteps functions goal steps 0 steps.count fresh catalogued
  if progress.reached goal then
    return ⟨goal.target, progress.accepted, catalogued.accepted.length, budget.spent,
      progress.rejected⟩
  else
    throw (Fault.search (.insufficient target progress.accepted.length goal.count)).reported

/-- What is asked of a search besides its target. -/
structure Request where
  count : Int := 5
  tolerance : Number := defaultTolerance
  includeAdvanced : Bool := true
  attempts : Int := 10000

/-- The finite double that a target stands for. -/
def requireTarget : Datum → Except Fault Float
  | .int value =>
      if fitsFloat value then
        .ok (Float.ofInt value)
      else
        .error (.range .integerBeyondFloat)
  | .float value =>
      if value.isFinite then
        .ok value
      else
        .error (.argument (.targetNotFinite (.float value)))
  | other => .error (.kind (.target other.kindName))

/-- The count of notations that may be searched for: at least one. -/
def requireCount (count : Int) : Except Fault Unit :=
  if count < 1 then
    .error (Fault.argument (.smallCount count)).reported
  else
    .ok ()

/-- Search for notations of a target. The target is looked at first, then the
count, then the attempts. -/
def synthesize
    (functions : Elementary)
    (target : Datum)
    (request : Request) :
    Except Fault Synthesis := do
  let target ← requireTarget target
  requireCount request.count
  if request.attempts < 1 then
    throw (Fault.argument (.smallAttempts request.attempts)).reported
  search functions ⟨target, request.tolerance, request.count.toNat⟩ request.includeAdvanced
    request.attempts.toNat

end FormulaGrid.Variant
