import FormulaGrid.Console.Command
import FormulaGrid.Console.Folder
import FormulaGrid.Console.Report
import FormulaGrid.Grid.Text
import FormulaGrid.Message.Decoding

/-!
Contract: the running of commands.

Owns:
- the reply of a command: what it prints and its exit status (`Reply`);
- which failures a command answers itself, with a notice and status one; others
  are passed on;
- the running of each command (`Command.run`).
-/

namespace FormulaGrid.Console

/-- What a command prints, and its exit status. -/
structure Reply where
  status : Nat
  output : String
deriving DecidableEq, Repr

/-- A reply of success. -/
def Reply.success (output : String) : Reply :=
  ⟨0, output⟩

/-- A reply of failure: a notice of what failed and why. -/
def Reply.failure (action reason : String) : Reply :=
  ⟨1, failureNotice action reason ++ "\n"⟩

/-- The failures that a command answers itself. -/
structure Answered where
  typed : Bool
  ofValues : Bool

def Answered.covers (answered : Answered) (fault : Fault) : Bool :=
  (answered.typed && fault.family?.isSome) || (answered.ofValues && fault.concernsValue)

/-- Reply to an outcome: print what a success is shown as, answer a failure with a
notice, or pass it on. -/
def replyTo
    {Value : Type}
    (answered : Answered)
    (action : String)
    (outcome : Except Fault Value)
    (shown : Value → Reply) :
    Except Fault Reply :=
  match outcome with
  | .ok value => .ok (shown value)
  | .error fault =>
      if answered.covers fault then
        .ok (.failure action fault.message)
      else
        .error fault

/-- A number that is there, or a failure of what would have been done with it. -/
def present {Value : Type} (cause : KindFault) : Option Value → Except Fault Value
  | some value => .ok value
  | none => .error (.kind cause)

/-- Encode a text without a tolerance, which fails as soon as a pool is called
for. -/
def encodeUnchecked (text : String) (width : Int) (advanced : Bool) : Except Fault Grid := do
  let _ ← EncodingOptions.make width advanced
  let _ ← bitsOfText text
  throw (.kind .noLookupKey)

def runEncode
    (functions : Elementary)
    (text : String)
    (width : Option Int)
    (advanced compact : Bool)
    (tolerance : Option Float) :
    Except Fault Reply :=
  let outcome := do
    let width ← present (.noComparand "<") width
    match tolerance with
    | none => encodeUnchecked text width advanced
    | some tolerance =>
        let options ← EncodingOptions.make width advanced none (.float tolerance)
        encode functions text options
  replyTo ⟨true, true⟩ "Encoding failed" outcome fun grid =>
    .success (grid.toText (!compact) ++ "\n")

/-- The lines that sum up a decoding. -/
def decodeSummary (report : DecodeReport) : String :=
  "\nDECODE REPORT:\n" ++
  "  Characters:     " ++ Numeral.natural report.text.length ++ "\n" ++
  "  Cells:          " ++ Numeral.natural report.bits.length ++ "\n" ++
  "  Verified cells: " ++ Numeral.natural report.verifiedCells ++ "\n"

/-- Decode a grid without a tolerance, which fails where a tolerance that is not
positive is refused. -/
def decodeUnchecked (functions : Elementary) (grid : Datum) : Except Fault DecodeReport :=
  (decode functions grid (.float 0.0)).mapError fun fault =>
    match fault with
    | .argument (.unfitTolerance _) => .kind (.noComparand ">")
    | other => other

/-- Decode the text of a grid and print what it says. -/
def runDecode
    (functions : Elementary)
    (source : Except PathFault String)
    (report : Bool)
    (tolerance : Option Float) :
    Except Fault Reply :=
  match source with
  | .error cause => .ok (.failure "Could not read grid" cause.message)
  | .ok text =>
      let outcome := do
        let grid ← Grid.ofText text
        match tolerance with
        | none => decodeUnchecked functions grid.toDatum
        | some tolerance => decode functions grid.toDatum (.float tolerance)
      replyTo ⟨true, false⟩ "Decoding failed" outcome fun found =>
        .success (found.text ++ "\n" ++ if report then decodeSummary found else "")

def runEvaluate (functions : Elementary) (text : String) : Except Fault Reply :=
  replyTo ⟨true, false⟩ ("Cannot evaluate " ++ Text.quoted text) (evaluate functions text)
    fun value => .success (displayValue value ++ "\n")

/-- The reply to a formula that agrees, or does not agree, with a number. -/
def verdictReply (text : String) (expected tolerance : Float) (verdict : Verdict) : Reply :=
  let failed := "FAIL: " ++ text ++ " != " ++ displayValue expected ++ "\nReason: "
  match verdict with
  | .noValue cause => ⟨1, failed ++ cause.message ++ "\n"⟩
  | .value value distance =>
      if verdict.passed (.float tolerance) then
        .success ("PASS: " ++ text ++ " = " ++ displayValue value ++ "\n")
      else
        ⟨1, failed ++ "evaluates to " ++ displayValue value ++ " (off by " ++
          generalText differenceDigits distance ++ ", tolerance " ++
          generalText toleranceDigits tolerance ++ ")\n"⟩

/-- Compare a formula with nothing, which fails in either case: its value has no
number to be held against, or there is no number to display. -/
def checkAgainstNothing
    (functions : Elementary)
    (text : String)
    (tolerance : Float) :
    Except Fault Reply := do
  requireTolerance (.float tolerance)
  match ← attempt functions text with
  | .ok _ => throw (.kind .noSubtrahend)
  | .error _ => throw (.kind .noDisplayedNumber)

/-- Print whether a formula agrees with a number. The tolerance is looked at
first. -/
def runVerify
    (functions : Elementary)
    (text : String)
    (expected tolerance : Option Float) :
    Except Fault Reply := do
  let answered : Answered := ⟨false, true⟩
  let tolerance ← present (.noComparand ">") tolerance
  match expected with
  | some expected =>
      replyTo answered "Invalid tolerance"
        (check functions text (.float expected) (.float tolerance))
        (verdictReply text expected tolerance)
  | none =>
      replyTo answered "Invalid tolerance" (checkAgainstNothing functions text tolerance) id

def synthesisListing (target : Float) (synthesis : Variant.Synthesis) : String :=
  "Expressions equal to " ++ displayValue target ++ "\n" ++
  String.ofList (List.replicate 50 '=') ++ "\n" ++
  numberedRows synthesis.expressions ++
  "\nCatalog: " ++ Numeral.natural synthesis.fromCatalog ++
  "  Synthesized: " ++ Numeral.natural synthesis.synthesized ++
  "  Attempts: " ++ Numeral.natural synthesis.attempts ++
  "  Rejected: " ++ Numeral.natural synthesis.rejected ++ "\n"

/-- Print different notations of a number. The target is looked at first, then the
count, then the tolerance. -/
def runGenerate
    (functions : Elementary)
    (target : Float)
    (count : Option Int)
    (includeAdvanced : Bool)
    (tolerance : Option Float) :
    Except Fault Reply :=
  let outcome := do
    let target ← Variant.requireTarget (.float target)
    let count ← present (.noComparand "<") count
    Variant.requireCount count
    let tolerance ← present .noLookupKey tolerance
    Variant.synthesize functions (.float target)
      { count, tolerance := .float tolerance, includeAdvanced }
  replyTo ⟨true, true⟩ ("Generation failed for " ++ displayValue target) outcome
    fun synthesis => .success (synthesisListing target synthesis)

def runIdentity (name : String) (size : Option Int) : Except Fault Reply :=
  let outcome := do
    let size ← present (.noComparand "<") size
    signature (.text name) size none
  replyTo ⟨false, true⟩ "Identity derivation failed" outcome
    fun expressions => .success (numberedRows expressions)

/-- The entries of the catalog that are listed. -/
def listedEntries : Listing → Except Fault (List Expression)
  | .everything => .ok standardCatalog.entries
  | .pool kind => standardCatalog.pool kind
  | .unnamed => .error (.argument .unnamedKind)

/-- Print the catalog, or the pool of one kind. -/
def runCatalog (listing : Listing) : Except Fault Reply := do
  let entries ← listedEntries listing
  return .success
    (numberedRows entries ++ "\nTotal: " ++ Numeral.natural entries.length ++
      " expressions\n")

namespace Command

/-- What a command reads: nothing, the standard input, or the file at a path. -/
inductive Source where
  | nothing
  | standardInput
  | file (path : String)
deriving DecidableEq, Repr

/-- Where the text comes from that a command reads. -/
def source : Command → Source
  | decode none _ _ => .standardInput
  | decode (some path) _ _ => .file path
  | _ => .nothing

/-- Run a command on the text that it reads. -/
def run
    (functions : Elementary)
    (text : Except PathFault String) :
    Command → Except Fault Reply
  | encode subject width advanced compact tolerance =>
      runEncode functions subject width advanced compact tolerance
  | decode _ report tolerance => runDecode functions text report tolerance
  | evaluate subject => runEvaluate functions subject
  | verify subject expected tolerance => runVerify functions subject expected tolerance
  | generate target count includeAdvanced tolerance =>
      runGenerate functions target count includeAdvanced tolerance
  | identity name size => runIdentity name size
  | catalog listing => runCatalog listing

/-- Run a command in a working folder. A path with a null character in it cannot
even be looked up. -/
def runIn
    (functions : Elementary)
    (folder : Folder)
    (standardInput : String)
    (command : Command) :
    Except Fault Reply :=
  match command.source with
  | .nothing => command.run functions (.ok "")
  | .standardInput => command.run functions (.ok standardInput)
  | .file path =>
      if path.toList.contains '\x00' then
        .error (.argument .nullInPath)
      else
        command.run functions (folder.openPath path)

end Command

end FormulaGrid.Console
