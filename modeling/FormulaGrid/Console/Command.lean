import FormulaGrid.Catalog.Standard
import FormulaGrid.Console.Arguments
import FormulaGrid.Message.Encoding
import FormulaGrid.Number.Reading
import FormulaGrid.Signature

/-!
Contract: the commands of the program and the arguments that call for them.

Owns:
- the commands with what each is told (`Command`);
- the switches and slots of each (`CommandName.switches`, `CommandName.slots`);
- the reading of an argument list as an invocation (`Invocation.ofArguments`).

An argument list may call for help or be misused; whichever comes first in the
order in which arguments take effect decides.
-/

namespace FormulaGrid.Console

inductive CommandName where
  | encode
  | decode
  | evaluate
  | verify
  | generate
  | identity
  | catalog
deriving DecidableEq, Repr

namespace CommandName

def word : CommandName → String
  | encode => "encode"
  | decode => "decode"
  | evaluate => "evaluate"
  | verify => "verify"
  | generate => "generate"
  | identity => "identity"
  | catalog => "catalog"

def all : List CommandName :=
  [encode, decode, evaluate, verify, generate, identity, catalog]

/-- The command that a word calls, which must be written in full. -/
def ofWord? (word : String) : Option CommandName :=
  all.find? fun name => name.word == word

end CommandName

/-- What an argument is about. -/
inductive Key where
  | help
  | verbose
  | subject
  | width
  | advanced
  | compact
  | tolerance
  | report
  | expected
  | count
  | noAdvanced
  | size
  | kind
deriving DecidableEq, Repr

def helpSwitch : Switch Key :=
  ⟨.help, ["-h", "--help"], false⟩

def toleranceSwitch : Switch Key :=
  ⟨.tolerance, ["--tolerance"], true⟩

/-- The switches that stand in front of the command. -/
def outerSwitches : List (Switch Key) :=
  [helpSwitch, ⟨.verbose, ["-v", "--verbose"], false⟩]

def CommandName.switches : CommandName → List (Switch Key)
  | encode =>
      [helpSwitch, ⟨.width, ["--width"], true⟩, ⟨.advanced, ["--advanced"], false⟩,
        ⟨.compact, ["--compact"], false⟩, toleranceSwitch]
  | decode => [helpSwitch, ⟨.report, ["--report"], false⟩, toleranceSwitch]
  | evaluate => [helpSwitch]
  | verify => [helpSwitch, toleranceSwitch]
  | generate =>
      [helpSwitch, ⟨.count, ["--count"], true⟩, ⟨.noAdvanced, ["--no-advanced"], false⟩,
        toleranceSwitch]
  | identity => [helpSwitch, ⟨.size, ["--size"], true⟩]
  | catalog => [helpSwitch, ⟨.kind, ["--kind"], true⟩]

def CommandName.slots : CommandName → List (Slot Key)
  | decode => [⟨.subject, false⟩]
  | verify => [⟨.subject, true⟩, ⟨.expected, true⟩]
  | catalog => []
  | _ => [⟨.subject, true⟩]

/-- What a catalog is listed by. -/
inductive Listing where
  | everything
  | pool (kind : Kind)
  | unnamed
deriving DecidableEq, Repr

/-- A command with what it is told. A number is missing if the arguments hold its
place, but not the number. -/
inductive Command where
  | encode
      (text : String)
      (width : Option Int)
      (advanced compact : Bool)
      (tolerance : Option Float)
  | decode (path : Option String) (report : Bool) (tolerance : Option Float)
  | evaluate (text : String)
  | verify (text : String) (expected tolerance : Option Float)
  | generate
      (target : Float)
      (count : Option Int)
      (includeAdvanced : Bool)
      (tolerance : Option Float)
  | identity (name : String) (size : Option Int)
  | catalog (listing : Listing)

/-- What the events of an argument list have set so far. -/
structure Settings where
  subject : Option String := none
  target : Float := 0.0
  width : Option Int := some defaultWidth
  advanced : Bool := false
  compact : Bool := false
  tolerance : Option Float := some 1e-4
  report : Bool := false
  expected : Option Float := none
  count : Option Int := some 5
  includeAdvanced : Bool := true
  size : Option Int := some defaultSignatureSize
  listing : Listing := .everything

/-- Why no command is run. -/
inductive Refusal where
  | help
  | misuse
deriving DecidableEq, Repr

/-- A value that could not be converted is a misuse. -/
def converted {Value : Type} : Option Value → Except Refusal Value
  | some value => .ok value
  | none => .error .misuse

/-- The kinds that can be listed. -/
def listedKind? (label : String) : Option Kind :=
  (Kind.ofLabel? label).filter fun kind => kind != .synthesized

namespace Settings

/-- Record a value. The subject of a search is a number, that of other commands a
text. -/
def recordValue
    (command : CommandName)
    (settings : Settings)
    (key : Key)
    (text : String) :
    Except Refusal Settings :=
  match key with
  | .subject =>
      match command with
      | .generate => do
          let target ← converted (Numeral.readFloat text)
          return { settings with target, subject := some text }
      | _ => .ok { settings with subject := some text }
  | .width => do
      let width ← converted (Numeral.readInteger 10 text)
      return { settings with width := some width }
  | .tolerance => do
      let tolerance ← converted (Numeral.readFloat text)
      return { settings with tolerance := some tolerance }
  | .expected => do
      let expected ← converted (Numeral.readFloat text)
      return { settings with expected := some expected }
  | .count => do
      let count ← converted (Numeral.readInteger 10 text)
      return { settings with count := some count }
  | .size => do
      let size ← converted (Numeral.readInteger 10 text)
      return { settings with size := some size }
  | .kind => do
      let kind ← converted (listedKind? text)
      return { settings with listing := .pool kind }
  | _ => .error .misuse

/-- Record a switch without a value. -/
def recordFlag (settings : Settings) : Key → Except Refusal Settings
  | .help => .error .help
  | .advanced => .ok { settings with advanced := true }
  | .compact => .ok { settings with compact := true }
  | .report => .ok { settings with report := true }
  | .noAdvanced => .ok { settings with includeAdvanced := false }
  | _ => .ok settings

/-- Record that a value is missing, in place of one that was set before. -/
def recordMissing (settings : Settings) : Key → Settings
  | .width => { settings with width := none }
  | .tolerance => { settings with tolerance := none }
  | .expected => { settings with expected := none }
  | .count => { settings with count := none }
  | .size => { settings with size := none }
  | .kind => { settings with listing := .unnamed }
  | _ => settings

/-- Record one event. -/
def record
    (command : CommandName)
    (settings : Settings) :
    Event Key → Except Refusal Settings
  | .flag key => settings.recordFlag key
  | .value key text => settings.recordValue command key text
  | .hollow key => .ok (settings.recordMissing key)

def toCommand (settings : Settings) : CommandName → Command
  | .encode =>
      .encode (settings.subject.getD "") settings.width settings.advanced settings.compact
        settings.tolerance
  | .decode => .decode settings.subject settings.report settings.tolerance
  | .evaluate => .evaluate (settings.subject.getD "")
  | .verify => .verify (settings.subject.getD "") settings.expected settings.tolerance
  | .generate =>
      .generate settings.target settings.count settings.includeAdvanced settings.tolerance
  | .identity => .identity (settings.subject.getD "") settings.size
  | .catalog => .catalog settings.listing

end Settings

/-- Read the arguments behind the name of a command. -/
def readCommand
    (name : CommandName)
    (arguments : List String)
    (remainder : Bool) :
    Except Refusal Command := do
  let words ← converted (sortWords name.switches arguments)
  let trace := readWords name.switches name.slots words
  let settings ← trace.events.foldlM (Settings.record name) {}
  if trace.complete && !remainder then
    return settings.toCommand name
  else
    throw .misuse

/-- The event calls for help. -/
def Event.callsForHelp : Event Key → Bool
  | .flag key => key == .help
  | _ => false

/-- Read the words in front of a command, then the command. `remainder` says that
a word has been left over. Without a command there is help. -/
def readOuter (remainder : Bool) :
    List (Word Key) → List String → Except Refusal Command
  | .plain text :: _, _ :: arguments =>
      match CommandName.ofWord? text with
      | some name => readCommand name arguments remainder
      | none => .error .misuse
  | .switch none :: words, _ :: arguments => readOuter true words arguments
  | .switch (some found) :: words, _ :: arguments =>
      match readMatch outerSwitches found with
      | none => .error .misuse
      | some (events, awaiting) =>
          if awaiting.isSome then
            .error .misuse
          else if events.any Event.callsForHelp then
            .error .help
          else
            readOuter remainder words arguments
  | [], _ => .error (if remainder then .misuse else .help)
  | _, _ => .error .misuse

/-- The command that an argument list calls for. -/
def Command.ofArguments (arguments : List String) : Except Refusal Command := do
  let words ← converted (sortWords outerSwitches arguments)
  readOuter false words arguments

end FormulaGrid.Console
