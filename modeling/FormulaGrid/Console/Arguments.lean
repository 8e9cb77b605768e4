import FormulaGrid.Text.DecimalDigit

/-!
Contract: the shape of argument lists, whatever the program.

Owns:
- switches, with or without a value, and slots for positional arguments
  (`Switch`, `Slot`);
- the sorting of arguments into switches and plain words (`sortWords`);
- the reading of sorted arguments as a sequence of events (`readWords`).

Long names may be shortened as long as one name remains, and may carry their
value behind an equals sign. Short names may be run together, with or without an
equals sign behind the first; a word in which one of them is unknown cannot be
read. A value that is attached to its switch and is nothing but two minus signs
counts as none. A word with a minus sign in front is plain if it is a negative
number, has a space in it or follows the separator of two minus signs.

Reading does not convert values: the events stand in the order in which their
arguments took effect, so whoever consumes them meets a faulty value and a call
for help in that order.
-/

namespace FormulaGrid.Console

/-- An argument known by name. -/
structure Switch (Key : Type) where
  key : Key
  names : List String
  takesValue : Bool

/-- An argument known by its place. -/
structure Slot (Key : Type) where
  key : Key
  required : Bool

/-- A name of a switch as it was met, with the text that is attached to it: what
follows an equals sign, or what follows a short name directly. -/
structure Match (Key : Type) where
  switch : Switch Key
  name : String
  attached : Option String

/-- An argument sorted. A word that looks like a switch but is none matches
nothing. -/
inductive Word (Key : Type) where
  | plain (text : String)
  | separator
  | switch (found : Option (Match Key))

section Sorting

variable {Key : Type} (switches : List (Switch Key))

/-- The switch with exactly this name. -/
def switchNamed (name : String) : Option (Switch Key) :=
  switches.find? fun switch => switch.names.contains name

/-- Part a text at its first equals sign. -/
def partAtEquals (text : String) : String × Option String :=
  let characters := text.toList
  match characters.dropWhile (· != '=') with
  | [] => (text, none)
  | _ :: rest => (String.ofList (characters.takeWhile (· != '=')), some (String.ofList rest))

def namedSwitches : List (Switch Key × String) :=
  switches.flatMap fun switch => switch.names.map fun name => (switch, name)

def startsWith (start text : String) : Bool :=
  start.toList.isPrefixOf text.toList

/-- The names that a shortened or run-together word may stand for. -/
def candidates (text : String) : List (Match Key) :=
  if startsWith "--" text then
    let (start, attached) := partAtEquals text
    ((namedSwitches switches).filter fun entry => startsWith start entry.2).map
      fun entry => ⟨entry.1, entry.2, attached⟩
  else
    let short := String.ofList (text.toList.take 2)
    let behind := String.ofList (text.toList.drop 2)
    (namedSwitches switches).filterMap fun entry =>
      if entry.2 == short then
        some ⟨entry.1, entry.2, some behind⟩
      else if startsWith text entry.2 then
        some ⟨entry.1, entry.2, none⟩
      else
        none

def isDigit (character : Char) : Bool :=
  (Text.digitValue character).isSome

def withoutFinalBreak (characters : List Char) : List Char :=
  match characters.reverse with
  | '\n' :: rest => rest.reverse
  | _ => characters

/-- A minus sign with digits behind it, or with digits, a point and digits. -/
def isNegativeNumber (text : String) : Bool :=
  match text.toList with
  | '-' :: rest =>
      let characters := withoutFinalBreak rest
      match characters.dropWhile isDigit with
      | [] => !characters.isEmpty
      | '.' :: fraction => !fraction.isEmpty && fraction.all isDigit
      | _ => false
  | _ => false

/-- Sort one word that comes before any separator. An ambiguous one cannot be
sorted. -/
def sortWord (text : String) : Option (Word Key) :=
  if !startsWith "-" text then
    some (.plain text)
  else
    match switchNamed switches text with
    | some switch => some (.switch (some ⟨switch, text, none⟩))
    | none =>
        if text == "-" then
          some (.plain text)
        else
          let (start, attached) := partAtEquals text
          match attached, switchNamed switches start with
          | some value, some switch => some (.switch (some ⟨switch, start, some value⟩))
          | _, _ =>
              match candidates switches text with
              | [found] => some (.switch (some found))
              | _ :: _ :: _ => none
              | [] =>
                  if isNegativeNumber text || text.toList.contains ' ' then
                    some (.plain text)
                  else
                    some (.switch none)

/-- Sort all words; after the separator every word is plain. -/
def sortWords : List String → Option (List (Word Key))
  | [] => some []
  | text :: others =>
      if text == "--" then
        some (.separator :: others.map Word.plain)
      else do
        let word ← sortWord switches text
        let rest ← sortWords others
        return word :: rest

end Sorting

/-- What an argument does: set a switch, give a value, or leave a switch or slot
that takes a value without one. -/
inductive Event (Key : Type) where
  | flag (key : Key)
  | value (key : Key) (text : String)
  | hollow (key : Key)

/-- The events of an argument list, and whether it was read to its end with every
required slot taken and nothing left over. -/
structure Trace (Key : Type) where
  events : List (Event Key)
  complete : Bool

/-- Events that come before those of a trace. -/
def Trace.after {Key : Type} (events : List (Event Key)) (trace : Trace Key) : Trace Key :=
  ⟨events ++ trace.events, trace.complete⟩

/-- A trace with something left over. -/
def Trace.withRemainder {Key : Type} (trace : Trace Key) : Trace Key :=
  ⟨trace.events, false⟩

section Reading

variable {Key : Type} (switches : List (Switch Key))

/-- The event of a value that is attached to its switch. -/
def attachedEvent (switch : Switch Key) (text : String) : Event Key :=
  if text == "--" then
    .hollow switch.key
  else
    .value switch.key text

/-- The events of short switches run together, where the first one has been met
and the given characters stand behind it, and the key that still needs a value.
Each character names a switch, until one takes a value: the rest is its value. -/
def readCluster (switch : Switch Key) : List Char → Option (List (Event Key) × Option Key)
  | [] =>
      if switch.takesValue then
        some ([], some switch.key)
      else
        some ([.flag switch.key], none)
  | next :: rest =>
      if switch.takesValue then
        some ([attachedEvent switch (String.ofList (next :: rest))], none)
      else
        match switchNamed switches (String.ofList ['-', next]) with
        | none => none
        | some follower =>
            (readCluster follower rest).map fun (events, awaiting) =>
              (.flag switch.key :: events, awaiting)

/-- The events of one word with a switch, and the key that still needs a value.
Text attached to a switch without a value names further switches if the name is a
short one; otherwise the word cannot be read. -/
def readMatch (found : Match Key) : Option (List (Event Key) × Option Key) :=
  match found.attached with
  | none => readCluster switches found.switch []
  | some text =>
      if found.switch.takesValue then
        some ([attachedEvent found.switch text], none)
      else if startsWith "--" found.name || text.isEmpty then
        none
      else
        readCluster switches found.switch text.toList

def isLoose : Word Key → Bool
  | .switch _ => false
  | _ => true

def isSeparator : Word Key → Bool
  | .separator => true
  | _ => false

/-- The text that a loose word was written as. -/
def looseText : Word Key → String
  | .plain text => text
  | _ => "--"

/-- The event of a slot that took the given words. One separator among them is
dropped. -/
def slotEvents (slot : Slot Key) (words : List (Word Key)) : List (Event Key) :=
  match (words.map looseText).erase "--" with
  | text :: _ => [.value slot.key text]
  | [] => if slot.required then [.hollow slot.key] else []

/-- Give loose words to slots in order. Each slot takes one plain word with the
separators around it; one that is not required may go without. The result is the
events, the slots that are left and the words that are left. -/
def fillSlots :
    List (Slot Key) → List (Word Key) →
      List (Event Key) × List (Slot Key) × List (Word Key)
  | [], words => ([], [], words)
  | slot :: others, words =>
      let before := words.takeWhile isSeparator
      match words.dropWhile isSeparator with
      | .plain text :: rest =>
          let taken := before ++ .plain text :: rest.takeWhile isSeparator
          let (events, slots, remainder) := fillSlots others (rest.dropWhile isSeparator)
          (slotEvents slot taken ++ events, slots, remainder)
      | rest =>
          if slot.required then
            ([], slot :: others, words)
          else
            let (events, slots, remainder) := fillSlots others rest
            (slotEvents slot before ++ events, slots, remainder)

/-- Read sorted words with the given slots to fill. -/
def readWords (slots : List (Slot Key)) (words : List (Word Key)) : Trace Key :=
  match words with
  | [] => ⟨[], slots.all fun slot => !slot.required⟩
  | .switch none :: rest => (readWords slots rest).withRemainder
  | .switch (some found) :: rest =>
      match readMatch switches found with
      | none => ⟨[], false⟩
      | some (events, none) => (readWords slots rest).after events
      | some (events, some key) =>
          match rest with
          | .plain text :: behind =>
              (readWords slots behind).after (events ++ [.value key text])
          | _ => ⟨[], false⟩
  | loose :: rest =>
      let (events, slots, remainder) := fillSlots slots (loose :: rest.takeWhile isLoose)
      let trace := readWords slots (rest.dropWhile isLoose)
      (if remainder.isEmpty then trace else trace.withRemainder).after events
termination_by words.length
decreasing_by
  · simp
  · simp
  · simp only [List.length_cons]
    omega
  · exact Nat.lt_succ_of_le (List.dropWhile_sublist isLoose).length_le

end Reading

end FormulaGrid.Console
