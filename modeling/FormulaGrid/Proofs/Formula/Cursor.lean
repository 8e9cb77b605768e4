import FormulaGrid.Formula.Reader

/-!
Contract: the reading of a formula by a cursor that moves over its entries.

Owns:
- the entries of a formula, which are its tokens and its end, and the cursor that stands
  at one of them and counts the levels that are open (`Cursor`);
- the walks of a cursor (`Walk`), which end with a value or halt, and tell either way
  where the cursor is then;
- the walk that each rule of the grammar takes, and each repetition (`Walk.body`), which
  sends for other walks in its turn, as deep as it is allowed to (`walk`);
- no walk looks or moves beyond the end (`bounded_walk`).

Nothing here ends by its form alone: a walk that would send for walks for ever runs out
of steps, however many it has. The cursor counts the levels up and down, where the
readers of the grammar count them down only.
-/

namespace FormulaGrid

/-! ## Entries and cursors -/

/-- The tokens of a formula, and behind them its end. -/
def TokenLine.entries (line : TokenLine) : List (Option Token) :=
  line.tokens.map some ++ [none]

/-- The index of the next entry, and the number of open levels. -/
structure Cursor where
  index : Nat
  depth : Nat

namespace Cursor

/-- Behind the entry. -/
def stepped (cursor : Cursor) : Cursor :=
  { cursor with index := cursor.index + 1 }

/-- One level deeper. -/
def opened (cursor : Cursor) : Cursor :=
  { cursor with depth := cursor.depth + 1 }

def closed (cursor : Cursor) : Cursor :=
  { cursor with depth := cursor.depth - 1 }

end Cursor

/-- Why a walk ends without a value. -/
inductive Halt where
  | fault (fault : Fault)
  | outOfRange
  | outOfSteps

/-- What moves a cursor and ends with a value or halts. -/
abbrev Walk (Value : Type) :=
  ExceptT Halt (StateM Cursor) Value

namespace Walk

section Helpers

variable {Value : Type} (line : TokenLine)

/-- The entry that the cursor stands at. -/
def current : Walk (Option Token) := do
  match line.entries[(← get).index]? with
  | some entry => return entry
  | none => throw .outOfRange

/-- The entry is taken; the end stays where it is. -/
def advance : Walk (Option Token) := do
  let entry ← current line
  if entry.isSome then
    modify Cursor.stepped
  return entry

/-- The outcome of a construct. -/
def settle : Except Fault Value → Walk Value
  | .ok value => return value
  | .error fault => throw (.fault fault)

/-- The entry does not fit. -/
def unexpected (wanted : Wanted) (entry : Option Token) : Walk Value :=
  throw (.fault (Grammar.unexpected line.finish wanted entry.toList))

/-- An entry that fits is taken. -/
def expect (fits : Lexeme → Bool) (wanted : Wanted) : Walk (Option Token) := do
  let entry ← current line
  if entry.any fun token => fits token.lexeme then
    advance line
  else
    unexpected line wanted entry

/-- A walk one level deeper. The level is closed again however the walk ends. -/
def nested (inner : Walk Value) : Walk Value := do
  modify Cursor.opened
  if deepestNesting < (← get).depth then
    let entry ← current line
    throw (.fault (.formula (.nestedTooDeep
      (Grammar.nextPosition line.finish entry.toList))))
  else
    try inner finally modify Cursor.closed

end Helpers

end Walk

/-! ## Rules and errands -/

/-- The rules of the grammar. A formula is a sum with the end behind it, and an
application a function with its argument. -/
inductive Rule where
  | formula
  | sum
  | product
  | signed
  | power
  | postfixed
  | primary
  | application

/-- What a walk is sent for: what a rule takes, or the repetition behind a value. -/
inductive Errand (Value : Type) where
  | rule (rule : Rule)
  | terms (value : Value)
  | factors (value : Value)
  | postfixes (value : Value)

/-- The word that an application is known by in its faults. -/
def calledBy : Option Token → String
  | some ⟨.function name _ _, _, _⟩ => name.word
  | some token => token.text
  | none => ""

/-- The value of an application. The rule may be gone by at any entry; of an argument
behind one that names no function, `unnamed` says what becomes. -/
def applied
    {Value : Type}
    (meaning : Interpretation Value)
    (unnamed : Option Token → Value → Except Fault Value) :
    Option Token → Value → Except Fault Value
  | some ⟨.function name power base, _, _⟩, argument => meaning.apply name power base argument
  | entry, argument => unnamed entry argument

namespace Walk

section Rules

variable {Value : Type} (meaning : Interpretation Value)
  (unnamed : Option Token → Value → Except Fault Value) (line : TokenLine)
  (send : Errand Value → Walk Value)

def formula : Walk Value := do
  let value ← send (.rule .sum)
  match ← current line with
  | none => return value
  | entry => unexpected line .operatorOrEnd entry

def sum : Walk Value := do
  let value ← send (.rule .product)
  send (.terms value)

/-- Behind its sign a link takes what its rule takes, and its repetition goes on. -/
def link
    (rule : Rule)
    (combine : Value → Except Fault Value)
    (repetition : Value → Errand Value) :
    Walk Value := do
  let _ ← advance line
  let right ← send (.rule rule)
  let value ← settle (combine right)
  send (repetition value)

/-- A chain goes on by a token that links, and stays in front of any other entry. -/
def chain
    (links : Links Value)
    (rule : Rule)
    (repetition : Value → Errand Value)
    (value : Value) :
    Walk Value := do
  match (← current line).bind links with
  | some combine => link line send rule (combine value) repetition
  | none => return value

def terms : Value → Walk Value :=
  chain line send meaning.terms .product .terms

def product : Walk Value := do
  let value ← send (.rule .signed)
  send (.factors value)

def factors : Value → Walk Value :=
  chain line send meaning.factors .signed .factors

def signed : Walk Value := do
  match ← current line with
  | some ⟨.operator .minus, _, _⟩ =>
      let _ ← advance line
      let operand ← nested line (send (.rule .signed))
      return meaning.negate operand
  | _ => send (.rule .power)

def power : Walk Value := do
  let base ← send (.rule .postfixed)
  match ← current line with
  | some ⟨.operator .power, _, _⟩ =>
      let _ ← advance line
      let exponent ← nested line (send (.rule .signed))
      settle (meaning.raise base exponent)
  | _ => return base

def postfixed : Walk Value := do
  let value ← send (.rule .primary)
  send (.postfixes value)

def postfixes (value : Value) : Walk Value := do
  match ← current line with
  | some ⟨.factorial, _, _⟩ =>
      let _ ← advance line
      let value ← settle (meaning.factorial value)
      send (.postfixes value)
  | some ⟨.superscript exponent, _, _⟩ =>
      let _ ← advance line
      let value ← settle (meaning.superscript value exponent)
      send (.postfixes value)
  | _ => return value

def primary : Walk Value := do
  match ← current line with
  | none => unexpected line .operand none
  | some token =>
      match token.lexeme with
      | .number value | .constant value =>
          let _ ← advance line
          settle (meaning.literal token value)
      | .leftParenthesis =>
          let _ ← advance line
          let value ← nested line (send (.rule .sum))
          let _ ← expect line (· matches .rightParenthesis) .closingParenthesis
          return value
      | .bar =>
          let _ ← advance line
          let value ← nested line (send (.rule .sum))
          let _ ← expect line (· matches .bar) .closingBar
          return meaning.absolute value
      | .function _ _ _ => send (.rule .application)
      | .root index =>
          let _ ← advance line
          let radicand ← nested line (send (.rule .postfixed))
          settle (meaning.root index radicand)
      | _ => unexpected line .operand (some token)

def application : Walk Value := do
  let entry ← advance line
  let _ ← expect line (· matches .leftParenthesis) (.argumentOf (calledBy entry))
  let argument ← nested line (send (.rule .sum))
  let _ ← expect line (· matches .rightParenthesis) .closingParenthesis
  settle (applied meaning unnamed entry argument)

/-- The walk of an errand, which sends for the walks of others. -/
def body : Errand Value → Walk Value
  | .rule .formula => formula line send
  | .rule .sum => sum send
  | .rule .product => product send
  | .rule .signed => signed meaning line send
  | .rule .power => power meaning line send
  | .rule .postfixed => postfixed send
  | .rule .primary => primary meaning line send
  | .rule .application => application meaning unnamed line send
  | .terms value => terms meaning line send value
  | .factors value => factors meaning line send value
  | .postfixes value => postfixes meaning line send value

end Rules

end Walk

/-- The walk of an errand, in which walks may be sent for to the given depth. -/
def walk
    {Value : Type}
    (meaning : Interpretation Value)
    (unnamed : Option Token → Value → Except Fault Value)
    (line : TokenLine) :
    Nat → Errand Value → Walk Value
  | 0, _ => throw .outOfSteps
  | steps + 1, errand => Walk.body meaning unnamed line (walk meaning unnamed line steps) errand

namespace Walk

variable {First Second Value : Type}

/-! ## Runs of walks -/

theorem bind_eq (first : Walk First) (next : First → Walk Second) (start : Cursor) :
    (first >>= next) start =
      match first start with
      | (.ok value, middle) => next value middle
      | (.error halt, middle) => (.error halt, middle) := by
  show (match first start with
    | (outcome, middle) => ExceptT.bindCont next outcome middle) = _
  rcases first start with ⟨_ | _, middle⟩ <;> rfl

/-- What is done at last is done to the cursor wherever the walk has left it. -/
theorem finally_eq (inner : Walk Value) (change : Cursor → Cursor) (start : Cursor) :
    (try inner finally modify change : Walk Value) start =
      ((inner start).1, change (inner start).2) := by
  rcases ran : inner start with ⟨outcome, final⟩
  show (Prod.fst <$> MonadFinally.tryFinally' inner fun _ => modify change : Walk Value) start = _
  simp only [MonadFinally.tryFinally', Functor.map, ExceptT.map, ExceptT.mk, StateT.bind, bind]
  simp only [ran]
  cases outcome <;> rfl

section

variable (line : TokenLine) {start : Cursor}

theorem entries_getElem? {index : Nat} (within : index ≤ line.tokens.length) :
    line.entries[index]? = some line.tokens[index]? := by
  rw [TokenLine.entries]
  rcases Nat.lt_or_eq_of_le within with inside | rfl
  · rw [List.getElem?_append_left (by simpa using inside), List.getElem?_map]
    simp [inside]
  · simp

/-- Among the entries the cursor sees the first token ahead of it, or the end. -/
theorem current_eq (within : start.index ≤ line.tokens.length) :
    current line start = (.ok line.tokens[start.index]?, start) := by
  show (match line.entries[start.index]? with
    | some entry => pure entry
    | none => throw .outOfRange : Walk (Option Token)) start = _
  rw [entries_getElem? line within]
  rfl

/-- A token is taken by a step. -/
theorem advance_of_some
    {token : Token}
    (found : line.tokens[start.index]? = some token) :
    advance line start = (.ok (some token), start.stepped) := by
  have inside := (List.getElem?_eq_some_iff.mp found).1
  rw [advance, bind_eq, current_eq line (Nat.le_of_lt inside), found]
  rfl

/-- At the end no step is taken. -/
theorem advance_of_end (atEnd : start.index = line.tokens.length) :
    advance line start = (.ok none, start) := by
  rw [advance, bind_eq, current_eq line (Nat.le_of_eq atEnd),
    List.getElem?_eq_none (Nat.le_of_eq atEnd.symm)]
  rfl

theorem nested_eq (inner : Walk Value) :
    nested line inner start =
      if deepestNesting < start.opened.depth then
        (current line >>= fun entry => throw (.fault (.formula (.nestedTooDeep
          (Grammar.nextPosition line.finish entry.toList)))) : Walk Value) start.opened
      else
        ((inner start.opened).1, (inner start.opened).2.closed) := by
  rw [← finally_eq]
  show (ite _ _ _ : Walk Value) start.opened = _
  split <;> rfl

end

/-! ## Bounds -/

/-- From an entry a walk goes forward to an entry and looks at entries only, also where
it fails. -/
def Bounded (line : TokenLine) (walk : Walk Value) : Prop :=
  ∀ start : Cursor, start.index ≤ line.tokens.length →
    (walk start).1 ≠ .error .outOfRange ∧
      start.index ≤ (walk start).2.index ∧
      (walk start).2.index ≤ line.tokens.length

section

variable {line : TokenLine}

theorem Bounded.pure (value : Value) : Bounded line (return value) :=
  fun _ within => ⟨nofun, Nat.le_refl _, within⟩

theorem Bounded.fault (fault : Fault) : Bounded line (throw (.fault fault) : Walk Value) :=
  fun _ within => ⟨nofun, Nat.le_refl _, within⟩

theorem Bounded.bind
    {first : Walk First}
    {next : First → Walk Second}
    (bounded : Bounded line first)
    (behind : ∀ value, Bounded line (next value)) :
    Bounded line (first >>= next) := by
  intro start within
  have bounds := bounded start within
  rw [bind_eq]
  rcases ran : first start with ⟨halt | value, middle⟩
  · rw [ran] at bounds
    exact ⟨fun same => bounds.1 (congrArg Except.error (Except.error.inj same)), bounds.2⟩
  · rw [ran] at bounds
    obtain ⟨inRange, further, inside⟩ := behind value middle bounds.2.2
    exact ⟨inRange, Nat.le_trans bounds.2.1 further, inside⟩

theorem bounded_current : Bounded line (current line) := by
  intro start within
  rw [current_eq line within]
  exact ⟨nofun, Nat.le_refl _, within⟩

theorem bounded_advance : Bounded line (advance line) := by
  intro start within
  rcases Nat.lt_or_eq_of_le within with inside | atEnd
  · rw [advance_of_some line (List.getElem?_eq_getElem inside)]
    exact ⟨nofun, Nat.le_succ _, inside⟩
  · rw [advance_of_end line atEnd]
    exact ⟨nofun, Nat.le_refl _, within⟩

theorem bounded_settle (outcome : Except Fault Value) :
    Bounded line (settle outcome) := by
  cases outcome with
  | error fault => exact .fault fault
  | ok value => exact .pure value

theorem bounded_expect (fits : Lexeme → Bool) (wanted : Wanted) :
    Bounded line (expect line fits wanted) := by
  refine bounded_current.bind fun entry => ?_
  split
  · exact bounded_advance
  · exact .fault _

theorem Bounded.nested {inner : Walk Value} (bounded : Bounded line inner) :
    Bounded line (nested line inner) := by
  intro start within
  rw [nested_eq]
  split
  · exact bounded_current.bind (fun _ => .fault _) start.opened within
  · exact bounded start.opened within

section Rules

variable (meaning : Interpretation Value) (unnamed : Option Token → Value → Except Fault Value)
  {send : Errand Value → Walk Value} (sends : ∀ errand, Bounded line (send errand))
include sends

theorem bounded_link
    (rule : Rule)
    (combine : Value → Except Fault Value)
    (repetition : Value → Errand Value) :
    Bounded line (link line send rule combine repetition) :=
  bounded_advance.bind fun _ => (sends _).bind fun _ =>
    (bounded_settle _).bind fun _ => sends _

theorem bounded_chain
    (links : Links Value)
    (rule : Rule)
    (repetition : Value → Errand Value)
    (value : Value) :
    Bounded line (chain line send links rule repetition value) := by
  refine bounded_current.bind fun entry => ?_
  split
  · exact bounded_link sends _ _ _
  · exact .pure value

theorem bounded_body (errand : Errand Value) :
    Bounded line (body meaning unnamed line send errand) := by
  cases errand with
  | rule rule =>
      cases rule with
      | formula =>
          refine (sends _).bind fun _ => bounded_current.bind fun entry => ?_
          split
          · exact .pure _
          · exact .fault _
      | sum | product | postfixed => exact (sends _).bind fun _ => sends _
      | signed =>
          refine bounded_current.bind fun entry => ?_
          split
          · exact bounded_advance.bind fun _ => (sends _).nested.bind fun _ => .pure _
          · exact sends _
      | power =>
          refine (sends _).bind fun base => bounded_current.bind fun entry => ?_
          split
          · exact bounded_advance.bind fun _ => (sends _).nested.bind fun _ =>
              bounded_settle _
          · exact .pure base
      | primary =>
          refine bounded_current.bind fun entry => ?_
          split
          · exact .fault _
          · split
            · exact bounded_advance.bind fun _ => bounded_settle _
            · exact bounded_advance.bind fun _ => bounded_settle _
            · exact bounded_advance.bind fun _ => (sends _).nested.bind fun _ =>
                (bounded_expect _ _).bind fun _ => .pure _
            · exact bounded_advance.bind fun _ => (sends _).nested.bind fun _ =>
                (bounded_expect _ _).bind fun _ => .pure _
            · exact sends _
            · exact bounded_advance.bind fun _ => (sends _).nested.bind fun _ =>
                bounded_settle _
            · exact .fault _
      | application =>
          exact bounded_advance.bind fun _ => (bounded_expect _ _).bind fun _ =>
            (sends _).nested.bind fun _ => (bounded_expect _ _).bind fun _ =>
              bounded_settle _
  | terms value | factors value => exact bounded_chain sends _ _ _ value
  | postfixes value =>
      refine bounded_current.bind fun entry => ?_
      split
      · exact bounded_advance.bind fun _ => (bounded_settle _).bind fun _ => sends _
      · exact bounded_advance.bind fun _ => (bounded_settle _).bind fun _ => sends _
      · exact .pure value

end Rules

end

end Walk

/-- No walk looks or moves beyond the end of a formula, however many steps it has. -/
theorem bounded_walk
    {Value : Type}
    (meaning : Interpretation Value)
    (unnamed : Option Token → Value → Except Fault Value)
    (line : TokenLine)
    (steps : Nat)
    (errand : Errand Value) :
    Walk.Bounded line (walk meaning unnamed line steps errand) := by
  induction steps generalizing errand with
  | zero => exact fun _ within => ⟨nofun, Nat.le_refl _, within⟩
  | succ steps inductionHypothesis =>
      exact Walk.bounded_body meaning unnamed inductionHypothesis errand

end FormulaGrid
