import FormulaGrid.Fault
import FormulaGrid.Formula.Token

/-!
Contract: the grammar of formulas, read from left to right.

    sum      := product (("+" | "-") product)*
    product  := signed (("*" | "/") signed)*
    signed   := "-" signed | power
    power    := postfixed ("^" signed)?
    postfixed := primary ("!" | superscript)*
    primary  := number | constant | "(" sum ")" | "|" sum "|"
              | function "(" sum ")" | root postfixed

Owns:
- the meanings that the constructs of the grammar are given (`Interpretation`), and the
  tokens that sums and products go on by (`Links`);
- the readers of the grammar's categories at one level of nesting (`Level`);
- the reading of a whole formula (`TokenLine.read`).

A reader gives each construct its meaning as soon as it has been read, so of a
meaning that fails and a token that does not fit the one further left is
reported. Each reader takes at least one token. What stands inside a group, a
bar pair, a function's argument, a root, a sign or an exponent is read one level
deeper, and the levels are counted down.
-/

namespace FormulaGrid

/-- The meanings of the constructs of the grammar in some type of values. A
meaning may fail. The quotient gets the position of its sign. -/
structure Interpretation (Value : Type) where
  literal : Token → Float → Except Fault Value
  negate : Value → Value
  add : Value → Value → Except Fault Value
  subtract : Value → Value → Except Fault Value
  multiply : Value → Value → Except Fault Value
  divide : Nat → Value → Value → Except Fault Value
  raise : Value → Value → Except Fault Value
  superscript : Value → Float → Except Fault Value
  factorial : Value → Except Fault Value
  absolute : Value → Value
  root : Float → Value → Except Fault Value
  apply : FunctionName → Option Nat → Option Float → Value → Except Fault Value

/-- Tokens left after at least one has been taken. -/
abbrev Rest (tokens : List Token) :=
  { rest : List Token // rest.length < tokens.length }

/-- Tokens left after any number has been taken. -/
abbrev Tail (tokens : List Token) :=
  { rest : List Token // rest.length ≤ tokens.length }

/-- A reader of one category: a value and the tokens behind what it was read
from. -/
abbrev Reader (Value : Type) :=
  (tokens : List Token) → Except Fault (Value × Rest tokens)

/-- The readers that constructs use for what they enclose. -/
structure Level (Value : Type) where
  sum : Reader Value
  signed : Reader Value
  postfixed : Reader Value

/-- How a chain goes on by a token: what the value in front of it and the one behind it
are combined to. A chain does not go on by every token. -/
abbrev Links (Value : Type) :=
  Token → Option (Value → Value → Except Fault Value)

namespace Interpretation

variable {Value : Type} (meaning : Interpretation Value)

/-- Terms go on by a plus or a minus sign. -/
def terms : Links Value
  | ⟨.operator .plus, _, _⟩ => some meaning.add
  | ⟨.operator .minus, _, _⟩ => some meaning.subtract
  | _ => none

/-- Factors go on by the sign of a product or of a quotient. -/
def factors : Links Value
  | ⟨.operator .times, _, _⟩ => some meaning.multiply
  | ⟨.operator .dividedBy, _, position⟩ => some (meaning.divide position)
  | _ => none

end Interpretation

namespace Grammar

/-- The position of the next token, or of the end of the formula. -/
def nextPosition (finish : Nat) : List Token → Nat
  | [] => finish
  | token :: _ => token.position

/-- The fault of a token that does not fit, or of a formula that ends too soon. -/
def unexpected (finish : Nat) (wanted : Wanted) : List Token → Fault
  | [] => .formula (.unexpected wanted none finish)
  | token :: _ => .formula (.unexpected wanted (some token.text) token.position)

section Chains

variable {Value : Type} (links : Links Value) (item : Reader Value)

/-- The links of a chain behind a value: for each the token that it goes on by and an
item. -/
def readChain
    (value : Value)
    (tokens : List Token) :
    Except Fault (Value × Tail tokens) :=
  match tokens with
  | [] => .ok (value, ⟨[], Nat.le_refl _⟩)
  | token :: others =>
      match links token with
      | none => .ok (value, ⟨token :: others, Nat.le_refl _⟩)
      | some combine => do
          let (right, rest) ← item others
          let value ← combine value right
          let (value, behind) ← readChain value rest.val
          return (value, ⟨behind.val, by
            have shorter := rest.property
            have further := behind.property
            rw [List.length_cons]
            omega⟩)
termination_by tokens.length
decreasing_by exact Nat.lt_trans rest.property (Nat.lt_succ_self _)

/-- An item and the chain behind it. -/
def readSequence : Reader Value := fun tokens => do
  let (value, rest) ← item tokens
  let (value, others) ← readChain links item value rest.val
  return (value, ⟨others.val, Nat.lt_of_le_of_lt others.property rest.property⟩)

end Chains

section Categories

variable {Value : Type} (meaning : Interpretation Value) (finish : Nat) (inner : Level Value)

/-- The sum in a pair of parentheses whose left half has been taken. -/
def readGroup : Reader Value := fun tokens => do
  let (value, rest) ← inner.sum tokens
  match found : rest.val with
  | ⟨.rightParenthesis, _, _⟩ :: others =>
      return (value, ⟨others, by
        have shorter := rest.property
        rw [found, List.length_cons] at shorter
        omega⟩)
  | others => throw (unexpected finish .closingParenthesis others)

/-- The sum in a pair of bars whose left half has been taken. -/
def readBars : Reader Value := fun tokens => do
  let (value, rest) ← inner.sum tokens
  match found : rest.val with
  | ⟨.bar, _, _⟩ :: others =>
      return (meaning.absolute value, ⟨others, by
        have shorter := rest.property
        rw [found, List.length_cons] at shorter
        omega⟩)
  | others => throw (unexpected finish .closingBar others)

/-- The argument of a function whose name has been taken. -/
def readArgument (name : FunctionName) : Reader Value := fun tokens =>
  match tokens with
  | ⟨.leftParenthesis, _, _⟩ :: others => do
      let (value, rest) ← readGroup finish inner others
      return (value, ⟨rest.val, by
        have shorter := rest.property
        rw [List.length_cons]
        omega⟩)
  | others => .error (unexpected finish (.argumentOf name.word) others)

/-- A number, a constant, or what a bracket, a function or a root encloses. -/
def readPrimary : Reader Value := fun tokens =>
  match tokens with
  | [] => .error (unexpected finish .operand [])
  | token :: others =>
      have taken {rest : List Token} (shorter : rest.length < others.length) :
          rest.length < (token :: others).length := by
        rw [List.length_cons]
        omega
      match token.lexeme with
      | .number value | .constant value => do
          let value ← meaning.literal token value
          return (value, ⟨others, by simp⟩)
      | .leftParenthesis => do
          let (value, rest) ← readGroup finish inner others
          return (value, ⟨rest.val, taken rest.property⟩)
      | .bar => do
          let (value, rest) ← readBars meaning finish inner others
          return (value, ⟨rest.val, taken rest.property⟩)
      | .function name power base => do
          let (argument, rest) ← readArgument finish inner name others
          let value ← meaning.apply name power base argument
          return (value, ⟨rest.val, taken rest.property⟩)
      | .root index => do
          let (radicand, rest) ← inner.postfixed others
          let value ← meaning.root index radicand
          return (value, ⟨rest.val, taken rest.property⟩)
      | _ => .error (unexpected finish .operand (token :: others))

/-- The factorials and superscripts behind a value. -/
def readPostfixes (value : Value) :
    (tokens : List Token) → Except Fault (Value × Tail tokens)
  | [] => .ok (value, ⟨[], Nat.le_refl _⟩)
  | token :: others =>
      have kept {rest : List Token} (shorter : rest.length ≤ others.length) :
          rest.length ≤ (token :: others).length := by
        rw [List.length_cons]
        omega
      match token.lexeme with
      | .factorial => do
          let value ← meaning.factorial value
          let (value, rest) ← readPostfixes value others
          return (value, ⟨rest.val, kept rest.property⟩)
      | .superscript exponent => do
          let value ← meaning.superscript value exponent
          let (value, rest) ← readPostfixes value others
          return (value, ⟨rest.val, kept rest.property⟩)
      | _ => .ok (value, ⟨token :: others, Nat.le_refl _⟩)

/-- A primary with its factorials and superscripts. -/
def readPostfixed : Reader Value := fun tokens => do
  let (value, rest) ← readPrimary meaning finish inner tokens
  let (value, others) ← readPostfixes meaning value rest.val
  return (value, ⟨others.val, Nat.lt_of_le_of_lt others.property rest.property⟩)

/-- A postfixed value, raised to a signed exponent if one follows. -/
def readPower : Reader Value := fun tokens => do
  let (base, rest) ← readPostfixed meaning finish inner tokens
  match found : rest.val with
  | ⟨.operator .power, _, _⟩ :: others => do
      let (exponent, behind) ← inner.signed others
      let value ← meaning.raise base exponent
      return (value, ⟨behind.val, by
        have shorter := rest.property
        have further := behind.property
        rw [found, List.length_cons] at shorter
        omega⟩)
  | _ => return (base, rest)

/-- A minus sign before a signed value, or a power. -/
def readSigned : Reader Value := fun tokens =>
  match tokens with
  | ⟨.operator .minus, _, _⟩ :: others => do
      let (value, rest) ← inner.signed others
      return (meaning.negate value, ⟨rest.val, by
        have shorter := rest.property
        rw [List.length_cons]
        omega⟩)
  | others => readPower meaning finish inner others

/-- Signed values, multiplied and divided from left to right. -/
def readProduct : Reader Value :=
  readSequence meaning.factors (readSigned meaning finish inner)

/-- Products, added and subtracted from left to right. -/
def readSum : Reader Value :=
  readSequence meaning.terms (readProduct meaning finish inner)

end Categories

end Grammar

namespace Level

open Grammar

variable {Value : Type} (meaning : Interpretation Value) (finish : Nat)

/-- No level is left: whatever is to be read lies too deep. -/
def exhausted : Level Value :=
  let tooDeep : Reader Value := fun tokens =>
    .error (.formula (.nestedTooDeep (nextPosition finish tokens)))
  ⟨tooDeep, tooDeep, tooDeep⟩

/-- The level around an inner one. -/
def around (inner : Level Value) : Level Value :=
  ⟨readSum meaning finish inner, readSigned meaning finish inner,
    readPostfixed meaning finish inner⟩

/-- The readers that may still go down the given number of levels, less one. -/
def above : Nat → Level Value
  | 0 => exhausted finish
  | levels + 1 => around meaning finish (above levels)

end Level

/-- The meaning of a formula: a sum that takes all its tokens. -/
def TokenLine.read
    {Value : Type}
    (meaning : Interpretation Value)
    (line : TokenLine) :
    Except Fault Value := do
  let outermost := Level.above meaning line.finish (deepestNesting + 1)
  let (value, rest) ← outermost.sum line.tokens
  match rest.val with
  | [] => return value
  | others => throw (Grammar.unexpected line.finish .operatorOrEnd others)

end FormulaGrid
