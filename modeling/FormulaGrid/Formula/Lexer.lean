import FormulaGrid.Formula.Token
import FormulaGrid.Number.Conversion
import FormulaGrid.Number.Reading

/-!
Contract: the split of a formula into tokens.

Owns:
- the alphabet: digits, letters, raised and lowered digits, signs;
- the lexeme at the front of a text (`Lexeme.read`);
- the tokens of a text (`tokenize`).

Blanks separate tokens and are otherwise skipped. A character or a word outside
the alphabet is a fault; nothing is guessed. The lexeme at the front of a text
depends on that text alone, except that a superscript may not come first.
-/

namespace FormulaGrid

open Text

def circleConstant : Float := 3.141592653589793

def naturalBase : Float := 2.718281828459045

def goldenRatio : Float := (1.0 + Float.sqrt 5.0) / 2.0

def superscriptDigits : List Char := ['⁰', '¹', '²', '³', '⁴', '⁵', '⁶', '⁷', '⁸', '⁹']

def subscriptDigits : List Char := ['₀', '₁', '₂', '₃', '₄', '₅', '₆', '₇', '₈', '₉']

def isSuperscript (character : Char) : Bool :=
  superscriptDigits.contains character

def isSubscript (character : Char) : Bool :=
  subscriptDigits.contains character

/-- The values of the characters of a run in an alphabet of ten digits. -/
def digitIndices (alphabet run : List Char) : List Nat :=
  run.map alphabet.idxOf

/-- The numeral at the front of a text: digits, with a point and digits behind
them, or a point and digits alone. It is empty where no number stands. -/
def numeralSpan (characters : List Char) : List Char :=
  let whole := characters.takeWhile Char.isDigit
  match characters.dropWhile Char.isDigit with
  | '.' :: rest =>
      let fraction := rest.takeWhile Char.isDigit
      if fraction.isEmpty then whole else whole ++ '.' :: fraction
  | _ => whole

/-- The double that a numeral denotes. -/
def numeralValue (span : List Char) : Float :=
  let whole := Numeral.leadingDigits span
  let fraction := Numeral.leadingDigits ((Numeral.afterDigits span).drop 1)
  floatOfDecimal (whole ++ fraction) (-(fraction.length : Int))

/-- The integer that a run of raised digits denotes; a run may be too long to be
read. -/
def superscriptValue (run : List Char) : Except Fault Nat :=
  if Numeral.longest < run.length then
    .error (.argument (.overlongNumeral run.length))
  else
    .ok (valueOfDigits 10 (digitIndices superscriptDigits run))

/-- The operator that a sign writes, each in all its spellings. -/
def Operator.ofSign? : Char → Option Operator
  | '+' => some .plus
  | '-' | '−' => some .minus
  | '*' | '×' | '·' => some .times
  | '/' | '÷' => some .dividedBy
  | '^' => some .power
  | _ => none

/-- What stands at the front of a text: the lexeme, the text it is known by, and
how many characters it takes after its first one. -/
structure Reading where
  lexeme : Lexeme
  text : String
  further : Nat

namespace Lexeme

/-- A run of raised digits is the index of the root sign behind it, or else the
exponent of what stands before it. -/
def readSuperscript
    (first : Bool)
    (position : Nat)
    (characters : List Char) :
    Except Fault Reading := do
  let run := characters.takeWhile isSuperscript
  let value ← superscriptValue run
  match characters.dropWhile isSuperscript with
  | '√' :: _ =>
      let index ← floatOfInteger value
      return ⟨root index, String.ofList (run ++ ['√']), run.length⟩
  | _ =>
      if first then
        throw (.formula (.danglingSuperscript (String.ofList run) position))
      let exponent ← floatOfInteger value
      return ⟨superscript exponent, String.ofList run, run.length - 1⟩

/-- A word is the natural base or the name of a function. The name may have a
power behind it, and that of the logarithm a base before the power. -/
def readWord
    (position : Nat)
    (characters : List Char) :
    Except Fault Reading := do
  let letters := characters.takeWhile Char.isAlpha
  let word := String.ofList letters
  let rest := characters.dropWhile Char.isAlpha
  if word == "e" then
    return ⟨constant naturalBase, word, 0⟩
  match FunctionName.ofWord? word with
  | none => throw (.formula (.unknownWord word position))
  | some name =>
      let lowered := if name == .log then rest.takeWhile isSubscript else []
      let raised := (rest.drop lowered.length).takeWhile isSuperscript
      let base :=
        if lowered.isEmpty then
          none
        else
          some (floatOfDecimal (digitIndices subscriptDigits lowered) 0)
      let power ← if raised.isEmpty then pure none else some <$> superscriptValue raised
      return ⟨function name power base, word,
        letters.length + lowered.length + raised.length - 1⟩

/-- A sign is a lexeme of one character. -/
def readSign (position : Nat) (sign : Char) : Except Fault Reading :=
  let text := String.singleton sign
  match Operator.ofSign? sign with
  | some symbol => .ok ⟨operator symbol, symbol.symbol, 0⟩
  | none =>
      match sign with
      | 'π' => .ok ⟨constant circleConstant, text, 0⟩
      | 'φ' => .ok ⟨constant goldenRatio, text, 0⟩
      | '√' => .ok ⟨root 2.0, text, 0⟩
      | '∛' => .ok ⟨root 3.0, text, 0⟩
      | '∜' => .ok ⟨root 4.0, text, 0⟩
      | '!' => .ok ⟨factorial, text, 0⟩
      | '(' => .ok ⟨leftParenthesis, text, 0⟩
      | ')' => .ok ⟨rightParenthesis, text, 0⟩
      | '|' => .ok ⟨bar, text, 0⟩
      | _ => .error (.formula (.unknownSymbol sign position))

/-- The lexeme that a text starts with; `head` is not blank. -/
def read
    (first : Bool)
    (position : Nat)
    (head : Char)
    (tail : List Char) :
    Except Fault Reading :=
  let span := numeralSpan (head :: tail)
  if !span.isEmpty then
    .ok ⟨number (numeralValue span), String.ofList span, span.length - 1⟩
  else if isSuperscript head then
    readSuperscript first position (head :: tail)
  else if head.isAlpha then
    readWord position (head :: tail)
  else
    readSign position head

end Lexeme

/-- The tokens of a text whose first character has the given position. `first`
says that no token has been seen yet. -/
def scan (first : Bool) (position : Nat) : List Char → Except Fault (List Token)
  | [] => .ok []
  | head :: tail =>
      if isBlank head then
        scan first (position + 1) tail
      else do
        let reading ← Lexeme.read first position head tail
        let others ←
          scan false (position + 1 + reading.further) (tail.drop reading.further)
        return ⟨reading.lexeme, reading.text, position⟩ :: others
termination_by characters => characters.length
decreasing_by
  · simp
  · simp only [List.length_drop, List.length_cons]
    omega

/-- The tokens of a formula. A text of blanks alone has none and is a fault. -/
def tokenize (text : String) : Except Fault TokenLine :=
  if allBlank text.toList then
    .error (.formula .emptyText)
  else
    (scan true 0 text.toList).map fun tokens => ⟨tokens, text.length⟩

end FormulaGrid
