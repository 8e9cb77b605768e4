import FormulaGrid.Datum

/-!
Contract: everything that can go wrong, by cause.

Owns:
- the families of typed failures with their codes (`Family`, `Code`);
- the causes: a formula that has no value (`FormulaFault`), a search that comes
  to no end (`SearchFault`), a text or grid that cannot be converted
  (`CodecFault`), and arguments that are refused (`Fault`);
- the message of each cause, and the fault that is reported when it cannot be
  written (`Fault.reported`).

A formula has no value for reasons of its own, which a verification records; a
numeral that no number holds is a reason of another kind and is passed on.
-/

namespace FormulaGrid

/-- The stable identifiers of the rules that a typed failure can break. -/
inductive Code where
  | parse
  | invalidExpression
  | divisionByZero
  | insufficientDiversity
  | searchExhausted
  | encode
  | decode
  | ambiguousCell
deriving DecidableEq, Repr

def Code.label : Code → String
  | parse => "parse_error"
  | invalidExpression => "invalid_expression"
  | divisionByZero => "division_by_zero"
  | insufficientDiversity => "insufficient_diversity"
  | searchExhausted => "search_exhausted"
  | encode => "encode_error"
  | decode => "decode_error"
  | ambiguousCell => "ambiguous_cell"

def Code.all : List Code :=
  [parse, invalidExpression, divisionByZero, insufficientDiversity, searchExhausted, encode,
    decode, ambiguousCell]

def Code.ofLabel? (label : String) : Option Code :=
  Code.all.find? fun code => code.label == label

/-- The families of typed failures. -/
inductive Family where
  | core
  | expression
  | parse
  | invalidExpression
  | numericOverflow
  | divisionByZero
  | generation
  | insufficientDiversity
  | searchExhausted
  | codec
  | encode
  | decode
  | ambiguousCell
deriving DecidableEq, Repr

namespace Family

/-- The next wider family. -/
def parent? : Family → Option Family
  | core => none
  | expression | generation | codec => some core
  | parse | invalidExpression | divisionByZero => some expression
  | numericOverflow => some invalidExpression
  | insufficientDiversity | searchExhausted => some generation
  | encode | decode => some codec
  | ambiguousCell => some decode

def code : Family → Code
  | parse => .parse
  | divisionByZero => .divisionByZero
  | insufficientDiversity => .insufficientDiversity
  | searchExhausted => .searchExhausted
  | encode => .encode
  | decode => .decode
  | ambiguousCell => .ambiguousCell
  | core | expression | invalidExpression | numericOverflow | generation | codec =>
      .invalidExpression

/-- The wider families, the family itself first. Four levels are the deepest. -/
def lineage (family : Family) : List Family :=
  let second := family.parent?
  let third := second.bind parent?
  let fourth := third.bind parent?
  family :: [second, third, fourth].filterMap id

/-- The failures of the family also count as arithmetic divisions by zero. -/
def isZeroDivision (family : Family) : Bool :=
  family == divisionByZero

end Family

/-- The message of a typed failure: its code in brackets, then the reason. -/
def typedMessage (code : Code) (reason : String) : String :=
  "[" ++ code.label ++ "] " ++ reason

/-- What the reader of a formula wanted to see. -/
inductive Wanted where
  | operand
  | operatorOrEnd
  | closingParenthesis
  | closingBar
  | argumentOf (function : String)
deriving DecidableEq, Repr

def Wanted.name : Wanted → String
  | operand => "a number, constant, function or '('"
  | operatorOrEnd => "an operator or end of input"
  | closingParenthesis => "')'"
  | closingBar => "closing '|'"
  | argumentOf function => "'(' after " ++ function

/-- Deepest nesting of groups, roots, signs and exponents that a formula may
have. -/
def deepestNesting : Nat := 64

/-- Why a formula has no value. Positions count characters from zero. -/
inductive FormulaFault where
  | emptyText
  | danglingSuperscript (run : String) (position : Nat)
  | unexpected (wanted : Wanted) (found : Option String) (position : Nat)
  | nestedTooDeep (position : Nat)
  | unknownSymbol (symbol : Char) (position : Nat)
  | unknownWord (word : String) (position : Nat)
  | powerNotReal (base : Float) (exponent : Number)
  | smallRootIndex (index : Int)
  | evenRootOfNegative (radicand : Float)
  | unfitFactorial (operand : Float)
  | logarithmOfNonPositive (function : String) (argument : Float)
  | unfitLogarithmBase (base : Float)
  | notFinite (operation : String)
  | powerOverflow (base : Float) (exponent : Number)
  | factorialOverflow (operand : Int)
  | divisionByZero (position : Nat)
  | zeroToNegativePower

namespace FormulaFault

def family : FormulaFault → Family
  | emptyText | danglingSuperscript .. | unexpected .. | nestedTooDeep _ => .parse
  | unknownSymbol .. | unknownWord .. | powerNotReal .. | smallRootIndex _ |
    evenRootOfNegative _ | unfitFactorial _ | logarithmOfNonPositive .. |
    unfitLogarithmBase _ => .invalidExpression
  | notFinite _ | powerOverflow .. | factorialOverflow _ => .numericOverflow
  | divisionByZero _ | zeroToNegativePower => .divisionByZero

/-- Where in the text the cause lies, if it lies at one place. -/
def position? : FormulaFault → Option Nat
  | emptyText => some 0
  | danglingSuperscript _ position | unexpected _ _ position | nestedTooDeep position |
    unknownSymbol _ position | unknownWord _ position | divisionByZero position =>
      some position
  | _ => none

def reason : FormulaFault → String
  | emptyText => "empty expression"
  | danglingSuperscript run _ => "superscript " ++ Text.quoted run ++ " has no operand"
  | unexpected wanted found position =>
      let shown :=
        match found with
        | some text => Text.quoted text
        | none => "end of input"
      "expected " ++ wanted.name ++ " at position " ++ Numeral.natural position ++
        ", found " ++ shown
  | nestedTooDeep _ =>
      "expression nests deeper than " ++ Numeral.natural deepestNesting ++ " levels"
  | unknownSymbol symbol position =>
      "unknown symbol " ++ Text.quoted (String.singleton symbol) ++ " at position " ++
        Numeral.natural position
  | unknownWord word position =>
      "unknown identifier " ++ Text.quoted word ++ " at position " ++ Numeral.natural position
  | powerNotReal base exponent =>
      "power " ++ floatText base ++ "^" ++ exponent.text ++ " is not a real number"
  | smallRootIndex index => "root index must be at least 2, got " ++ Numeral.integer index
  | evenRootOfNegative radicand => "even root of negative number " ++ floatText radicand
  | unfitFactorial operand =>
      "factorial requires a non-negative integer, got " ++ floatText operand
  | logarithmOfNonPositive function argument =>
      function ++ " of non-positive number " ++ floatText argument
  | unfitLogarithmBase base => "invalid logarithm base " ++ floatText base
  | notFinite operation => operation ++ " produced a non-finite result"
  | powerOverflow base exponent =>
      "power " ++ floatText base ++ "^" ++ exponent.text ++ " overflows"
  | factorialOverflow operand => Numeral.integer operand ++ "! overflows a float"
  | divisionByZero position => "division by zero at position " ++ Numeral.natural position
  | zeroToNegativePower => "zero raised to a negative power"

def message (fault : FormulaFault) : String :=
  typedMessage fault.family.code fault.reason

end FormulaFault

/-- Why a search for notations of a target ended without enough of them. -/
inductive SearchFault where
  | insufficient (target : Number) (produced requested : Int)
  | exhausted (limit : Int) (target : Number) (produced requested : Int)

namespace SearchFault

def family : SearchFault → Family
  | insufficient .. => .insufficientDiversity
  | exhausted .. => .searchExhausted

def target : SearchFault → Number
  | insufficient target _ _ | exhausted _ target _ _ => target

/-- How many notations had been found. -/
def produced : SearchFault → Int
  | insufficient _ produced _ | exhausted _ _ produced _ => produced

def requested : SearchFault → Int
  | insufficient _ _ requested | exhausted _ _ _ requested => requested

def reason : SearchFault → String
  | insufficient target produced requested =>
      "only " ++ Numeral.integer produced ++ " of " ++ Numeral.integer requested ++
        " distinct expressions verify against " ++ target.text
  | exhausted limit target produced requested =>
      "synthesis budget of " ++ Numeral.integer limit ++ " attempts exhausted for target " ++
        target.text ++ " with " ++ Numeral.integer produced ++ "/" ++
        Numeral.integer requested ++ " expressions"

/-- The integers that the message is written from. -/
def integers : SearchFault → List Int
  | insufficient target produced requested => target.integers ++ [produced, requested]
  | exhausted limit target produced requested =>
      limit :: target.integers ++ [produced, requested]

def message (fault : SearchFault) : String :=
  typedMessage fault.family.code fault.reason

end SearchFault

/-- Bits that write one character. -/
def bitsPerCharacter : Nat := 8

/-- Why a cell that is not the zero cell does not stand for a one. -/
inductive Mismatch where
  | noValue (cause : FormulaFault)
  | otherValue (value : Float)

def Mismatch.reason : Mismatch → String
  | noValue cause => cause.message
  | otherValue value => "evaluates to " ++ floatText value ++ ", not 1"

/-- Why a text cannot be written as a grid, or a grid not be read. Rows and
columns count from zero. -/
inductive CodecFault where
  | unfitWidth (width : Int)
  | unfitPoolSize (size : Int)
  | textOfKind (kind : String)
  | wideCharacter (character : Char) (position : Nat)
  | unevenBits (length : Nat)
  | gridIsText
  | rowIsText (row : Nat)
  | cellOfKind (row column : Nat) (kind : String)
  | notRows (kind : String)
  | unevenCells (count : Nat)
  | emptyRow (row : Nat)
  | unequalRow (row length width : Nat)
  | overlongRow (row length width : Nat)
  | unfitCell (row : Nat) (cell : Datum)
  | ambiguousCell (row column : Nat) (cell : String) (mismatch : Mismatch)

/-- The sentence that refuses to go through a value of some kind. -/
def notIterableReason (kind : String) : String :=
  "'" ++ kind ++ "' object is not iterable"

namespace CodecFault

def family : CodecFault → Family
  | unfitWidth _ | unfitPoolSize _ | textOfKind _ | wideCharacter .. => .encode
  | ambiguousCell .. => .ambiguousCell
  | _ => .decode

def reason : CodecFault → String
  | unfitWidth width => "grid width must be at least 1, got " ++ Numeral.integer width
  | unfitPoolSize size => "pool_size must be at least 1, got " ++ Numeral.integer size
  | textOfKind kind => "text must be str, got " ++ kind
  | wideCharacter character position =>
      let code := String.ofList ((Nat.toDigits 16 character.toNat).map Char.toUpper)
      let padded := String.ofList (List.replicate (4 - code.length) '0') ++ code
      "character " ++ Text.quoted (String.singleton character) ++ " (U+" ++ padded ++
        ") at position " ++ Numeral.natural position ++ " does not fit in " ++
        Numeral.natural bitsPerCharacter ++ " bits"
  | unevenBits length =>
      "bit length " ++ Numeral.natural length ++ " is not a multiple of " ++
        Numeral.natural bitsPerCharacter
  | gridIsText => "grid must be a sequence of rows, not a string"
  | rowIsText row => "row " ++ Numeral.natural row ++ " must be a sequence of cells"
  | cellOfKind row column kind =>
      "cell (" ++ Numeral.natural row ++ ", " ++ Numeral.natural column ++
        ") must be str, got " ++ kind
  | notRows kind => "grid is not a sequence of rows: " ++ notIterableReason kind
  | unevenCells count =>
      "grid holds " ++ Numeral.natural count ++ " cells, not a multiple of " ++
        Numeral.natural bitsPerCharacter
  | emptyRow row => "row " ++ Numeral.natural row ++ " is empty"
  | unequalRow row length width =>
      "row " ++ Numeral.natural row ++ " has " ++ Numeral.natural length ++
        " cells, expected " ++ Numeral.natural width
  | overlongRow row length width =>
      "row " ++ Numeral.natural row ++ " has " ++ Numeral.natural length ++
        " cells, more than width " ++ Numeral.natural width
  | unfitCell row cell =>
      "row " ++ Numeral.natural row ++ " holds an invalid cell: " ++ cell.shown
  | ambiguousCell row column cell mismatch =>
      "cell " ++ Text.quoted cell ++ " at row " ++ Numeral.natural row ++ ", column " ++
        Numeral.natural column ++ " does not verify: " ++ mismatch.reason

/-- The integers that the message is written from, its counts and places apart. -/
def integers : CodecFault → List Int
  | unfitWidth width => [width]
  | unfitPoolSize size => [size]
  | unfitCell _ cell => cell.integers
  | _ => []

def message (fault : CodecFault) : String :=
  typedMessage fault.family.code fault.reason

end CodecFault

/-- Why a number or a text is refused as an argument. -/
inductive ArgumentFault where
  | unfitTolerance (tolerance : Number)
  | targetNotFinite (target : Number)
  | smallCount (count : Int)
  | smallAttempts (attempts : Int)
  | negativeSize (size : Int)
  | emptyPool
  | notBinary (group : String)
  | negativeCharacter
  | overlongNumeral (digits : Nat)
  | overlongInteger
  | notANumber
  | nullInPath
  | unnamedKind
  | outsideDomain
  | negativeFactorial

def ArgumentFault.message : ArgumentFault → String
  | unfitTolerance tolerance =>
      "tolerance must be a positive finite number, got " ++ tolerance.text
  | targetNotFinite target => "target must be finite, got " ++ target.text
  | smallCount count => "min_count must be at least 1, got " ++ Numeral.integer count
  | smallAttempts attempts =>
      "max_attempts must be at least 1, got " ++ Numeral.integer attempts
  | negativeSize size => "size must be non-negative, got " ++ Numeral.integer size
  | emptyPool => "identity pool is empty"
  | notBinary group => "invalid literal for int() with base 2: " ++ Text.quoted group
  | negativeCharacter => "chr() arg not in range(0x110000)"
  | overlongNumeral digits =>
      "Exceeds the limit (" ++ Numeral.natural Numeral.longest ++
        " digits) for integer string conversion: value has " ++ Numeral.natural digits ++
        " digits; use sys.set_int_max_str_digits() to increase the limit"
  | overlongInteger =>
      "Exceeds the limit (" ++ Numeral.natural Numeral.longest ++
        " digits) for integer string conversion; use sys.set_int_max_str_digits() to " ++
        "increase the limit"
  | notANumber => "cannot convert float NaN to integer"
  | nullInPath => "embedded null byte"
  | unnamedKind => "[] is not a valid ExpressionKind"
  | outsideDomain => "math domain error"
  | negativeFactorial => "factorial() not defined for negative values"

/-- The integers that the message is written from, its counts apart. -/
def ArgumentFault.integers : ArgumentFault → List Int
  | unfitTolerance number | targetNotFinite number => number.integers
  | smallCount value | smallAttempts value | negativeSize value => [value]
  | _ => []

/-- Why an expression cannot be made. -/
inductive DefinitionFault where
  | noText
  | blankInText (text : String)
  | zeroText
  | unknownKind (kind : String)
  | synthesizedEntry

def DefinitionFault.message : DefinitionFault → String
  | noText => "expression text is required"
  | blankInText text => "expression text must not contain whitespace: " ++ Text.quoted text
  | zeroText => "the literal \"0\" is reserved for zero cells"
  | unknownKind kind => "kind must be ExpressionKind, got <class '" ++ kind ++ "'>"
  | synthesizedEntry => "catalog entries cannot be SYNTHESIZED"

/-- Why a value of some kind is refused, or no value can be used at all. -/
inductive KindFault where
  | formula (kind : String)
  | target (kind : String)
  | name (kind : String)
  | notIterable (kind : String)
  | noSubtrahend
  | noDisplayedNumber
  | noComparand (relation : String)
  | noLookupKey
  | complexNumber
deriving DecidableEq, Repr

def KindFault.message : KindFault → String
  | formula kind => "expression must be str, got " ++ kind
  | target kind => "target must be a number, got " ++ kind
  | name kind => "name must be str, got " ++ kind
  | notIterable kind => notIterableReason kind
  | noSubtrahend => "unsupported operand type(s) for -: 'float' and 'list'"
  | noDisplayedNumber => "unsupported format string passed to list.__format__"
  | noComparand relation =>
      "'" ++ relation ++ "' not supported between instances of 'list' and 'int'"
  | noLookupKey => "unhashable type: 'list'"
  | complexNumber => "must be real number, not complex"

/-- Why a number has no counterpart of the other kind, or a result none at all. -/
inductive RangeFault where
  | integerBeyondFloat
  | infinityToInteger
  | resultBeyondFloat
  | powerBeyondFloat
deriving DecidableEq, Repr

def RangeFault.message : RangeFault → String
  | integerBeyondFloat => "int too large to convert to float"
  | infinityToInteger => "cannot convert float infinity to integer"
  | resultBeyondFloat => "math range error"
  | powerBeyondFloat => "(34, 'Numerical result out of range')"

/-- Where a zero stands that nothing can be divided by. -/
inductive ZeroFault where
  | divisor
  | negativePower
deriving DecidableEq, Repr

def ZeroFault.message : ZeroFault → String
  | divisor => "float division by zero"
  | negativePower => "0.0 cannot be raised to a negative power"

/-- Everything that an operation can fail with. -/
inductive Fault where
  | formula (cause : FormulaFault)
  | search (cause : SearchFault)
  | codec (cause : CodecFault)
  | argument (cause : ArgumentFault)
  | definition (cause : DefinitionFault)
  | duplicateText (text : String)
  | kind (cause : KindFault)
  | range (cause : RangeFault)
  | zero (cause : ZeroFault)
  | noPool (kind : String)
  | rowIndex

namespace Fault

/-- The family of a typed failure; the other failures belong to none. -/
def family? : Fault → Option Family
  | formula cause => some cause.family
  | search cause => some cause.family
  | codec cause => some cause.family
  | _ => none

def message : Fault → String
  | formula cause => cause.message
  | search cause => cause.message
  | codec cause => cause.message
  | argument cause => cause.message
  | definition cause => cause.message
  | duplicateText text => "duplicate catalog text: " ++ Text.quoted text
  | kind cause => cause.message
  | range cause => cause.message
  | zero cause => cause.message
  | noPool label => "the catalog has no " ++ label ++ " pool"
  | rowIndex => "tuple index out of range"

/-- The failure speaks of the value of an argument: its number, its text or the
set it belongs to. -/
def concernsValue : Fault → Bool
  | argument _ | definition _ | duplicateText _ => true
  | _ => false

/-- The integers of any size that the message is written from. -/
def integers : Fault → List Int
  | search cause => cause.integers
  | codec cause => cause.integers
  | argument cause => cause.integers
  | _ => []

/-- The fault that is reported. The message is written as soon as a fault is found,
so an integer in it that is too long to be written is a fault in its place. -/
def reported (fault : Fault) : Fault :=
  if fault.integers.all Numeral.isWritable then fault else argument .overlongInteger

theorem reported_of_writable
    {fault : Fault}
    (writable : ∀ value ∈ fault.integers, Numeral.isWritable value = true) :
    fault.reported = fault :=
  if_pos (List.all_eq_true.mpr writable)

theorem reported_cases (fault : Fault) :
    fault.reported = fault ∨ fault.reported = argument .overlongInteger := by
  unfold reported
  split
  · exact .inl rfl
  · exact .inr rfl

end Fault

end FormulaGrid
