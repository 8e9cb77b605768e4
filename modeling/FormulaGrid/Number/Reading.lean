import FormulaGrid.Number.Numeral

/-!
Contract: reading decimal numbers.

Owns:
- the double nearest to a decimal (`floatOfDecimal`);
- the tolerant reading of a double (`readFloat`), which takes all that
  `Numeral.readInteger` takes in base ten, a decimal point, an exponent and the
  names of infinity and of not-a-number.
-/

namespace FormulaGrid

/-- Decimal exponents beyond this one, either way, leave the range of doubles. -/
def farExponent : Int := 400

/-- The double nearest to a decimal with the given digits and exponent. A decimal
far out of range is infinite or zero at once, so that no huge power is formed. -/
def floatOfDecimal (digits : List Nat) (exponent : Int) : Float :=
  let coefficient := Text.valueOfDigits 10 digits
  let leading := ((digits.dropWhile (· == 0)).length : Int) + exponent
  if coefficient == 0 || leading < -farExponent then
    0.0
  else if farExponent < leading then
    1.0 / 0.0
  else if exponent < 0 then
    Float.ofScientific coefficient true exponent.natAbs
  else
    Float.ofScientific coefficient false exponent.natAbs

namespace Numeral

/-- Drop underscores; each must stand between two digits. -/
def dropUnderscores (afterDigit : Bool) : List Char → Option (List Char)
  | [] => some []
  | '_' :: rest =>
      match rest with
      | next :: _ =>
          if afterDigit && next.isDigit then dropUnderscores false rest else none
      | [] => none
  | character :: rest =>
      (dropUnderscores character.isDigit rest).map (character :: ·)

/-- The common digits at the front of a text, as values. -/
def leadingDigits (characters : List Char) : List Nat :=
  (characters.takeWhile Char.isDigit).filterMap (digitBelow 10)

/-- The text after the common digits at its front. -/
def afterDigits (characters : List Char) : List Char :=
  characters.dropWhile Char.isDigit

/-- The exponent that ends a number; no text means no exponent. -/
def readExponent : List Char → Option Int
  | [] => some 0
  | mark :: rest =>
      if mark == 'e' || mark == 'E' then
        let (negative, digits) := splitSign rest
        if digits.isEmpty || !digits.all Char.isDigit then
          none
        else
          let magnitude := Text.valueOfDigits 10 (leadingDigits digits)
          some (if negative then -(magnitude : Int) else (magnitude : Int))
      else
        none

/-- A number without its sign: digits, a point, digits, an exponent. One of the
two runs of digits must be there. -/
def readUnsigned (characters : List Char) : Option Float := do
  let whole := leadingDigits characters
  let (fraction, tail) :=
    match afterDigits characters with
    | '.' :: rest => (leadingDigits rest, afterDigits rest)
    | rest => ([], rest)
  if whole.isEmpty && fraction.isEmpty then
    none
  else
    let exponent ← readExponent tail
    return floatOfDecimal (whole ++ fraction) (exponent - (fraction.length : Int))

/-- The names of infinity and of not-a-number, small letters or capitals. -/
def readNamed (characters : List Char) : Option Float :=
  let name := String.ofList (characters.map Char.toLower)
  if name == "inf" || name == "infinity" then
    some (1.0 / 0.0)
  else if name == "nan" then
    some (0.0 / 0.0)
  else
    none

/-- The double that a text writes. -/
def readFloat (text : String) : Option Float := do
  let (negative, unsigned) := splitSign (unpadded text.toList)
  let magnitude ←
    match readNamed unsigned with
    | some named => some named
    | none => (dropUnderscores false unsigned).bind readUnsigned
  return if negative then -magnitude else magnitude

end Numeral

end FormulaGrid
