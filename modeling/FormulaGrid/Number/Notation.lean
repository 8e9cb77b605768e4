import FormulaGrid.Number.Numeral
import FormulaGrid.Number.Shortest

/-!
Contract: the written forms of doubles.

Owns:
- the layout of a decimal by a style: with its digits in place or with an
  exponent (`Decimal.write`);
- the three styles in use (`Style.standard`, `Style.general`, `Style.expanded`);
- the standard text of a double (`floatText`), which reads back as it, and its
  text rounded to a count of significant digits (`generalText`).
-/

namespace FormulaGrid

/-- How a decimal is laid out. `inPlace` says for which exponents of the leading
digit the digits stand in their places; `wholeMark` ends a whole number that is
written in this way. -/
structure Style where
  inPlace : Int → Bool
  wholeMark : List Char

namespace Style

/-- Digits in place from the fourth decimal up to sixteen whole digits; a whole
number shows one zero after the point. -/
def standard : Style :=
  ⟨fun leading => -4 ≤ leading && leading < 16, ['.', '0']⟩

/-- Digits in place from the fourth decimal up to the given count of whole
digits; a whole number shows no point. -/
def general (digits : Nat) : Style :=
  ⟨fun leading => -4 ≤ leading && leading < (digits : Int), []⟩

/-- Digits in place always; a whole number shows no point. -/
def expanded : Style :=
  ⟨fun _ => true, []⟩

end Style

namespace Decimal

/-- The digits without the zeros at the end; zero has one digit. -/
def significantDigits (decimal : Decimal) : List Char :=
  let trimmed :=
    ((Nat.toDigits 10 decimal.coefficient).reverse.dropWhile (· == '0')).reverse
  if trimmed.isEmpty then ['0'] else trimmed

/-- The exponent of the leading digit; that of zero is zero. -/
def leading (decimal : Decimal) : Int :=
  if decimal.coefficient == 0 then
    0
  else
    decimal.exponent + (digitCount decimal.coefficient : Int) - 1

/-- Digits in their places, the leading one at the given exponent. -/
def layInPlace (wholeMark digits : List Char) (leading : Int) : List Char :=
  if leading < 0 then
    '0' :: '.' :: (List.replicate (-leading - 1).toNat '0' ++ digits)
  else
    let places := leading.toNat + 1
    if digits.length ≤ places then
      digits ++ List.replicate (places - digits.length) '0' ++ wholeMark
    else
      digits.take places ++ '.' :: digits.drop places

/-- One digit before the point, the others behind it, then the exponent with its
sign and at least two digits. -/
def layWithExponent (digits : List Char) (leading : Int) : List Char :=
  let exponentDigits := Nat.toDigits 10 leading.natAbs
  let shown := List.replicate (2 - exponentDigits.length) '0' ++ exponentDigits
  let point := if digits.length ≤ 1 then [] else '.' :: digits.drop 1
  digits.take 1 ++ point ++ 'e' :: (if leading < 0 then '-' else '+') :: shown

/-- The decimal as the style lays it out. -/
def write (style : Style) (decimal : Decimal) : List Char :=
  if style.inPlace decimal.leading then
    layInPlace style.wholeMark decimal.significantDigits decimal.leading
  else
    layWithExponent decimal.significantDigits decimal.leading

end Decimal

/-- The text of a finite double, by the decimal that stands for it. -/
def Binary.write (style : Style) (decimal : Binary → Decimal) (number : Binary) : String :=
  let digits := (decimal number).write style
  String.ofList (if number.negative then '-' :: digits else digits)

/-- The text of a double that is not finite. -/
def nonFiniteText (value : Float) : String :=
  if value < 0 then "-inf" else if value > 0 then "inf" else "nan"

/-- The text of a double in a style. -/
def writeFloat (style : Style) (decimal : Binary → Decimal) (value : Float) : String :=
  match Binary.ofFloat? value with
  | some number => number.write style decimal
  | none => nonFiniteText value

/-- The standard text of a double: the fewest digits that read back as it. -/
def floatText (value : Float) : String :=
  writeFloat Style.standard Binary.shortest value

/-- The text of a double rounded to a count of significant digits. -/
def generalText (digits : Nat) (value : Float) : String :=
  writeFloat (Style.general digits) (Binary.rounded digits) value

end FormulaGrid
