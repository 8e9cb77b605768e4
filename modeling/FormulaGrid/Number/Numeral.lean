import FormulaGrid.Text.Blank
import FormulaGrid.Text.DecimalDigit

/-!
Contract: whole numbers as numerals.

Owns:
- the decimal numeral of a natural number and of an integer (`natural`,
  `integer`), and which integers have few enough digits for one (`isWritable`);
- the tolerant reading of an integer written in base two or ten (`readInteger`).

The tolerant reading takes blanks around the numeral, one sign, digits of any
script and single underscores between digits. In base two a prefix of a zero
and the letter b may stand in front, with one underscore after it.
-/

namespace FormulaGrid.Numeral

open FormulaGrid.Text

/-- The most digits of an integer that is read from a numeral or written as one. -/
def longest : Nat := 4300

/-- The decimal numeral of a natural number, without leading zeros. -/
def natural (value : Nat) : String :=
  String.ofList (Nat.toDigits 10 value)

/-- The decimal numeral of an integer; a minus sign marks a negative one. -/
def integer (value : Int) : String :=
  if value < 0 then "-" ++ natural value.natAbs else natural value.natAbs

/-- The integer does not have too many digits for a numeral. -/
def isWritable (value : Int) : Bool :=
  (Nat.toDigits 10 value.natAbs).length ≤ longest

/-- The character that the tolerant readers see: blanks become spaces and
digits of all scripts become the ten common ones. Other characters beyond the
first 127 become a mark that no numeral holds. -/
def plain (character : Char) : Char :=
  if character.toNat < 127 then
    character
  else if isBlank character then
    ' '
  else
    match digitValue character with
    | some value => Nat.digitChar value
    | none => '?'

/-- The spaces that may stand around a numeral once it is plain. -/
def isPadding (character : Char) : Bool :=
  character == ' ' || (9 ≤ character.toNat && character.toNat ≤ 13)

/-- The plain characters of a text, without padding at the ends. -/
def unpadded (characters : List Char) : List Char :=
  (((characters.map plain).dropWhile isPadding).reverse.dropWhile isPadding).reverse

/-- The sign of a numeral and what stands after it. -/
def splitSign : List Char → Bool × List Char
  | '-' :: rest => (true, rest)
  | '+' :: rest => (false, rest)
  | characters => (false, characters)

/-- The value of a common digit that is below the base. -/
def digitBelow (base : Nat) (character : Char) : Option Nat :=
  if character.isDigit && character.toNat - '0'.toNat < base then
    some (character.toNat - '0'.toNat)
  else
    none

/-- The values of a run of digits with single underscores between them; the
run may not be empty. -/
def digitRun (base : Nat) : List Char → Option (List Nat)
  | [] => none
  | [last] => (digitBelow base last).map fun digit => [digit]
  | first :: '_' :: rest => do
      let digit ← digitBelow base first
      let digits ← digitRun base rest
      return digit :: digits
  | first :: rest => do
      let digit ← digitBelow base first
      let digits ← digitRun base rest
      return digit :: digits

/-- Drop the mark of base two, and one underscore after it. -/
def dropBaseMark (base : Nat) : List Char → List Char
  | '0' :: mark :: rest =>
      if base == 2 && (mark == 'b' || mark == 'B') then
        match rest with
        | '_' :: digits => digits
        | _ => rest
      else
        '0' :: mark :: rest
  | characters => characters

/-- The integer that a text writes in the given base. -/
def readInteger (base : Nat) (text : String) : Option Int := do
  let (negative, unsigned) := splitSign (unpadded text.toList)
  let digits ← digitRun base (dropBaseMark base unsigned)
  if base == 10 && longest < digits.length then
    none
  else
    let magnitude := valueOfDigits base digits
    return if negative then -(magnitude : Int) else (magnitude : Int)

end FormulaGrid.Numeral
