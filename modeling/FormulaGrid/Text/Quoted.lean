import FormulaGrid.Text.Printable

/-!
Contract: the quoted form of a text.

Owns:
- the choice of the quotation mark (`quotationMark`);
- the escape of one character (`escape`);
- the quoted text (`quoted`).

A quoted text is written on one line and shows every character it holds: what
cannot be printed is written by its code point.
-/

namespace FormulaGrid.Text

/-- The last `width` hexadecimal digits of a number, small letters. -/
def hexadecimal (width number : Nat) : List Char :=
  (List.range width).reverse.map fun place => Nat.digitChar (number / Nat.pow 16 place % 16)

/-- The single mark is used unless the text holds it and no double one. -/
def quotationMark (characters : List Char) : Char :=
  if characters.contains '\'' && !characters.contains '"' then '"' else '\''

/-- The written form of one character between the given quotation marks. -/
def escape (mark character : Char) : List Char :=
  if character == mark || character == '\\' then
    ['\\', character]
  else if character == '\n' then
    ['\\', 'n']
  else if character == '\r' then
    ['\\', 'r']
  else if character == '\t' then
    ['\\', 't']
  else if isPrintable character then
    [character]
  else if character.toNat < 0x100 then
    '\\' :: 'x' :: hexadecimal 2 character.toNat
  else if character.toNat < 0x10000 then
    '\\' :: 'u' :: hexadecimal 4 character.toNat
  else
    '\\' :: 'U' :: hexadecimal 8 character.toNat

/-- The text between quotation marks, each character escaped. -/
def quoted (text : String) : String :=
  let mark := quotationMark text.toList
  String.ofList (mark :: (text.toList.flatMap (escape mark) ++ [mark]))

end FormulaGrid.Text
