import FormulaGrid.Fault

/-!
Contract: texts as bits, eight for each character.

Owns:
- the bits of a character and of a text (`octet`, `bitsOfText`);
- the text that bits write (`textOfBits`).

A text is written in zeros and ones, the highest bit of each character first.
Reading takes each group of eight characters as a numeral in base two, with all
that such a numeral may be written with.
-/

namespace FormulaGrid

/-- The number of codes that eight bits can write. -/
def octetCodes : Nat := Nat.pow 2 bitsPerCharacter

/-- The eight bits of a code, the highest first. -/
def octet (code : Nat) : List Char :=
  (List.range bitsPerCharacter).reverse.map fun place =>
    if code.testBit place then '1' else '0'

/-- The bits of characters, the first of which has the given position. -/
def bitsFrom (position : Nat) : List Char → Except Fault (List Char)
  | [] => .ok []
  | character :: others =>
      if character.toNat < octetCodes then do
        let rest ← bitsFrom (position + 1) others
        return octet character.toNat ++ rest
      else
        .error (.codec (.wideCharacter character position))

/-- The bits of a text. A character that eight bits do not write is a fault. -/
def bitsOfText (text : String) : Except Fault String :=
  (bitsFrom 0 text.toList).map String.ofList

/-- The character that a group of eight bits writes. -/
def characterOfGroup (group : List Char) : Except Fault Char :=
  match Numeral.readInteger 2 (String.ofList group) with
  | none => .error (.argument (.notBinary (String.ofList group)))
  | some code =>
      if code < 0 then
        .error (.argument .negativeCharacter)
      else
        .ok (Char.ofNat code.toNat)

/-- The characters that successive groups of bits write. -/
def charactersOf (bits : List Char) : Except Fault (List Char) :=
  match bits with
  | [] => .ok []
  | first :: others => do
      let character ← characterOfGroup (first :: others.take (bitsPerCharacter - 1))
      let rest ← charactersOf (others.drop (bitsPerCharacter - 1))
      return character :: rest
termination_by bits.length
decreasing_by
  simp only [List.length_drop, List.length_cons]
  omega

/-- The text that bits write. Their number must be a multiple of eight. -/
def textOfBits (bits : String) : Except Fault String :=
  if bits.length % bitsPerCharacter == 0 then
    (charactersOf bits.toList).map String.ofList
  else
    .error (.codec (.unevenBits bits.length))

end FormulaGrid
