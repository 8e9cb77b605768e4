/-!
Contract: blank characters, line breaks, and the splitting of text at them.

Owns:
- the class of blank characters (`isBlank`) and of line breaks (`isLineBreak`);
- the trimming of blanks at the end (`trimRight`) and the words and lines of a text.

Every line break is blank, so a pair of carriage return and line feed only
leaves an empty line between its halves; readers that skip blank lines see one
break.
-/

namespace FormulaGrid.Text

/-- The blank characters: the ASCII controls that move the writing position,
the four information separators, the spaces of the general punctuation block
and the other separators of the Unicode property White_Space. -/
def isBlank (character : Char) : Bool :=
  let code := character.toNat
  (9 ≤ code && code ≤ 13) || (28 ≤ code && code ≤ 32) || code == 0x85 || code == 0xA0 ||
    code == 0x1680 || (0x2000 ≤ code && code ≤ 0x200A) || code == 0x2028 || code == 0x2029 ||
    code == 0x202F || code == 0x205F || code == 0x3000

/-- The characters that end a line. -/
def isLineBreak (character : Char) : Bool :=
  let code := character.toNat
  (10 ≤ code && code ≤ 13) || (28 ≤ code && code ≤ 30) || code == 0x85 ||
    code == 0x2028 || code == 0x2029

/-- Every line break is a blank. -/
theorem isBlank_of_isLineBreak
    {character : Char}
    (breaks : isLineBreak character = true) :
    isBlank character = true := by
  simp only [isLineBreak, isBlank, Bool.or_eq_true, Bool.and_eq_true, decide_eq_true_eq,
    beq_iff_eq] at breaks ⊢
  omega

/-- Text made of blanks alone, the empty text included. -/
def allBlank (characters : List Char) : Bool :=
  characters.all isBlank

/-- Drop the blanks at the end. -/
def trimRight (characters : List Char) : List Char :=
  (characters.reverse.dropWhile isBlank).reverse

/-- Put one character in front of the first word of a list of words. -/
def consFirst (character : Char) : List (List Char) → List (List Char)
  | [] => [[character]]
  | first :: others => (character :: first) :: others

/-- The maximal runs of characters between line breaks; there is one more run
than there are breaks. -/
def lines : List Char → List (List Char)
  | [] => [[]]
  | character :: rest =>
      if isLineBreak character then
        [] :: lines rest
      else
        consFirst character (lines rest)

/-- No word goes on: the text is at its end or at a blank. -/
def atBoundary : List Char → Bool
  | [] => true
  | character :: _ => isBlank character

/-- The maximal runs of characters that are not blank. -/
def words : List Char → List (List Char)
  | [] => []
  | character :: rest =>
      if isBlank character then
        words rest
      else if atBoundary rest then
        [character] :: words rest
      else
        consFirst character (words rest)

end FormulaGrid.Text
