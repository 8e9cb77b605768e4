import FormulaGrid.Formula.Lexer
import FormulaGrid.Proofs.Number.Reading
import FormulaGrid.Proofs.Number.Spelling

/-!
Contract: a numeral in front of a text is found, and denotes the double in whose interval its
decimal lies.

Owns:
- digits are visible and not raised (`plain_of_isDigit`);
- texts that do not go on a numeral (`EndsNumeral`), and the numeral in front of such a text
  (`numeralSpan_characters`);
- the digits of a numeral and their number (`valueOfDigits_digitValues`);
- the double that a numeral denotes (`parts_numeralValue`, `numeralValue_of_zero`).
-/

namespace FormulaGrid

open Float.Model Float.Model.UnpackedFloat

theorem toNat_of_isDigit {character : Char} (digit : character.isDigit = true) :
    48 ≤ character.toNat ∧ character.toNat ≤ 57 := by
  simpa [Char.isDigit, UInt32.le_iff_toNat_le] using digit

/-- Digits are visible and not raised. -/
theorem plain_of_isDigit
    {character : Char}
    (digit : character.isDigit = true) :
    Text.isBlank character = false ∧ isSuperscript character = false := by
  have bounds := toNat_of_isDigit digit
  constructor
  · simp [Text.isBlank]
    omega
  · refine Bool.eq_false_iff.mpr fun raised => ?_
    have member : character ∈ superscriptDigits := List.contains_iff_mem.mp raised
    have code : character.toNat ∈ superscriptDigits.map Char.toNat := List.mem_map_of_mem member
    have far : ∀ number ∈ superscriptDigits.map Char.toNat, 57 < number := by decide
    have := far _ code
    omega

/-- The text starts with nothing that goes on a numeral. -/
def EndsNumeral (rest : List Char) : Prop :=
  ∀ character ∈ rest.head?, character.isDigit = false ∧ character ≠ '.'

namespace Spelling

variable (spelling : Spelling)

/-- A numeral in front of a text that does not go on it. -/
theorem numeralSpan_characters {rest : List Char} (ends : EndsNumeral rest) :
    numeralSpan (spelling.characters ++ rest) = spelling.characters := by
  have noDigit : rest.takeWhile Char.isDigit = [] ∧ rest.dropWhile Char.isDigit = rest := by
    cases rest with
    | nil => exact ⟨rfl, rfl⟩
    | cons head tail =>
        have notDigit := (ends head rfl).1
        exact ⟨List.takeWhile_cons_of_neg (by simp [notDigit]),
          List.dropWhile_cons_of_neg (by simp [notDigit])⟩
  unfold characters
  split
  next whole =>
    unfold numeralSpan
    rw [List.takeWhile_append_of_pos spelling.wholeDigits,
      List.dropWhile_append_of_pos spelling.wholeDigits, noDigit.1, noDigit.2, List.append_nil]
    split
    next tail => exact absurd rfl (ends '.' rfl).2
    next => rfl
  next fractional =>
    have point : Char.isDigit '.' = false := by decide
    rw [List.append_assoc, List.cons_append]
    unfold numeralSpan
    rw [List.takeWhile_append_of_pos spelling.wholeDigits,
      List.dropWhile_append_of_pos spelling.wholeDigits,
      List.takeWhile_cons_of_neg (by simp [point]), List.dropWhile_cons_of_neg (by simp [point]),
      List.append_nil]
    show (if ((spelling.fraction ++ rest).takeWhile Char.isDigit).isEmpty = true then _ else
      spelling.whole ++ '.' :: (spelling.fraction ++ rest).takeWhile Char.isDigit) = _
    rw [List.takeWhile_append_of_pos spelling.fractionDigits, noDigit.1, List.append_nil,
      if_neg (by simpa using fractional)]

/-- A numeral starts with a digit. -/
theorem exists_characters_eq_cons :
    ∃ head tail, spelling.characters = head :: tail ∧ head.isDigit = true := by
  obtain ⟨head, tail, starts⟩ := List.exists_cons_of_ne_nil spelling.nonempty
  have digit := spelling.wholeDigits head (by rw [starts]; exact List.mem_cons_self)
  unfold characters
  split
  next => exact ⟨head, tail, starts, digit⟩
  next => exact ⟨head, tail ++ '.' :: spelling.fraction, by rw [starts]; rfl, digit⟩

end Spelling

/-! ## The digits of a numeral -/

/-- The values of common digits. -/
def digitValues (run : List Char) : List Nat :=
  run.map fun digit => digit.toNat - '0'.toNat

section

variable {run : List Char} (areDigits : ∀ character ∈ run, character.isDigit = true)

include areDigits

theorem digitValues_lt : ∀ digit ∈ digitValues run, digit < 10 := by
  intro digit member
  obtain ⟨character, inRun, rfl⟩ := List.mem_map.mp member
  have bounds := toNat_of_isDigit (areDigits character inRun)
  show character.toNat - 48 < 10
  omega

theorem leadingDigits_append {rest : List Char} (ends : rest.takeWhile Char.isDigit = []) :
    Numeral.leadingDigits (run ++ rest) = digitValues run := by
  unfold Numeral.leadingDigits
  rw [List.takeWhile_append_of_pos areDigits, ends, List.append_nil, digitValues,
    ← List.filterMap_eq_map]
  refine List.filterMap_congr fun character member => ?_
  have below := digitValues_lt areDigits _ (List.mem_map_of_mem member)
  unfold Numeral.digitBelow
  rw [if_pos (by rw [areDigits character member]; exact decide_eq_true below)]
  rfl

theorem leadingDigits_of_digits : Numeral.leadingDigits run = digitValues run := by
  have all := leadingDigits_append areDigits (rfl : ([] : List Char).takeWhile Char.isDigit = [])
  rwa [List.append_nil] at all

end

/-- Digits denote the same number as characters and as values. -/
theorem valueOfDigits_digitValues (run : List Char) :
    Text.valueOfDigits 10 (digitValues run) = Nat.ofDigitChars 10 run 0 := by
  unfold Text.valueOfDigits digitValues Nat.ofDigitChars
  rw [List.foldl_map]
  congr 1
  funext value digit
  rw [Nat.mul_comm]

/-! ## The double of a numeral -/

namespace Spelling

variable (spelling : Spelling)

/-- The digits that a numeral has in front of the point and behind it. -/
theorem leadingDigits_characters :
    Numeral.leadingDigits spelling.characters = digitValues spelling.whole ∧
      Numeral.leadingDigits ((Numeral.afterDigits spelling.characters).drop 1) =
        digitValues spelling.fraction := by
  have point : Char.isDigit '.' = false := by decide
  unfold characters
  split
  next whole =>
    have behind : Numeral.afterDigits spelling.whole = [] :=
      List.dropWhile_eq_nil_iff.mpr spelling.wholeDigits
    rw [leadingDigits_of_digits spelling.wholeDigits, behind, whole]
    exact ⟨rfl, rfl⟩
  next fractional =>
    have behind : Numeral.afterDigits (spelling.whole ++ '.' :: spelling.fraction) =
        '.' :: spelling.fraction := by
      unfold Numeral.afterDigits
      rw [List.dropWhile_append_of_pos spelling.wholeDigits,
        List.dropWhile_cons_of_neg (by simp [point])]
    have front : Numeral.leadingDigits (spelling.whole ++ '.' :: spelling.fraction) =
        digitValues spelling.whole :=
      leadingDigits_append spelling.wholeDigits (List.takeWhile_cons_of_neg (by simp [point]))
    rw [front, behind, List.drop_one, List.tail_cons,
      leadingDigits_of_digits spelling.fractionDigits]
    exact ⟨rfl, rfl⟩

/-- A numeral denotes the double that its decimal is read as. -/
theorem numeralValue_characters :
    numeralValue spelling.characters =
      floatOfDecimal (digitValues (spelling.whole ++ spelling.fraction))
        (-(spelling.fraction.length : Int)) := by
  have length : (digitValues spelling.fraction).length = spelling.fraction.length :=
    List.length_map _
  obtain ⟨front, behind⟩ := spelling.leadingDigits_characters
  unfold numeralValue
  dsimp only
  rw [front, behind, length]
  exact congrArg (floatOfDecimal · _) List.map_append.symm

/-- A numeral whose decimal lies in the interval of a double denotes this double. -/
theorem parts_numeralValue
    {number : Binary}
    (canonical : IsCanonical number.significand number.exponent)
    (positive : 0 < number.significand)
    (inRange : number.exponent ≤ greatestExponent)
    (rounds : number.Rounds spelling.decimal.value) :
    parts (numeralValue spelling.characters) =
      .finite .positive number.significand number.exponent positive := by
  have areDigits : ∀ character ∈ spelling.whole ++ spelling.fraction, character.isDigit = true :=
    List.forall_mem_append.mpr ⟨spelling.wholeDigits, spelling.fractionDigits⟩
  rw [numeralValue_characters]
  refine parts_floatOfDecimal canonical positive inRange (digitValues_lt areDigits) ?_
  rw [valueOfDigits_digitValues]
  exact rounds

/-- A numeral of zeros denotes zero. -/
theorem numeralValue_of_zero (zero : spelling.decimal.value = 0) :
    numeralValue spelling.characters = 0.0 := by
  have none : Nat.ofDigitChars 10 (spelling.whole ++ spelling.fraction) 0 = 0 := by
    simpa [Spelling.decimal, Decimal.value, zpow_ne_zero] using zero
  rw [numeralValue_characters]
  unfold floatOfDecimal
  rw [valueOfDigits_digitValues, none]
  rfl

end Spelling

end FormulaGrid
