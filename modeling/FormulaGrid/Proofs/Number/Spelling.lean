import FormulaGrid.Proofs.Number.Value
import Mathlib.Data.List.TakeWhile

/-!
Contract: numerals with their digits in place, and the numbers they denote.

Owns:
- numerals as digits before a point and digits behind it (`Spelling`), with the decimal
  that they denote;
- a decimal that is written with its digits in place is such a numeral and denotes that
  decimal (`Decimal.exists_spelling_write`).

Does not own: numerals with an exponent, and the reading of numerals.
-/

namespace FormulaGrid

/-- A numeral without an exponent: digits, at least one of them before the point. -/
structure Spelling where
  whole : List Char
  fraction : List Char
  nonempty : whole ≠ []
  wholeDigits : ∀ character ∈ whole, character.isDigit = true
  fractionDigits : ∀ character ∈ fraction, character.isDigit = true

namespace Spelling

/-- The numeral as it is written. There is a point only in front of digits. -/
def characters (spelling : Spelling) : List Char :=
  if spelling.fraction = [] then
    spelling.whole
  else
    spelling.whole ++ '.' :: spelling.fraction

/-- The decimal that the numeral denotes. -/
def decimal (spelling : Spelling) : Decimal :=
  ⟨Nat.ofDigitChars 10 (spelling.whole ++ spelling.fraction) 0,
    -(spelling.fraction.length : Int)⟩

theorem mem_characters {spelling : Spelling} {character : Char}
    (member : character ∈ spelling.characters) :
    character.isDigit = true ∨ character = '.' := by
  unfold characters at member
  split at member
  next => exact .inl (spelling.wholeDigits character member)
  next =>
    rcases List.mem_append.mp member with inWhole | behind
    · exact .inl (spelling.wholeDigits character inWhole)
    · rcases List.mem_cons.mp behind with point | inFraction
      · exact .inr point
      · exact .inl (spelling.fractionDigits character inFraction)

theorem characters_ne_nil (spelling : Spelling) : spelling.characters ≠ [] := by
  unfold characters
  split
  next => exact spelling.nonempty
  next => simp

/-- The numeral of a natural number. -/
def natural (value : Nat) : Spelling :=
  ⟨Nat.toDigits 10 value, [], Nat.toDigits_ne_nil,
    fun _ member => Nat.isDigit_of_mem_toDigits (by decide) (by decide) member,
    List.forall_mem_nil _⟩

theorem characters_natural (value : Nat) :
    (natural value).characters = (Numeral.natural value).toList := by
  rw [Numeral.natural, String.toList_ofList]
  rfl

theorem value_natural (number : Nat) : (natural number).decimal.value = number := by
  simp [natural, decimal, Decimal.value]

end Spelling

theorem isDigit_of_mem_zeros
    {count : Nat}
    {character : Char}
    (member : character ∈ List.replicate count '0') :
    character.isDigit = true := by
  rw [List.eq_of_mem_replicate member]
  rfl

namespace Decimal

section

variable {digits : List Char} (nonempty : digits ≠ [])
  (areDigits : ∀ character ∈ digits, character.isDigit = true)

include nonempty areDigits

/-- Digits in their places, as a style without an exponent lays them out. -/
theorem exists_spelling_layInPlace
    {wholeMark : List Char}
    (mark : wholeMark = [] ∨ wholeMark = ['.', '0'])
    (leading : Int) :
    ∃ spelling : Spelling,
      spelling.characters = layInPlace wholeMark digits leading ∧
        spelling.decimal.value =
          (⟨Nat.ofDigitChars 10 digits 0, leading + 1 - digits.length⟩ : Decimal).value := by
  unfold layInPlace
  split
  next negative =>
    have fractionDigits : ∀ character ∈
        List.replicate (-leading - 1).toNat '0' ++ digits, character.isDigit = true :=
      fun character member => (List.mem_append.mp member).elim isDigit_of_mem_zeros
        (areDigits character)
    refine ⟨⟨['0'], _, by simp, List.forall_mem_singleton.mpr rfl, fractionDigits⟩, ?_, ?_⟩
    · simp [Spelling.characters, nonempty]
    · have exponents : -((List.replicate (-leading - 1).toNat '0' ++ digits).length : Int) =
          leading + 1 - digits.length := by
        rw [List.length_append, List.length_replicate]
        omega
      rw [Spelling.decimal, exponents]
      simp [Nat.ofDigitChars_append, Nat.ofDigitChars_cons]
  next notNegative =>
    dsimp only
    split
    next fits =>
      -- The places that the digits leave open are filled with zeros.
      generalize filled : leading.toNat + 1 - digits.length = zeros
      have exponent : leading + 1 - (digits.length : Int) = zeros := by omega
      have wholeDigits : ∀ character ∈ digits ++ List.replicate zeros '0',
          character.isDigit = true :=
        fun character member => (List.mem_append.mp member).elim (areDigits character)
          isDigit_of_mem_zeros
      have wholeNonempty : digits ++ List.replicate zeros '0' ≠ [] := by simp [nonempty]
      rw [exponent]
      rcases mark with rfl | rfl
      · refine ⟨⟨_, [], wholeNonempty, wholeDigits, List.forall_mem_nil _⟩, ?_, ?_⟩
        · simp [Spelling.characters]
        · have shifted := value_shift (Nat.ofDigitChars 10 digits 0) zeros 0
          rw [Int.zero_add] at shifted
          rw [← shifted]
          simp [Spelling.decimal, Nat.ofDigitChars_append]
      · refine ⟨⟨_, ['0'], wholeNonempty, wholeDigits, List.forall_mem_singleton.mpr rfl⟩, ?_, ?_⟩
        · simp [Spelling.characters]
        · have shifted := value_shift (Nat.ofDigitChars 10 digits 0) (zeros + 1) (-1)
          have exponents : (-1 : Int) + ((zeros + 1 : Nat) : Int) = zeros := by omega
          rw [exponents] at shifted
          rw [← shifted]
          simp [Spelling.decimal, Nat.ofDigitChars_append, Nat.ofDigitChars_cons, pow_succ]
          ring_nf
    next longer =>
      have wholeNonempty : digits.take (leading.toNat + 1) ≠ [] := by simp [nonempty]
      refine ⟨⟨_, digits.drop (leading.toNat + 1), wholeNonempty,
        fun character member => areDigits character (List.mem_of_mem_take member),
        fun character member => areDigits character (List.mem_of_mem_drop member)⟩, ?_, ?_⟩
      · have remains : digits.drop (leading.toNat + 1) ≠ [] := by
          rw [Ne, List.drop_eq_nil_iff]
          omega
        simp [Spelling.characters, remains]
      · have exponents : -((digits.drop (leading.toNat + 1)).length : Int) =
            leading + 1 - digits.length := by
          rw [List.length_drop]
          omega
        rw [Spelling.decimal, exponents, List.take_append_drop]

end

theorem significantDigits_ne_nil (decimal : Decimal) : decimal.significantDigits ≠ [] := by
  unfold significantDigits
  dsimp only
  split
  next => simp
  next shown => exact fun empty => shown (by rw [empty]; rfl)

theorem isDigit_of_mem_significantDigits
    {decimal : Decimal}
    {character : Char}
    (member : character ∈ decimal.significantDigits) :
    character.isDigit = true := by
  unfold significantDigits at member
  dsimp only at member
  split at member
  next => rw [List.mem_singleton.mp member]; rfl
  next =>
    have inDigits := List.dropWhile_subset _ (List.mem_reverse.mp member)
    exact Nat.isDigit_of_mem_toDigits (by decide) (by decide) (List.mem_reverse.mp inDigits)

/-- The digits of a number are those that are left when the zeros at their end are taken
away, and these zeros. -/
theorem exists_zeros_toDigits (coefficient : Nat) :
    ∃ zeros : Nat,
      Nat.toDigits 10 coefficient =
        ((Nat.toDigits 10 coefficient).reverse.dropWhile (· == '0')).reverse ++
          List.replicate zeros '0' := by
  set backwards := (Nat.toDigits 10 coefficient).reverse with isBackwards
  have zerosOnly : ∀ character ∈ backwards.takeWhile (· == '0'), character = '0' := by
    intro character member
    have isZero := List.mem_takeWhile_imp member
    exact beq_iff_eq.mp isZero
  refine ⟨(backwards.takeWhile (· == '0')).length, ?_⟩
  calc
    Nat.toDigits 10 coefficient = backwards.reverse := by rw [isBackwards, List.reverse_reverse]
    _ = (backwards.dropWhile (· == '0')).reverse ++ (backwards.takeWhile (· == '0')).reverse := by
      rw [← List.reverse_append, List.takeWhile_append_dropWhile]
    _ = _ := by
      rw [List.eq_replicate_iff.mpr ⟨rfl, fun character member =>
        zerosOnly character (List.mem_reverse.mp member)⟩, List.length_reverse]

/-- The significant digits, the leading one at its place, denote the decimal. -/
theorem value_significantDigits (decimal : Decimal) :
    (⟨Nat.ofDigitChars 10 decimal.significantDigits 0,
        decimal.leading + 1 - decimal.significantDigits.length⟩ : Decimal).value =
      decimal.value := by
  by_cases zero : decimal.coefficient = 0
  · have digit : decimal.significantDigits = ['0'] := by
      rw [significantDigits, zero]
      rfl
    simp [digit, value, zero, Nat.ofDigitChars_cons]
  obtain ⟨zeros, digits⟩ := exists_zeros_toDigits decimal.coefficient
  have leading : decimal.leading =
      decimal.exponent + ((Nat.toDigits 10 decimal.coefficient).length : Int) - 1 :=
    if_neg (by simpa using zero)
  unfold significantDigits
  dsimp only
  generalize ((Nat.toDigits 10 decimal.coefficient).reverse.dropWhile (· == '0')).reverse =
    trimmed at digits ⊢
  have coefficient : decimal.coefficient = 10 ^ zeros * Nat.ofDigitChars 10 trimmed 0 := by
    have same := congrArg (fun run => Nat.ofDigitChars 10 run 0) digits
    simpa [Nat.ofDigitChars_append] using same
  have shown : trimmed.isEmpty = false := by
    cases trimmed with
    | nil => simp [zero] at coefficient
    | cons => rfl
  have exponent : decimal.leading + 1 - (trimmed.length : Int) = decimal.exponent + zeros := by
    rw [leading, digits, List.length_append, List.length_replicate]
    omega
  rw [shown, if_neg Bool.false_ne_true, exponent, ← value_shift, ← coefficient]

/-- A decimal that is written with its digits in place is a numeral that denotes it. -/
theorem exists_spelling_write
    {style : Style}
    (mark : style.wholeMark = [] ∨ style.wholeMark = ['.', '0'])
    {decimal : Decimal}
    (inPlace : style.inPlace decimal.leading = true) :
    ∃ spelling : Spelling,
      spelling.characters = decimal.write style ∧ spelling.decimal.value = decimal.value := by
  obtain ⟨spelling, characters, same⟩ :=
    exists_spelling_layInPlace decimal.significantDigits_ne_nil
      (fun _ => isDigit_of_mem_significantDigits) mark decimal.leading
  refine ⟨spelling, ?_, same.trans decimal.value_significantDigits⟩
  rw [characters, write, if_pos inPlace]

end Decimal

end FormulaGrid
