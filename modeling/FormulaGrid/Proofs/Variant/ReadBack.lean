import FormulaGrid.Proofs.Formula.Writing
import FormulaGrid.Proofs.Number.Shortest
import FormulaGrid.Proofs.Variant.Candidates

/-!
Contract: literals and operands read back as their double.

Owns:
- the double that a literal denotes (`written`), which is the double itself but for the
  negative zero;
- the numeral of a literal and its sign (`exists_spelling_written`);
- the literal and the operand of a finite double as writings of it
  (`exists_writing_literal`, `exists_writing_operand`).
-/

namespace FormulaGrid

open Float.Model Float.Model.UnpackedFloat

/-- The double that the literal of a double denotes. The negative zero is written without its
sign. -/
def written (value : Float) : Float :=
  match parts value with
  | .zero _ => 0.0
  | _ => value

theorem written_of_zero {value : Float} {sign : Sign} (zero : parts value = .zero sign) :
    written value = 0.0 := by
  rw [written, zero]

theorem written_of_finite
    {value : Float}
    {sign : Sign}
    {mantissa : Nat}
    {exponent : Int}
    {positive : 0 < mantissa}
    (same : parts value = .finite sign mantissa exponent positive) :
    written value = value := by
  rw [written, same]

section

variable {value : Float} (finite : value.isFinite = true)

include finite

/-- A finite double is a zero or has a mantissa. -/
theorem zero_or_finite :
    (∃ sign, parts value = .zero sign) ∨
      ∃ sign mantissa exponent positive, parts value = .finite sign mantissa exponent positive := by
  have inRange := inRange_of_isFinite finite
  cases same : parts value with
  | notANumber | infinity => rw [same] at inRange; exact absurd inRange id
  | zero sign => exact .inl ⟨sign, rfl⟩
  | finite sign mantissa exponent positive => exact .inr ⟨_, _, _, _, rfl⟩

theorem isFinite_written : (written value).isFinite = true := by
  rcases zero_or_finite finite with ⟨sign, zero⟩ | ⟨sign, mantissa, exponent, positive, same⟩
  · rw [written_of_zero zero]
    exact isFinite_zero
  · rw [written_of_finite same]
    exact finite

theorem parts_written_ne : parts (written value) ≠ .zero .negative := by
  rcases zero_or_finite finite with ⟨sign, zero⟩ | ⟨sign, mantissa, exponent, positive, same⟩
  · rw [written_of_zero zero]
    intro negative
    cases negative
  · rw [written_of_finite same, same]
    intro negative
    cases negative

/-- What is written is at no distance from the double. -/
theorem abs_written_sub : (written value - value).abs = 0.0 := by
  rcases zero_or_finite finite with ⟨sign, zero⟩ | ⟨sign, mantissa, exponent, positive, same⟩
  · rw [written_of_zero zero, ← ofModel_pack_parts value, zero]
    cases sign <;> rfl
  · rw [written_of_finite same]
    exact abs_sub_self_eq finite

end

/-- The parts of a negated double that has a mantissa. -/
theorem parts_neg
    {value : Float}
    {sign : Sign}
    {mantissa : Nat}
    {exponent : Int}
    {positive : 0 < mantissa}
    (same : parts value = .finite sign mantissa exponent positive) :
    parts (-value) = .finite (-sign) mantissa exponent positive := by
  have negated : parts (-value) =
      parts (Float.ofModel (Float.Model.pack (parts value).neg)) := rfl
  rw [negated, same]
  exact parts_pack_of_canonical (isCanonical_of_parts same) (bounds_of_parts same).2.2

namespace Variant

/-- The sign of a literal is that of its double. -/
theorem isNegative_iff
    {value : Float}
    {number : Binary}
    (fields : Binary.ofFloat? value = some number) :
    (Number.float value).isNegative = (number.negative && number.significand != 0) := by
  have zero : (0 : Float) = 0.0 := by rfl
  rw [Binary.ofFloat?_eq] at fields
  rw [Number.isNegative, zero, Bool.eq_iff_iff, decide_eq_true_iff, lt_zero_iff]
  cases same : parts value with
  | notANumber | infinity => rw [same] at fields; cases fields
  | zero sign =>
      rw [same] at fields
      cases fields
      simp [IsBelowZero]
  | finite sign mantissa exponent positive =>
      rw [same] at fields
      cases fields
      cases sign <;> simp [IsBelowZero, positive.ne']

/-- The literal of a finite double is a sign and a numeral. The numeral denotes what is
written, or, behind a minus sign, its negative. -/
theorem exists_spelling_written
    {value : Float}
    {number : Binary}
    (fields : Binary.ofFloat? value = some number) :
    ∃ (spelling : Spelling) (magnitude : Float),
      (binaryLiteral number).toList = number.signCharacters ++ spelling.characters ∧
        numeralValue spelling.characters = magnitude ∧ magnitude.isFinite = true ∧
        written value = if (Number.float value).isNegative then -magnitude else magnitude := by
  obtain ⟨spelling, characters, denotes⟩ := exists_spelling_binaryLiteral number
  refine ⟨spelling, _, characters, rfl, ?_⟩
  rw [isNegative_iff fields]
  rw [Binary.ofFloat?_eq] at fields
  cases same : parts value with
  | notANumber | infinity => rw [same] at fields; cases fields
  | zero sign =>
      rw [same] at fields
      cases fields
      have none : spelling.decimal.value = 0 := by
        rcases denotes with exact | ⟨nonzero, -⟩
        · rw [exact, Binary.magnitude_eq_zero_iff]
        · exact absurd rfl nonzero
      rw [written_of_zero same, spelling.numeralValue_of_zero none]
      exact ⟨rfl, by simp⟩
  | finite sign mantissa exponent positive =>
      rw [same] at fields
      cases fields
      have canonical := isCanonical_of_parts same
      have inRange := (bounds_of_parts same).2.2
      have rounds : Binary.Rounds ⟨sign == .negative, mantissa, exponent⟩
          spelling.decimal.value := by
        rcases denotes with exact | ⟨-, shortest⟩
        · rw [exact]
          exact Binary.rounds_magnitude _
        · rw [shortest]
          exact Binary.rounds_shortest positive canonical.1
      have magnitude := spelling.parts_numeralValue canonical positive inRange rounds
      refine ⟨?_, ?_⟩
      · show (parts _).isFinite = true
        rw [magnitude]
        rfl
      · rw [written_of_finite same]
        apply eq_of_parts_eq
        have nonzero : (mantissa != 0) = true := bne_iff_ne.mpr positive.ne'
        cases sign with
        | positive => rw [same, if_neg (by simp), magnitude]
        | negative =>
            rw [same, if_pos (by rw [nonzero]; rfl), parts_neg magnitude]
            rfl

section

variable (functions : Elementary) {value : Float} {number : Binary}
  (fields : Binary.ofFloat? value = some number)

include fields

/-- The characters of a literal in front of its digits. -/
theorem signCharacters_eq :
    number.signCharacters = if (Number.float value).isNegative then ['-'] else [] := by
  rw [isNegative_iff fields]
  rfl

/-- The literal is read as what is written. -/
theorem exists_writing_literal :
    ∃ writing : Writing functions .signed 1 (written value),
      writing.characters = (binaryLiteral number).toList := by
  obtain ⟨spelling, magnitude, characters, denotes, finite, same⟩ :=
    exists_spelling_written fields
  let numeral : Writing functions .primary 0 magnitude := .numeral spelling denotes finite
  rw [characters, signCharacters_eq fields, same]
  cases (Number.float value).isNegative with
  | true => exact ⟨numeral.postfixed.signed.negated, rfl⟩
  | false => exact ⟨numeral.postfixed.signed.deepen (Nat.zero_le 1), rfl⟩

/-- So is the operand, which stands on either side of an operator. -/
theorem exists_writing_operand :
    ∃ writing : Writing functions .postfixed 2 (written value),
      writing.characters =
        (bracketed (Number.float value).isNegative (binaryLiteral number)).toList := by
  cases negative : (Number.float value).isNegative with
  | true =>
      obtain ⟨writing, characters⟩ := exists_writing_literal functions fields
      refine ⟨writing.product.sum.group.postfixed, ?_⟩
      show '(' :: (writing.characters ++ [')']) = ("(" ++ binaryLiteral number ++ ")").toList
      rw [characters, String.toList_append, String.toList_append]
      rfl
  | false =>
      obtain ⟨spelling, magnitude, characters, denotes, finite, same⟩ :=
        exists_spelling_written fields
      rw [negative, if_neg Bool.false_ne_true] at same
      rw [signCharacters_eq fields, negative] at characters
      let numeral : Writing functions .primary 0 magnitude := .numeral spelling denotes finite
      rw [same]
      exact ⟨numeral.postfixed.deepen (Nat.zero_le 2), characters.symm⟩

end

end Variant

end FormulaGrid
