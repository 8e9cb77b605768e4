import FormulaGrid.Proofs.Formula.Lexemes
import FormulaGrid.Proofs.Number.Finite
import FormulaGrid.Proofs.Number.Spelling
import FormulaGrid.Proofs.Number.Whole
import FormulaGrid.Variant.Family

/-!
Contract: literals are numerals.

Owns:
- when a literal has a sign (`Binary.signCharacters`);
- the literal of a double as a sign and a numeral (`exists_spelling_binaryLiteral`), which
  denotes the double or its shortest decimal.

Does not own: the reading of literals.
-/

namespace FormulaGrid

namespace Binary

/-- The characters in front of the digits of a literal. A negative zero has no sign. -/
def signCharacters (number : Binary) : List Char :=
  if number.negative && number.significand != 0 then ['-'] else []

theorem withSign_lt_zero_iff (number : Binary) (magnitude : Nat) :
    number.withSign magnitude < 0 ↔ number.negative = true ∧ magnitude ≠ 0 := by
  unfold withSign
  cases number.negative <;> simp [Nat.pos_iff_ne_zero]

theorem toInt?_of_significand_eq_zero
    {number : Binary}
    (zero : number.significand = 0) :
    number.toInt? = some 0 := by
  simp [toInt?, numerator, zero, withSign]

end Binary

namespace Variant

/-- The literal of a double is a sign and a numeral, which denotes the magnitude of the
double or the decimal that stands for it. -/
theorem exists_spelling_binaryLiteral (number : Binary) :
    ∃ spelling : Spelling,
      (binaryLiteral number).toList = number.signCharacters ++ spelling.characters ∧
        (spelling.decimal.value = number.magnitude ∨
          number.significand ≠ 0 ∧ spelling.decimal.value = number.shortest.value) := by
  have spelled (style : Style)
      (mark : style.wholeMark = [] ∨ style.wholeMark = ['.', '0'])
      (inPlace : style.inPlace number.shortest.leading = true)
      (nonzero : number.significand ≠ 0) :
      ∃ spelling : Spelling,
        (number.write style Binary.shortest).toList =
            number.signCharacters ++ spelling.characters ∧
          (spelling.decimal.value = number.magnitude ∨
            number.significand ≠ 0 ∧ spelling.decimal.value = number.shortest.value) := by
    obtain ⟨spelling, characters, same⟩ := Decimal.exists_spelling_write mark inPlace
    refine ⟨spelling, ?_, .inr ⟨nonzero, same⟩⟩
    rw [characters]
    simp only [Binary.write, String.toList_ofList, Binary.signCharacters]
    cases number.negative <;> simp [nonzero]
  have large (nonzero : number.significand ≠ 0) :
      ∃ spelling : Spelling,
        (if Style.standard.inPlace number.shortest.leading = true then
            number.write Style.standard Binary.shortest
          else
            number.write Style.expanded Binary.shortest).toList =
            number.signCharacters ++ spelling.characters ∧
          (spelling.decimal.value = number.magnitude ∨
            number.significand ≠ 0 ∧ spelling.decimal.value = number.shortest.value) := by
    split
    next inPlace => exact spelled Style.standard (.inr rfl) inPlace nonzero
    next => exact spelled Style.expanded (.inl rfl) rfl nonzero
  unfold binaryLiteral
  dsimp only
  split
  next whole equals =>
    split
    next small =>
      have sameMagnitude := Binary.magnitude_eq_of_toInt? equals
      refine ⟨Spelling.natural whole.natAbs, ?_, .inl ?_⟩
      · have below : whole < 0 ↔ (number.negative && number.significand != 0) = true := by
          have zero : number.significand = 0 ↔ whole.natAbs = 0 := by
            rw [← Binary.magnitude_eq_zero_iff, sameMagnitude, Nat.cast_eq_zero]
          unfold Binary.toInt? at equals
          split at equals
          next =>
            cases equals
            rw [natAbs_withSign] at zero
            rw [Binary.withSign_lt_zero_iff, Bool.and_eq_true, bne_iff_ne, Ne, Ne, zero]
          next => cases equals
        rw [Numeral.integer, Binary.signCharacters, Spelling.characters_natural]
        by_cases negative : whole < 0
        · rw [if_pos negative, if_pos (below.mp negative), String.toList_append]
          rfl
        · rw [if_neg negative, if_neg (mt below.mpr negative)]
          rfl
      · rw [Spelling.value_natural, sameMagnitude]
    next notSmall =>
      refine large fun zero => notSmall ?_
      rw [Binary.toInt?_of_significand_eq_zero zero] at equals
      cases equals
      decide
  next notWhole =>
    refine large fun zero => ?_
    rw [Binary.toInt?_of_significand_eq_zero zero] at notWhole
    cases notWhole

end Variant

end FormulaGrid
