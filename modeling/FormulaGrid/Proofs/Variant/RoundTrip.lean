import FormulaGrid.Proofs.Formula.Safety
import FormulaGrid.Proofs.Number.Integer
import FormulaGrid.Proofs.Variant.ExactForms

/-!
Contract: the literals of numbers read back as the numbers.

Owns:
- what a literal denotes equals its double (`written_beq`);
- a numeral is a formula of one token (`tokenize_spelling`);
- the numeral of an integer is read as the integer (`readInteger_integer`);
- literals of doubles are a sign and a numeral and evaluate to an equal double, and those of
  integers are their numerals (`literal_reads_back`).
-/

namespace FormulaGrid

open Float.Model Float.Model.UnpackedFloat Text

/-- What is written equals the double, also if that is the negative zero. -/
theorem written_beq {value : Float} (finite : value.isFinite = true) :
    (written value == value) = true := by
  rcases zero_or_finite finite with ⟨sign, zero⟩ | ⟨sign, mantissa, exponent, positive, same⟩
  · have none : unitsOf (parts 0.0) = some 0 := rfl
    have count : unitsOf (parts value) = some 0 := by rw [zero]; rfl
    rw [written_of_zero zero]
    exact (beq_iff_units none count).mpr rfl
  · have count : ∃ units, unitsOf (parts value) = some units := by
      rw [same]
      cases sign <;> exact ⟨_, rfl⟩
    obtain ⟨units, count⟩ := count
    rw [written_of_finite same]
    exact (beq_iff_units count count).mpr rfl

/-! ## Integers -/

/-- The numeral of an integer is its sign and the digits of its magnitude. -/
theorem Numeral.toList_integer (number : Int) :
    (integer number).toList =
      (if number < 0 then ['-'] else []) ++ Nat.toDigits 10 number.natAbs := by
  unfold integer natural
  split
  · rw [String.toList_append, String.toList_ofList, String.toList_ofList]
  · rw [String.toList_ofList]
    rfl

/-- The numeral of an integer is read as the integer, if it is not too long to be read. -/
theorem Numeral.readInteger_integer
    {number : Int}
    (short : (Nat.toDigits 10 number.natAbs).length ≤ longest) :
    readInteger 10 (integer number) = some number := by
  have areDigits : ∀ character ∈ Nat.toDigits 10 number.natAbs, character.isDigit = true :=
    fun _ member => Nat.isDigit_of_mem_toDigits (by decide) (by decide) member
  have reads : ∀ character ∈ Nat.toDigits 10 number.natAbs,
      digitBelow 10 character = some (character.toNat - '0'.toNat) := by
    intro character member
    have below := digitValues_lt areDigits _ (List.mem_map_of_mem member)
    exact if_pos (by rw [areDigits character member]; exact decide_eq_true below)
  have magnitude : valueOfDigits 10
      ((Nat.toDigits 10 number.natAbs).map fun digit => digit.toNat - '0'.toNat) =
        number.natAbs :=
    (valueOfDigits_digitValues _).trans (Nat.ofDigitChars_ten_toDigits)
  have read := readInteger_of_digits reads Nat.toDigits_ne_nil (fun _ => short)
    (decide (number < 0))
  simp only [decide_eq_true_iff] at read
  rw [magnitude, ← toList_integer, String.ofList_toList] at read
  rw [read]
  split <;> congr 1 <;> omega

/-! ## Doubles -/

/-- A numeral is a formula of one token. -/
theorem tokenize_spelling
    {text : String}
    {spelling : Spelling}
    {value : Float}
    (characters : text.toList = spelling.characters)
    (denotes : numeralValue spelling.characters = value) :
    tokenize text = .ok ⟨[⟨.number value, text, 0⟩], text.length⟩ := by
  have nothingBehind : EndsNumeral [] := fun _ member => absurd member (by simp)
  have scanned := spelling.scan true nothingBehind
    (scan_nil false (0 + spelling.characters.length))
  rw [List.append_nil, denotes, ← characters, String.ofList_toList] at scanned
  rw [tokenize, characters, spelling.visible, ← characters, scanned]
  rfl

namespace Variant

/-- Literals read back. For every finite double, the literal and the operand exist. The literal
is a numeral without an exponent, behind a minus sign if the double is below zero; if it is
not, the literal is a single token, a number. The literal and the operand evaluate to a double
that equals the given one. For every integer that is not too long to be read, the literal is its
sign and its digits, and is read as the integer. -/
theorem literal_reads_back :
    (∀ (functions : Elementary) (value : Float), value.isFinite = true →
      ∃ (text operandText : String) (spelling : Spelling) (read : Float),
        literal (.float value) = .ok text ∧
          operand (.float value) = .ok operandText ∧
          text.toList = (if value < 0.0 then ['-'] else []) ++ spelling.characters ∧
          (¬ value < 0.0 →
            tokenize text = .ok ⟨[⟨.number read, text, 0⟩], text.length⟩) ∧
          evaluate functions text = .ok read ∧
          evaluate functions operandText = .ok read ∧
          (read == value) = true) ∧
      ∀ number : Int, (Nat.toDigits 10 number.natAbs).length ≤ Numeral.longest →
        ∃ text : String,
          literal (.int number) = .ok text ∧
            text.toList =
              (if number < 0 then ['-'] else []) ++ Nat.toDigits 10 number.natAbs ∧
            Numeral.readInteger 10 text = some number := by
  constructor
  · intro functions value finite
    obtain ⟨number, fields⟩ := exists_ofFloat?_of_isFinite finite
    obtain ⟨spelling, magnitude, characters, denotes, -, same⟩ :=
      exists_spelling_written fields
    have zero : (0 : Float) = 0.0 := by rfl
    have below : (Number.float value).isNegative = decide (value < 0.0) := by
      rw [Number.isNegative, zero]
    obtain ⟨writing, operandCharacters⟩ := exists_writing_operand functions fields
    refine ⟨_, _, spelling, written value, literal_of_fields fields, operand_of_fields fields, ?_,
      fun notBelow => ?_, evaluate_literal fields,
      writing.signed.product.sum.evaluate_eq operandCharacters (by decide), written_beq finite⟩
    · rw [characters, signCharacters_eq fields, below]
      simp only [decide_eq_true_iff]
    · rw [signCharacters_eq fields, below, decide_eq_false notBelow] at characters
      rw [below, decide_eq_false notBelow, if_neg Bool.false_ne_true] at same
      rw [same]
      exact tokenize_spelling characters denotes
  · intro number short
    have written : literal (.int number) = .ok (Numeral.integer number) :=
      if_pos (decide_eq_true short)
    exact ⟨_, written, Numeral.toList_integer number, Numeral.readInteger_integer short⟩

/-- A small negative double, whose standard text has an exponent, and a negative integer. -/
theorem literal_reads_back_samples :
    ((-0.00001 : Float).isFinite = true ∧
      ∃ read : Float,
        literal (.float (-0.00001)) = .ok "-0.00001" ∧
          operand (.float (-0.00001)) = .ok "(-0.00001)" ∧
          evaluate sampleLibrary "-0.00001" = .ok read ∧
          evaluate sampleLibrary "(-0.00001)" = .ok read ∧
          (read == -0.00001) = true) ∧
      (Nat.toDigits 10 (-120 : Int).natAbs).length ≤ Numeral.longest ∧
        literal (.int (-120)) = .ok "-120" ∧
          "-120".toList = '-' :: Nat.toDigits 10 120 ∧
          Numeral.readInteger 10 "-120" = some (-120) := by
  have finite : (-0.00001 : Float).isFinite = true := by decide +kernel
  have short : (Nat.toDigits 10 (-120 : Int).natAbs).length ≤ Numeral.longest := by
    decide +kernel
  have written : (literal (.float (-0.00001))).toOption = some "-0.00001" := by decide +kernel
  have writtenOperand : (operand (.float (-0.00001))).toOption = some "(-0.00001)" := by
    decide +kernel
  obtain ⟨text, operandText, spelling, read, formed, formedOperand, -, -, reads, readsOperand,
    same⟩ := literal_reads_back.1 sampleLibrary (-0.00001) finite
  rw [formed] at written
  rw [formedOperand] at writtenOperand
  cases written
  cases writtenOperand
  obtain ⟨integerText, formedInteger, digits, readsInteger⟩ := literal_reads_back.2 (-120) short
  have sameInteger : integerText = "-120" := (Except.ok.inj formedInteger).symm.trans rfl
  subst sameInteger
  exact ⟨⟨finite, read, formed, formedOperand, reads, readsOperand, same⟩, short, formedInteger,
    digits, readsInteger⟩

end Variant

end FormulaGrid
