import FormulaGrid.Proofs.Message.Bits
import FormulaGrid.Proofs.Number.Tolerant
import Mathlib.Data.List.Forall2

/-!
Contract: what is read as the bits of a text.

Owns:
- the groups of eight that are read as a character (`WritesCharacter`): numerals of base two with
  all that such a numeral may hold, so long as they are not below zero;
- the strings that are read as a text are the rows of such groups (`textOfBits_eq_ok_iff`);
- on strings of bits reading and writing are inverse to each other; of another string that is read,
  the text has bits of its own, which are as many but not the same (`textOfBits_bits`).

A group is handed to the tolerant reading of numbers, which is why strings that are no bits are read
at all (`textOfBits_prefixed`).
-/

namespace FormulaGrid

open Numeral Text

/-- The group is a numeral of base two for the code of the character. A minus sign is possible for
zero only. -/
def WritesCharacter (group : List Char) (character : Char) : Prop :=
  ∃ (negative : Bool) (digits : List Nat),
    IsBinaryNumeral group negative digits ∧
      (negative = true → valueOfDigits 2 digits = 0) ∧
      character.toNat = valueOfDigits 2 digits

/-- Eight characters write no more than eight bits do. -/
theorem WritesCharacter.narrow
    {group : List Char}
    {character : Char}
    (writes : WritesCharacter group character)
    (length : group.length = bitsPerCharacter) :
    character.toNat < octetCodes := by
  obtain ⟨negative, digits, isNumeral, -, code⟩ := writes
  have bound := isNumeral.value_lt
  rwa [length, ← code] at bound

/-- A group of eight is read as the character that it writes. -/
theorem characterOfGroup_eq_ok_iff
    {group : List Char}
    {character : Char}
    (length : group.length = bitsPerCharacter) :
    characterOfGroup group = .ok character ↔ WritesCharacter group character := by
  unfold characterOfGroup
  constructor
  · intro read
    split at read
    next => cases read
    next code found =>
      obtain ⟨negative, digits, isNumeral, worth⟩ := readInteger_two_iff.mp found
      rw [String.toList_ofList] at isNumeral
      split at read
      next => cases read
      next notBelow =>
        have small : valueOfDigits 2 digits < octetCodes := by
          have bound := isNumeral.value_lt
          rwa [length] at bound
        -- A negative that is not below zero is that of zero.
        have zero : negative = true → valueOfDigits 2 digits = 0 := by
          rintro rfl
          rw [if_pos rfl] at worth
          omega
        have natural : code.toNat = valueOfDigits 2 digits := by
          cases negative with
          | true =>
              rw [if_pos rfl] at worth
              omega
          | false => exact congrArg Int.toNat worth
        refine ⟨negative, digits, isNumeral, zero, ?_⟩
        rw [← Except.ok.inj read, natural, toNat_ofNat_of_lt small]
  · rintro ⟨negative, digits, isNumeral, zero, code⟩
    have worth : (valueOfDigits 2 digits : Int) =
        if negative then -(valueOfDigits 2 digits : Int) else valueOfDigits 2 digits := by
      cases negative with
      | true =>
          rw [zero rfl]
          rfl
      | false => rfl
    have found : readInteger 2 (String.ofList group) = some (valueOfDigits 2 digits : Int) :=
      readInteger_two_iff.mpr ⟨negative, digits, by rwa [String.toList_ofList], worth⟩
    rw [found]
    show (if (valueOfDigits 2 digits : Int) < 0 then _ else _) = _
    rw [if_neg (by omega), Int.toNat_natCast, ← code, Char.ofNat_toNat]

/-! ## Rows of groups -/

/-- All groups have eight characters. -/
def AreOctets (groups : List (List Char)) : Prop :=
  ∀ group ∈ groups, group.length = bitsPerCharacter

theorem length_flatten_of_areOctets {groups : List (List Char)} (areOctets : AreOctets groups) :
    groups.flatten.length = bitsPerCharacter * groups.length := by
  have lengths : groups.map List.length = groups.map fun _ => bitsPerCharacter :=
    List.map_congr_left areOctets
  rw [List.length_flatten, lengths, List.map_const', List.sum_replicate_nat, Nat.mul_comm]

/-- Characters whose number is a multiple of eight are a row of groups. -/
theorem exists_octets
    (count : Nat)
    {bits : List Char}
    (length : bits.length = bitsPerCharacter * count) :
    ∃ groups : List (List Char), AreOctets groups ∧ bits = groups.flatten := by
  induction count generalizing bits with
  | zero => exact ⟨[], List.forall_mem_nil _, List.length_eq_zero_iff.mp length⟩
  | succ count inductionHypothesis =>
      have group : (bits.take bitsPerCharacter).length = bitsPerCharacter := by
        rw [List.length_take, length, Nat.mul_succ]
        omega
      have rest : (bits.drop bitsPerCharacter).length = bitsPerCharacter * count := by
        rw [List.length_drop, length, Nat.mul_succ, Nat.add_sub_cancel]
      obtain ⟨groups, areOctets, same⟩ := inductionHypothesis rest
      refine ⟨bits.take bitsPerCharacter :: groups, List.forall_mem_cons.mpr ⟨group, areOctets⟩, ?_⟩
      rw [List.flatten_cons, ← same, List.take_append_drop]

/-- A row of groups is read as the characters that the groups write, one by one. -/
theorem charactersOf_flatten_eq_ok_iff
    {groups : List (List Char)}
    (areOctets : AreOctets groups)
    {characters : List Char} :
    charactersOf groups.flatten = .ok characters ↔
      List.Forall₂ WritesCharacter groups characters := by
  induction groups generalizing characters with
  | nil =>
      rw [List.flatten_nil, charactersOf, List.forall₂_nil_left_iff, Except.ok.injEq]
      exact eq_comm
  | cons group others inductionHypothesis =>
      obtain ⟨length, behind⟩ := List.forall_mem_cons.mp areOctets
      rw [List.flatten_cons, charactersOf_append length]
      constructor
      · intro read
        obtain ⟨character, first, readBehind⟩ := exists_of_bind_eq_ok read
        obtain ⟨rest, readOthers, same⟩ := exists_of_bind_eq_ok readBehind
        cases same
        exact .cons ((characterOfGroup_eq_ok_iff length).mp first)
          ((inductionHypothesis behind).mp readOthers)
      · intro writes
        cases writes with
        | cons first rest =>
            rw [(characterOfGroup_eq_ok_iff length).mpr first,
              (inductionHypothesis behind).mpr rest]
            rfl

/-- The strings that are read as a text are rows of groups, each of which writes its character. -/
theorem textOfBits_eq_ok_iff {bits text : String} :
    textOfBits bits = .ok text ↔
      ∃ groups : List (List Char),
        AreOctets groups ∧
          bits.toList = groups.flatten ∧
          List.Forall₂ WritesCharacter groups text.toList := by
  unfold textOfBits
  constructor
  · intro read
    split at read
    next whole =>
      obtain ⟨characters, readCharacters, rfl⟩ := exists_of_map_eq_ok read
      have count := Nat.mul_div_cancel' (Nat.dvd_of_mod_eq_zero (beq_iff_eq.mp whole))
      obtain ⟨groups, areOctets, same⟩ := exists_octets _ (bits.length_toList.trans count.symm)
      rw [same] at readCharacters
      refine ⟨groups, areOctets, same, ?_⟩
      rw [String.toList_ofList]
      exact (charactersOf_flatten_eq_ok_iff areOctets).mp readCharacters
    next => cases read
  · rintro ⟨groups, areOctets, same, writes⟩
    have whole : bits.length % bitsPerCharacter = 0 := by
      rw [← bits.length_toList, same, length_flatten_of_areOctets areOctets, Nat.mul_mod_right]
    rw [if_pos (beq_iff_eq.mpr whole), same, (charactersOf_flatten_eq_ok_iff areOctets).mpr writes]
    exact congrArg Except.ok (String.ofList_toList)

/-- The text that is read is of narrow characters, one for each eight of the string. -/
theorem narrow_of_textOfBits {bits text : String} (read : textOfBits bits = .ok text) :
    AreNarrow text.toList ∧ bits.length = bitsPerCharacter * text.length := by
  obtain ⟨groups, areOctets, same, writes⟩ := textOfBits_eq_ok_iff.mp read
  constructor
  · intro character member
    obtain ⟨index, within, rfl⟩ := List.getElem_of_mem member
    have reached : index < groups.length := by rwa [writes.length_eq]
    exact (writes.get reached within).narrow (areOctets _ (List.get_mem _ _))
  · rw [← bits.length_toList, same, length_flatten_of_areOctets areOctets, writes.length_eq,
      String.length_toList]

/-- Narrow texts have bits, which are read as the text. -/
theorem exists_bits_of_narrow {text : String} (narrow : AreNarrow text.toList) :
    ∃ octets : String,
      bitsOfText text = .ok octets ∧
        AreBits octets.toList ∧
        octets.length = bitsPerCharacter * text.length ∧
        textOfBits octets = .ok text := by
  have written := bitsOfText_narrow narrow
  refine ⟨_, written, ?_, ?_, textOfBits_bitsOfText written⟩
  · rw [String.toList_ofList]
    exact areBits_octetsOf _
  · rw [String.length_ofList, length_octetsOf, String.length_toList]

/-- Bits whose number is a multiple of eight are those of the text that they are read as. -/
theorem exists_text_of_areBits
    {bits : String}
    (areBits : AreBits bits.toList)
    (whole : bits.length % bitsPerCharacter = 0) :
    ∃ text : String, textOfBits bits = .ok text ∧ bitsOfText text = .ok bits := by
  obtain ⟨text, reads, writes, -⟩ := exists_text_of_bits areBits (by rwa [String.length_toList])
  rw [String.ofList_toList] at reads writes
  exact ⟨text, reads, writes⟩

/-- A string that is read as a text is the bits of the text just if it is one of bits. -/
theorem bitsOfText_eq_ok_iff_of_textOfBits
    {bits text : String}
    (read : textOfBits bits = .ok text) :
    bitsOfText text = .ok bits ↔ AreBits bits.toList := by
  obtain ⟨narrow, length⟩ := narrow_of_textOfBits read
  constructor
  · intro writes
    obtain ⟨octets, written, areBits, -⟩ := exists_bits_of_narrow narrow
    rwa [Except.ok.inj (writes.symm.trans written)]
  · intro areBits
    obtain ⟨other, readsOther, writesOther⟩ :=
      exists_text_of_areBits areBits (by rw [length, Nat.mul_mod_right])
    rwa [Except.ok.inj (read.symm.trans readsOther)]

/-- Bits and texts of narrow characters determine each other, but a string that is read as a text
need not be its bits. What is read are the strings whose groups of eight are numerals of base two
for the characters. Of such a string the text is narrow, its bits are as long as the string, and
they are the string just if this is one of bits. The bits of a narrow text are read as the text, and
bits whose number is a multiple of eight are those of the text that they are read as. -/
theorem textOfBits_bits (bits text : String) :
    (textOfBits bits = .ok text ↔
      ∃ groups : List (List Char),
        AreOctets groups ∧
          bits.toList = groups.flatten ∧
          List.Forall₂ WritesCharacter groups text.toList) ∧
    (textOfBits bits = .ok text →
      bits.length % bitsPerCharacter = 0 ∧
        AreNarrow text.toList ∧
        (bitsOfText text = .ok bits ↔ AreBits bits.toList) ∧
        ∃ octets : String, bitsOfText text = .ok octets ∧ octets.length = bits.length) ∧
    (AreNarrow text.toList →
      ∃ octets : String,
        bitsOfText text = .ok octets ∧
          AreBits octets.toList ∧
          octets.length = bitsPerCharacter * text.length ∧
          textOfBits octets = .ok text) ∧
    (AreBits bits.toList →
      bits.length % bitsPerCharacter = 0 →
        ∃ written : String,
          AreNarrow written.toList ∧
            textOfBits bits = .ok written ∧
            bitsOfText written = .ok bits) := by
  refine ⟨textOfBits_eq_ok_iff, fun read => ?_, exists_bits_of_narrow, fun areBits whole => ?_⟩
  · obtain ⟨narrow, length⟩ := narrow_of_textOfBits read
    obtain ⟨octets, written, -, size, -⟩ := exists_bits_of_narrow narrow
    exact ⟨by rw [length, Nat.mul_mod_right], narrow, bitsOfText_eq_ok_iff_of_textOfBits read,
      octets, written, size.trans length.symm⟩
  · obtain ⟨written, reads, writes⟩ := exists_text_of_areBits areBits whole
    exact ⟨written, (narrow_of_textOfBits reads).1, reads, writes⟩

/-- The bits of two letters are read as these, and written again. A string with a sign, a mark and
underscores is read too, and is not what is written again. -/
theorem textOfBits_bits_samples :
    AreNarrow "FC".toList ∧
      (∃ octets : String, bitsOfText "FC" = .ok octets ∧ textOfBits octets = .ok "FC") ∧
      AreBits "0100011001000011".toList ∧
      "0100011001000011".length % bitsPerCharacter = 0 ∧
      (∃ written : String,
        textOfBits "0100011001000011" = .ok written ∧
          bitsOfText written = .ok "0100011001000011") ∧
      textOfBits "+0b_1_01" = .ok "\x05" ∧
      (∃ groups : List (List Char),
        AreOctets groups ∧
          "+0b_1_01".toList = groups.flatten ∧
          List.Forall₂ WritesCharacter groups "\x05".toList) ∧
      bitsOfText "\x05" ≠ .ok "+0b_1_01" := by
  have narrow : AreNarrow ['F', 'C'] :=
    List.forall_mem_cons.mpr ⟨by decide, List.forall_mem_singleton.mpr (by decide)⟩
  have areBits : AreBits "0100011001000011".toList := by
    have octets : "0100011001000011".toList = octetsOf ['F', 'C'] := by decide
    rw [octets]
    exact areBits_octetsOf _
  have whole : "0100011001000011".length % bitsPerCharacter = 0 := by decide
  have tolerated : textOfBits "+0b_1_01" = .ok "\x05" := eq_ok_of_toOption (by decide +kernel)
  have notBits : ¬ AreBits "+0b_1_01".toList :=
    fun areBits => absurd (areBits '+' (by decide)) (by decide)
  obtain ⟨-, -, ofNarrow, ofBits⟩ := textOfBits_bits "0100011001000011" "FC"
  obtain ⟨octets, writes, -, -, reads⟩ := ofNarrow narrow
  obtain ⟨written, -, readsBits, writesBits⟩ := ofBits areBits whole
  obtain ⟨readIff, ofRead, -⟩ := textOfBits_bits "+0b_1_01" "\x05"
  obtain ⟨-, -, same, -⟩ := ofRead tolerated
  exact ⟨narrow, ⟨octets, writes, reads⟩, areBits, whole, ⟨written, readsBits, writesBits⟩,
    tolerated, readIff.mp tolerated, fun equal => notBits (same.mp equal)⟩

/-- The mark of base two stands in a string that is read as a text. The string is none of bits, and
the text has other bits. -/
theorem textOfBits_prefixed :
    textOfBits "0b000001" = .ok "\x01" ∧
      ¬ AreBits "0b000001".toList ∧
      bitsOfText "\x01" = .ok "00000001" := by
  have notBits : ¬ AreBits "0b000001".toList :=
    fun areBits => absurd (areBits 'b' (by decide)) (by decide)
  exact ⟨eq_ok_of_toOption (by decide +kernel), notBits, eq_ok_of_toOption (by decide +kernel)⟩

end FormulaGrid
