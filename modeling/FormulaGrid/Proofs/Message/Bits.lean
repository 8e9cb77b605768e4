import FormulaGrid.Message.Bits
import FormulaGrid.Proofs.Number.Digits
import FormulaGrid.Proofs.Number.Integer
import FormulaGrid.Proofs.Outcome

/-!
Contract: texts and their bits determine each other.

Owns:
- the number that bits write (`valueOfBits`), and that eight bits and their number
  determine each other (`valueOfBits_octet`, `octet_valueOfBits`);
- the tolerant reading of bits as a numeral (`readInteger_bits`);
- the bits of a text (`bitsOfText_narrow`, `bitsOfText_wide`), the text of bits
  (`textOfBits_bitsOfText`), and the bits that are those of a text
  (`exists_text_of_bits`);
- which character of a text changes with one of its bits (`getElem?_ne_iff_of_set`).
-/

namespace FormulaGrid

open Text

/-- Every character is a zero or a one. -/
def AreBits (bits : List Char) : Prop :=
  ∀ bit ∈ bits, bit = '0' ∨ bit = '1'

/-- The digit that a bit writes. -/
def bitValue (bit : Char) : Nat :=
  if bit = '1' then 1 else 0

/-- The number that bits write, the highest bit first. -/
def valueOfBits (bits : List Char) : Nat :=
  valueOfDigits 2 (bits.map bitValue)

theorem bitValue_lt (bit : Char) : bitValue bit < 2 := by
  unfold bitValue
  split <;> decide

/-- Bits write less than the power of two that their number gives. -/
theorem valueOfBits_lt (bits : List Char) : valueOfBits bits < 2 ^ bits.length := by
  have digits : ∀ digit ∈ bits.map bitValue, digit < 2 := by
    intro digit member
    obtain ⟨bit, -, rfl⟩ := List.mem_map.mp member
    exact bitValue_lt bit
  have bound := valueOfDigits_lt (bits.map bitValue) digits
  rwa [List.length_map] at bound

theorem valueOfBits_concat (bits : List Char) (last : Char) :
    valueOfBits (bits ++ [last]) = valueOfBits bits * 2 + bitValue last := by
  unfold valueOfBits
  rw [List.map_append, List.map_singleton, valueOfDigits_concat]

/-- Equally many bits that write the same number are the same. -/
theorem valueOfBits_injective
    {left right : List Char}
    (leftBits : AreBits left)
    (rightBits : AreBits right)
    (length : left.length = right.length)
    (same : valueOfBits left = valueOfBits right) :
    left = right := by
  induction left using List.reverseRecOn generalizing right with
  | nil => exact (List.length_eq_zero_iff.mp length.symm).symm
  | append_singleton left leftLast inductionHypothesis =>
      cases right using List.reverseRecOn with
      | nil => simp at length
      | append_singleton right rightLast =>
          rw [valueOfBits_concat, valueOfBits_concat] at same
          have leftSmall := bitValue_lt leftLast
          have rightSmall := bitValue_lt rightLast
          have front : left = right := by
            refine inductionHypothesis (fun bit member => ?_) (fun bit member => ?_) ?_ ?_
            · exact leftBits bit (List.mem_append_left _ member)
            · exact rightBits bit (List.mem_append_left _ member)
            · simpa using length
            · omega
          have last : bitValue leftLast = bitValue rightLast := by omega
          have lastSame : leftLast = rightLast := by
            rcases leftBits leftLast (by simp) with rfl | rfl <;>
              rcases rightBits rightLast (by simp) with rfl | rfl <;>
              first | rfl | exact absurd last (by decide)
          rw [front, lastSame]

/-! ## Octets -/

/-- The low bits of a number, the highest first, write its remainder. -/
theorem valueOfBits_range (code places : Nat) :
    valueOfBits ((List.range places).reverse.map fun place =>
      if code.testBit place then '1' else '0') = code % 2 ^ places := by
  induction places with
  | zero => rw [Nat.pow_zero, Nat.mod_one]; rfl
  | succ places inductionHypothesis =>
      have digit : bitValue (if code.testBit places then '1' else '0') =
          code / 2 ^ places % 2 := by
        rw [← Nat.toNat_testBit]
        cases code.testBit places <;> rfl
      unfold valueOfBits at inductionHypothesis ⊢
      rw [List.range_succ, List.reverse_append, List.reverse_singleton, List.singleton_append,
        List.map_cons, List.map_cons, valueOfDigits_cons, inductionHypothesis, digit,
        Nat.mod_pow_succ]
      simp only [List.length_map, List.length_reverse, List.length_range]
      rw [Nat.add_comm, Nat.mul_comm]

theorem valueOfBits_octet {code : Nat} (small : code < octetCodes) :
    valueOfBits (octet code) = code :=
  (valueOfBits_range code bitsPerCharacter).trans (Nat.mod_eq_of_lt small)

@[simp]
theorem length_octet (code : Nat) : (octet code).length = bitsPerCharacter := by
  simp [octet]

theorem areBits_octet (code : Nat) : AreBits (octet code) := by
  intro bit member
  obtain ⟨place, -, rfl⟩ := List.mem_map.mp member
  split
  · exact .inr rfl
  · exact .inl rfl

/-- Eight bits are those of the code that they write. -/
theorem octet_valueOfBits
    {bits : List Char}
    (areBits : AreBits bits)
    (length : bits.length = bitsPerCharacter) :
    octet (valueOfBits bits) = bits := by
  have small : valueOfBits bits < octetCodes := by
    have bound := valueOfBits_lt bits
    rwa [length] at bound
  exact valueOfBits_injective (areBits_octet _) areBits ((length_octet _).trans length.symm)
    (valueOfBits_octet small)

/-! ## Bits as numerals -/

namespace Numeral

/-- Bits are read as the number that they write. -/
theorem readInteger_bits
    {bits : List Char}
    (areBits : AreBits bits)
    (nonempty : bits ≠ []) :
    readInteger 2 (String.ofList bits) = some (valueOfBits bits) := by
  have reads : ∀ bit ∈ bits, digitBelow 2 bit = some (bitValue bit) := by
    intro bit member
    rcases areBits bit member with rfl | rfl <;> rfl
  exact readInteger_of_digits reads nonempty (fun decimal => by cases decimal) false

end Numeral

/-! ## Texts -/

/-- Every character is one that eight bits can write. -/
def AreNarrow (characters : List Char) : Prop :=
  ∀ character ∈ characters, character.toNat < octetCodes

/-- The octets of characters, one after the other. -/
def octetsOf (characters : List Char) : List Char :=
  characters.flatMap fun character => octet character.toNat

theorem areBits_octetsOf (characters : List Char) : AreBits (octetsOf characters) := by
  intro bit member
  obtain ⟨character, -, within⟩ := List.mem_flatMap.mp member
  exact areBits_octet _ bit within

/-- There are eight bits for each character. -/
theorem length_octetsOf (characters : List Char) :
    (octetsOf characters).length = bitsPerCharacter * characters.length := by
  induction characters with
  | nil => rfl
  | cons character others inductionHypothesis =>
      unfold octetsOf at inductionHypothesis ⊢
      rw [List.flatMap_cons, List.length_append, inductionHypothesis, length_octet,
        List.length_cons, Nat.mul_succ, Nat.add_comm]

/-- Narrow characters are written in their octets. -/
theorem bitsFrom_narrow
    {characters : List Char}
    (narrow : AreNarrow characters)
    (position : Nat) :
    bitsFrom position characters = .ok (octetsOf characters) := by
  induction characters generalizing position with
  | nil => rfl
  | cons character others inductionHypothesis =>
      have behind : AreNarrow others :=
        fun other member => narrow other (List.mem_cons_of_mem _ member)
      rw [bitsFrom, if_pos (narrow character List.mem_cons_self), inductionHypothesis behind]
      rfl

/-- The first character that is not narrow cannot be written. -/
theorem bitsFrom_wide
    {before : List Char}
    {wide : Char}
    (after : List Char)
    (narrow : AreNarrow before)
    (notNarrow : ¬ wide.toNat < octetCodes)
    (position : Nat) :
    bitsFrom position (before ++ wide :: after) =
      .error (.codec (.wideCharacter wide (position + before.length))) := by
  induction before generalizing position with
  | nil => exact if_neg notNarrow
  | cons character others inductionHypothesis =>
      have behind : AreNarrow others :=
        fun other member => narrow other (List.mem_cons_of_mem _ member)
      rw [List.cons_append, bitsFrom, if_pos (narrow character List.mem_cons_self),
        inductionHypothesis behind, List.length_cons, Nat.add_right_comm, Nat.add_assoc]
      rfl

theorem bitsOfText_narrow {text : String} (narrow : AreNarrow text.toList) :
    bitsOfText text = .ok (String.ofList (octetsOf text.toList)) := by
  unfold bitsOfText
  rw [bitsFrom_narrow narrow]
  rfl

/-- Of items that do not all have a property there is a first one without it. -/
theorem exists_first_without
    {Item : Type}
    {property : Item → Prop}
    {items : List Item}
    (notAll : ¬ ∀ item ∈ items, property item) :
    ∃ (before : List Item) (first : Item) (after : List Item),
      items = before ++ first :: after ∧
        (∀ item ∈ before, property item) ∧
        ¬ property first := by
  induction items with
  | nil => exact absurd (List.forall_mem_nil _) notAll
  | cons item others inductionHypothesis =>
      by_cases holds : property item
      · have notBehind : ¬ ∀ other ∈ others, property other :=
          fun behind => notAll (List.forall_mem_cons.mpr ⟨holds, behind⟩)
        obtain ⟨before, first, after, rfl, front, fails⟩ := inductionHypothesis notBehind
        exact ⟨item :: before, first, after, rfl, List.forall_mem_cons.mpr ⟨holds, front⟩, fails⟩
      · exact ⟨[], item, others, rfl, List.forall_mem_nil _, holds⟩

/-- A text with another character has none; the first such character is reported. -/
theorem bitsOfText_wide {text : String} (notNarrow : ¬ AreNarrow text.toList) :
    ∃ (wide : Char) (position : Nat),
      text.toList[position]? = some wide ∧
        octetCodes ≤ wide.toNat ∧
        bitsOfText text = .error (.codec (.wideCharacter wide position)) := by
  obtain ⟨before, wide, after, same, narrow, notSmall⟩ := exists_first_without notNarrow
  refine ⟨wide, before.length, ?_, Nat.not_lt.mp notSmall, ?_⟩
  · rw [same, List.getElem?_append_right (Nat.le_refl _), Nat.sub_self]
    rfl
  · rw [bitsOfText, same, bitsFrom_wide after narrow notSmall, Nat.zero_add]
    rfl

/-- Only narrow characters have bits, and these are their octets. -/
theorem narrow_of_bitsOfText {text bits : String} (written : bitsOfText text = .ok bits) :
    AreNarrow text.toList ∧ bits = String.ofList (octetsOf text.toList) := by
  have narrow : AreNarrow text.toList := by
    by_contra notNarrow
    obtain ⟨wide, position, -, -, refused⟩ := bitsOfText_wide notNarrow
    rw [refused] at written
    cases written
  rw [bitsOfText_narrow narrow] at written
  exact ⟨narrow, (Except.ok.inj written).symm⟩

theorem yields_bitsOfText (text : String) :
    Yields (fun _ => True) IsCodecFault (bitsOfText text) := by
  by_cases narrow : AreNarrow text.toList
  · rw [bitsOfText_narrow narrow]
    trivial
  · obtain ⟨wide, position, -, -, refused⟩ := bitsOfText_wide narrow
    rw [refused]
    exact ⟨_, rfl⟩

theorem characterOfGroup_octet {character : Char} (narrow : character.toNat < octetCodes) :
    characterOfGroup (octet character.toNat) = .ok character := by
  have nonempty : octet character.toNat ≠ [] := List.cons_ne_nil _ _
  have read := Numeral.readInteger_bits (areBits_octet character.toNat) nonempty
  rw [valueOfBits_octet narrow] at read
  have natural : ¬ (character.toNat : Int) < 0 := by omega
  unfold characterOfGroup
  rw [read]
  show (if (character.toNat : Int) < 0 then _ else _) = _
  rw [if_neg natural, Int.toNat_natCast, Char.ofNat_toNat]

/-- The characters of a group of eight and more bits are that of the group and those of
the bits behind it. -/
theorem charactersOf_append
    {group : List Char}
    (length : group.length = bitsPerCharacter)
    (rest : List Char) :
    charactersOf (group ++ rest) =
      (do
        let character ← characterOfGroup group
        let others ← charactersOf rest
        return character :: others) := by
  cases group with
  | nil => exact absurd length (by decide)
  | cons first others =>
      have places : others.length = bitsPerCharacter - 1 := by
        rw [List.length_cons] at length
        omega
      rw [List.cons_append, charactersOf, List.take_left' places, List.drop_left' places]

/-- Octets of narrow characters are read as the characters. -/
theorem charactersOf_octetsOf {characters : List Char} (narrow : AreNarrow characters) :
    charactersOf (octetsOf characters) = .ok characters := by
  induction characters with
  | nil => exact charactersOf.eq_1
  | cons character others inductionHypothesis =>
      have behind : AreNarrow others :=
        fun other member => narrow other (List.mem_cons_of_mem _ member)
      have split : octetsOf (character :: others) = octet character.toNat ++ octetsOf others :=
        List.flatMap_cons
      rw [split, charactersOf_append (length_octet _),
        characterOfGroup_octet (narrow character List.mem_cons_self),
        inductionHypothesis behind]
      rfl

theorem toNat_ofNat_of_lt {code : Nat} (small : code < octetCodes) :
    (Char.ofNat code).toNat = code := by
  have valid : code.isValidChar := .inl (Nat.lt_trans small (by decide))
  unfold Char.ofNat
  rw [dif_pos valid]
  rfl

/-- Eight bits for each character are the octets of narrow characters. -/
theorem exists_characters_of_bits
    (count : Nat)
    {bits : List Char}
    (areBits : AreBits bits)
    (length : bits.length = bitsPerCharacter * count) :
    ∃ characters : List Char,
      AreNarrow characters ∧ characters.length = count ∧ octetsOf characters = bits := by
  induction count generalizing bits with
  | zero =>
      refine ⟨[], List.forall_mem_nil _, rfl, ?_⟩
      exact (List.length_eq_zero_iff.mp length).symm
  | succ count inductionHypothesis =>
      have groupLength : (bits.take bitsPerCharacter).length = bitsPerCharacter := by
        rw [List.length_take, length]
        exact Nat.min_eq_left (Nat.le_mul_of_pos_right _ count.succ_pos)
      have restLength : (bits.drop bitsPerCharacter).length = bitsPerCharacter * count := by
        rw [List.length_drop, length, Nat.mul_succ, Nat.add_sub_cancel]
      have groupBits : AreBits (bits.take bitsPerCharacter) :=
        fun bit member => areBits bit (List.mem_of_mem_take member)
      have restBits : AreBits (bits.drop bitsPerCharacter) :=
        fun bit member => areBits bit (List.mem_of_mem_drop member)
      obtain ⟨others, narrow, rfl, octets⟩ := inductionHypothesis restBits restLength
      have small : valueOfBits (bits.take bitsPerCharacter) < octetCodes := by
        have bound := valueOfBits_lt (bits.take bitsPerCharacter)
        rwa [groupLength] at bound
      have code : (Char.ofNat (valueOfBits (bits.take bitsPerCharacter))).toNat =
          valueOfBits (bits.take bitsPerCharacter) :=
        toNat_ofNat_of_lt small
      refine ⟨Char.ofNat (valueOfBits (bits.take bitsPerCharacter)) :: others, ?_, rfl, ?_⟩
      · exact List.forall_mem_cons.mpr ⟨by rwa [code], narrow⟩
      · rw [octetsOf, List.flatMap_cons, code, octet_valueOfBits groupBits groupLength]
        show _ ++ octetsOf others = bits
        rw [octets, List.take_append_drop]

theorem textOfBits_octetsOf {characters : List Char} (narrow : AreNarrow characters) :
    textOfBits (String.ofList (octetsOf characters)) = .ok (String.ofList characters) := by
  have whole : (String.ofList (octetsOf characters)).length % bitsPerCharacter = 0 := by
    rw [String.length_ofList, length_octetsOf, Nat.mul_mod_right]
  unfold textOfBits
  rw [whole, String.toList_ofList, charactersOf_octetsOf narrow]
  rfl

/-- A text that has bits is the one that they write. -/
theorem textOfBits_bitsOfText {text bits : String} (written : bitsOfText text = .ok bits) :
    textOfBits bits = .ok text := by
  obtain ⟨narrow, rfl⟩ := narrow_of_bitsOfText written
  rw [textOfBits_octetsOf narrow, String.ofList_toList]

/-- Bits whose number is a multiple of eight are those of the text that they write. -/
theorem exists_text_of_bits
    {bits : List Char}
    (areBits : AreBits bits)
    (whole : bits.length % bitsPerCharacter = 0) :
    ∃ text : String,
      textOfBits (String.ofList bits) = .ok text ∧
        bitsOfText text = .ok (String.ofList bits) ∧
        bits.length / bitsPerCharacter = text.length := by
  have length : bits.length = bitsPerCharacter * (bits.length / bitsPerCharacter) :=
    (Nat.mul_div_cancel' (Nat.dvd_of_mod_eq_zero whole)).symm
  obtain ⟨characters, narrow, count, rfl⟩ := exists_characters_of_bits _ areBits length
  refine ⟨String.ofList characters, textOfBits_octetsOf narrow, ?_, ?_⟩
  · rw [bitsOfText_narrow (by rwa [String.toList_ofList]), String.toList_ofList]
  · rw [String.length_ofList, count]

/-! ## Single characters -/

/-- In an octet of the bits stands the octet of its character. -/
theorem getElem?_octetsOf
    (characters : List Char)
    (index : Nat)
    {place : Nat}
    (within : place < bitsPerCharacter) :
    (octetsOf characters)[bitsPerCharacter * index + place]? =
      characters[index]?.bind fun character => (octet character.toNat)[place]? := by
  induction characters generalizing index with
  | nil => rfl
  | cons character others inductionHypothesis =>
      have split : octetsOf (character :: others) = octet character.toNat ++ octetsOf others :=
        List.flatMap_cons
      have width := length_octet character.toNat
      rw [split]
      cases index with
      | zero =>
          rw [Nat.mul_zero, Nat.zero_add, List.getElem?_append_left (by omega)]
          rfl
      | succ index =>
          have behind : bitsPerCharacter * (index + 1) + place - (octet character.toNat).length =
              bitsPerCharacter * index + place := by
            rw [width, Nat.mul_succ]
            omega
          have beyond : (octet character.toNat).length ≤
              bitsPerCharacter * (index + 1) + place := by
            rw [width, Nat.mul_succ]
            omega
          rw [List.getElem?_append_right beyond, behind, inductionHypothesis]
          rfl

/-- Narrow characters are the same if their octets are. -/
theorem octet_injective
    {left right : Char}
    (leftNarrow : left.toNat < octetCodes)
    (rightNarrow : right.toNat < octetCodes)
    (same : octet left.toNat = octet right.toNat) :
    left = right := by
  apply Char.toNat_inj.mp
  rw [← valueOfBits_octet leftNarrow, same, valueOfBits_octet rightNarrow]

/-- Of two texts of narrow characters, the characters at an index are the same just if their
octets are. -/
theorem getElem?_eq_iff_octets
    {left right : List Char}
    (leftNarrow : AreNarrow left)
    (rightNarrow : AreNarrow right)
    (index : Nat) :
    left[index]? = right[index]? ↔
      ∀ place < bitsPerCharacter,
        (octetsOf left)[bitsPerCharacter * index + place]? =
          (octetsOf right)[bitsPerCharacter * index + place]? := by
  constructor
  · intro same place within
    rw [getElem?_octetsOf left index within, getElem?_octetsOf right index within, same]
  · intro octets
    have each (place : Nat) (within : place < bitsPerCharacter) :
        (left[index]?.bind fun character => (octet character.toNat)[place]?) =
          right[index]?.bind fun character => (octet character.toNat)[place]? := by
      rw [← getElem?_octetsOf left index within, ← getElem?_octetsOf right index within]
      exact octets place within
    cases inLeft : left[index]? with
    | none =>
        cases inRight : right[index]? with
        | none => rfl
        | some other =>
            have first := each 0 (by decide)
            rw [inLeft, inRight] at first
            cases first
    | some character =>
        cases inRight : right[index]? with
        | none =>
            have first := each 0 (by decide)
            rw [inLeft, inRight] at first
            cases first
        | some other =>
            rw [inLeft, inRight] at each
            apply congrArg some
            apply octet_injective (leftNarrow _ (List.mem_of_getElem? inLeft))
              (rightNarrow _ (List.mem_of_getElem? inRight))
            apply List.ext_getElem?
            intro place
            by_cases within : place < bitsPerCharacter
            · exact each place within
            · rw [List.getElem?_eq_none (by simpa using within),
                List.getElem?_eq_none (by simpa using within)]

/-- If one bit of narrow characters is set, the only character that may change is that of
the bit, and it changes just if the bit does. -/
theorem getElem?_ne_iff_of_set
    {left right : List Char}
    (leftNarrow : AreNarrow left)
    (rightNarrow : AreNarrow right)
    {place : Nat}
    {bit : Char}
    (within : place < (octetsOf left).length)
    (changed : octetsOf right = (octetsOf left).set place bit)
    (index : Nat) :
    right[index]? ≠ left[index]? ↔
      index = place / bitsPerCharacter ∧ (octetsOf left)[place]? ≠ some bit := by
  have positive : 0 < bitsPerCharacter := by decide
  have position := Nat.div_add_mod place bitsPerCharacter
  have offset := Nat.mod_lt place positive
  rw [Ne, getElem?_eq_iff_octets rightNarrow leftNarrow index, changed]
  constructor
  · intro differ
    push Not at differ
    obtain ⟨other, small, differs⟩ := differ
    by_cases here : place = bitsPerCharacter * index + other
    · refine ⟨?_, ?_⟩
      · rw [here, Nat.mul_add_div positive, Nat.div_eq_of_lt small, Nat.add_zero]
      · rw [← here, List.getElem?_set_self within] at differs
        exact differs.symm
    · rw [List.getElem?_set_ne here] at differs
      exact absurd rfl differs
  · rintro ⟨rfl, differs⟩ same
    have atPlace := same _ offset
    rw [position, List.getElem?_set_self within] at atPlace
    exact differs atPlace.symm

end FormulaGrid
