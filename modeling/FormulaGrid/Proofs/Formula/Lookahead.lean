import FormulaGrid.Proofs.Formula.Numeral
import FormulaGrid.Proofs.Outcome

/-!
Contract: how far the reading of a lexeme looks ahead.

Owns:
- the texts that do not go on a lexeme (`EndsLexeme`);
- a text may be cut off behind its first lexeme, or in front of what does not go on a lexeme,
  and is read the same (`Lexeme.read_append`);
- a lexeme takes visible characters from the front of the text (`Lexeme.takes_read`).

A numeral looks at two characters behind its digits, a run of raised digits at the root sign
behind it, a word at the digits behind it. Nothing else of the text matters.
-/

namespace FormulaGrid

open Text

/-- The text starts with nothing that goes on a lexeme. -/
def EndsLexeme (rest : List Char) : Prop :=
  ∀ character ∈ rest.head?,
    character.isDigit = false ∧ character ≠ '.' ∧ character ≠ '√' ∧ character.isAlpha = false ∧
      isSuperscript character = false ∧ isSubscript character = false

/-! ## Runs -/

section Runs

variable {goesOn : Char → Bool} {kept rest : List Char}

/-- A run that ends within the front part of a text is the run of that part. -/
theorem run_append (within : ((kept ++ rest).takeWhile goesOn).length ≤ kept.length) :
    (kept ++ rest).takeWhile goesOn = kept.takeWhile goesOn ∧
      (kept ++ rest).dropWhile goesOn = kept.dropWhile goesOn ++ rest := by
  induction kept with
  | nil =>
      have none : rest.takeWhile goesOn = [] := List.length_eq_zero_iff.mp (Nat.le_zero.mp within)
      refine ⟨none, ?_⟩
      have parts := List.takeWhile_append_dropWhile (p := goesOn) (l := rest)
      rwa [none] at parts
  | cons head tail inductionHypothesis =>
      cases same : goesOn head with
      | false => simp [same]
      | true =>
          rw [List.cons_append, List.takeWhile_cons_of_pos same, List.length_cons,
            List.length_cons] at within
          obtain ⟨taken, left⟩ := inductionHypothesis (Nat.le_of_succ_le_succ within)
          simp [same, taken, left]

/-- A run ends in front of what does not go on it. -/
theorem length_run_append_le (ends : ∀ character ∈ rest.head?, goesOn character = false) :
    ((kept ++ rest).takeWhile goesOn).length ≤ kept.length := by
  have none : rest.takeWhile goesOn = [] := by
    cases rest with
    | nil => rfl
    | cons head tail => exact List.takeWhile_cons_of_neg (by simp [ends head rfl])
  rw [List.takeWhile_append, none, List.append_nil]
  split
  · exact Nat.le_refl _
  · exact (List.takeWhile_prefix _).length_le

theorem length_run_pos
    {head : Char}
    (first : goesOn head = true)
    (tail : List Char) :
    0 < ((head :: tail).takeWhile goesOn).length := by
  rw [List.takeWhile_cons_of_pos first]
  exact Nat.succ_pos _

end Runs

/-! ## Numerals -/

/-- What goes on a numeral behind its first digits: a point and the digits behind it. -/
def fractionSpan : List Char → List Char
  | '.' :: rest =>
      let fraction := rest.takeWhile Char.isDigit
      if fraction.isEmpty then [] else '.' :: fraction
  | _ => []

theorem fractionSpan_of_ne {head : Char} (other : head ≠ '.') (tail : List Char) :
    fractionSpan (head :: tail) = [] := by
  unfold fractionSpan
  split
  next same => exact absurd (List.cons.inj same).1 other
  next => rfl

/-- A numeral is its first digits and what goes on them. -/
theorem numeralSpan_eq (characters : List Char) :
    numeralSpan characters =
      characters.takeWhile Char.isDigit ++ fractionSpan (characters.dropWhile Char.isDigit) := by
  unfold numeralSpan
  cases characters.dropWhile Char.isDigit with
  | nil => exact (List.append_nil _).symm
  | cons head tail =>
      by_cases point : head = '.'
      · subst point
        simp only [fractionSpan]
        split
        · exact (List.append_nil _).symm
        · rfl
      · rw [fractionSpan_of_ne point, List.append_nil]
        split
        next same => exact absurd (List.cons.inj same).1 point
        next => rfl

theorem fractionSpan_isPrefix (characters : List Char) :
    fractionSpan characters <+: characters := by
  unfold fractionSpan
  split
  · dsimp only
    split
    · exact List.nil_prefix
    · exact List.cons_prefix_cons.mpr ⟨rfl, List.takeWhile_prefix _⟩
  · exact List.nil_prefix

/-- A numeral stands at the front of the text. -/
theorem numeralSpan_isPrefix (characters : List Char) : numeralSpan characters <+: characters := by
  have behind := (List.prefix_append_right_inj (characters.takeWhile Char.isDigit)).mpr
    (fractionSpan_isPrefix (characters.dropWhile Char.isDigit))
  rwa [← numeralSpan_eq, List.takeWhile_append_dropWhile] at behind

theorem fractionSpan_append
    {kept rest : List Char}
    (cut : EndsLexeme rest ∨ (fractionSpan (kept ++ rest)).length ≤ kept.length) :
    fractionSpan (kept ++ rest) = fractionSpan kept := by
  cases kept with
  | nil =>
      rcases cut with ends | short
      · cases rest with
        | nil => rfl
        | cons head tail => exact fractionSpan_of_ne (ends head rfl).2.1 tail
      · exact List.length_eq_zero_iff.mp (Nat.le_zero.mp short)
  | cons head tail =>
      by_cases point : head = '.'
      · subst point
        have inside : ((tail ++ rest).takeWhile Char.isDigit).length ≤ tail.length := by
          rcases cut with ends | short
          · exact length_run_append_le fun character member => (ends character member).1
          · simp only [List.cons_append, fractionSpan] at short
            split at short
            next none => simp [List.isEmpty_iff.mp none]
            next => exact Nat.le_of_succ_le_succ short
        simp only [List.cons_append, fractionSpan, (run_append inside).1]
      · rw [List.cons_append, fractionSpan_of_ne point, fractionSpan_of_ne point]

/-- The numeral at the front of a text is found in every part of the text that holds it. -/
theorem numeralSpan_append
    {kept rest : List Char}
    (cut : EndsLexeme rest ∨ (numeralSpan (kept ++ rest)).length ≤ kept.length) :
    numeralSpan (kept ++ rest) = numeralSpan kept := by
  simp only [numeralSpan_eq, List.length_append] at cut ⊢
  have within : ((kept ++ rest).takeWhile Char.isDigit).length ≤ kept.length := by
    rcases cut with ends | short
    · exact length_run_append_le fun character member => (ends character member).1
    · omega
  have parts := congrArg List.length
    (List.takeWhile_append_dropWhile (p := Char.isDigit) (l := kept))
  rw [List.length_append] at parts
  obtain ⟨taken, left⟩ := run_append within
  rw [taken, left] at cut ⊢
  rw [fractionSpan_append (cut.imp_right fun short => by omega)]

/-! ## Superscripts and words -/

namespace Lexeme

/-- Raised digits are an index if the root sign stands behind them, else an exponent. -/
theorem readSuperscript_eq (first : Bool) (position : Nat) (characters : List Char) :
    readSuperscript first position characters =
      superscriptValue (characters.takeWhile isSuperscript) >>= fun value =>
        if (characters.dropWhile isSuperscript).head? = some '√' then
          (floatOfInteger value).map fun index =>
            ⟨root index, String.ofList (characters.takeWhile isSuperscript ++ ['√']),
              (characters.takeWhile isSuperscript).length⟩
        else if first then
          .error (.formula (.danglingSuperscript
            (String.ofList (characters.takeWhile isSuperscript)) position))
        else
          (floatOfInteger value).map fun exponent =>
            ⟨superscript exponent, String.ofList (characters.takeWhile isSuperscript),
              (characters.takeWhile isSuperscript).length - 1⟩ := by
  unfold readSuperscript
  refine congrArg _ (funext fun value => ?_)
  cases characters.dropWhile isSuperscript with
  | nil => cases first <;> rfl
  | cons head tail =>
      by_cases sign : head = '√'
      · subst sign
        rfl
      · have other : (head :: tail).head? ≠ some '√' := fun same => sign (Option.some.inj same)
        dsimp only
        rw [if_neg other]
        split
        next same => exact absurd (List.cons.inj same).1 sign
        next => cases first <;> rfl

/-- The run and the root sign behind it are what raised digits are read from. -/
theorem further_readSuperscript
    {first : Bool}
    {position : Nat}
    {characters : List Char}
    {reading : Reading}
    (read : readSuperscript first position characters = .ok reading) :
    reading.further =
      if (characters.dropWhile isSuperscript).head? = some '√' then
        (characters.takeWhile isSuperscript).length
      else
        (characters.takeWhile isSuperscript).length - 1 := by
  rw [readSuperscript_eq] at read
  obtain ⟨value, -, behind⟩ := exists_of_bind_eq_ok read
  split at behind
  next sign =>
    obtain ⟨index, -, rfl⟩ := exists_of_map_eq_ok behind
    rw [if_pos sign]
  next other =>
    split at behind
    · cases behind
    · obtain ⟨exponent, -, rfl⟩ := exists_of_map_eq_ok behind
      rw [if_neg other]

/-- Raised digits and the root sign behind them are found in every part that holds them. -/
theorem readSuperscript_append
    {first : Bool}
    {position : Nat}
    {kept rest : List Char}
    (cut : EndsLexeme rest ∨ ∃ reading,
      readSuperscript first position (kept ++ rest) = .ok reading ∧
        reading.further < kept.length) :
    readSuperscript first position (kept ++ rest) = readSuperscript first position kept := by
  have within : ((kept ++ rest).takeWhile isSuperscript).length ≤ kept.length := by
    rcases cut with ends | ⟨reading, read, short⟩
    · exact length_run_append_le fun character member => (ends character member).2.2.2.2.1
    · have further := further_readSuperscript read
      split at further <;> omega
  obtain ⟨taken, left⟩ := run_append within
  have sign : ((kept ++ rest).dropWhile isSuperscript).head? = some '√' ↔
      (kept.dropWhile isSuperscript).head? = some '√' := by
    rw [left]
    cases behind : kept.dropWhile isSuperscript with
    | cons head tail => rfl
    | nil =>
        -- The run reaches the cut, and a root sign behind it would be read with it.
        have whole : kept.takeWhile isSuperscript = kept := by
          have parts := List.takeWhile_append_dropWhile (p := isSuperscript) (l := kept)
          rwa [behind, List.append_nil] at parts
        rw [List.nil_append, List.head?_nil]
        refine ⟨fun same => ?_, fun same => by cases same⟩
        rcases cut with ends | ⟨reading, read, short⟩
        · exact absurd rfl (ends '√' same).2.2.1
        · have further := further_readSuperscript read
          rw [left, behind, List.nil_append, if_pos same, taken, whole] at further
          omega
  rw [readSuperscript_eq, readSuperscript_eq, taken]
  simp only [sign]

/-- The lowered digits behind a name, which only the logarithm has. -/
def loweredSpan (name : FunctionName) (behind : List Char) : List Char :=
  if name == .log then behind.takeWhile isSubscript else []

/-- The raised digits behind a name and its lowered ones. -/
def raisedSpan (name : FunctionName) (behind : List Char) : List Char :=
  (behind.drop (loweredSpan name behind).length).takeWhile isSuperscript

/-- A function is read from its name, its lowered digits and its raised ones. -/
def readFunction
    (name : FunctionName)
    (letters lowered raised : List Char) :
    Except Fault Reading :=
  (if raised.isEmpty then .ok none else (superscriptValue raised).map some).map fun power =>
    ⟨function name power
        (if lowered.isEmpty then none
        else some (floatOfDecimal (digitIndices subscriptDigits lowered) 0)),
      String.ofList letters, letters.length + lowered.length + raised.length - 1⟩

theorem readWord_eq (position : Nat) (characters : List Char) :
    readWord position characters =
      if String.ofList (characters.takeWhile Char.isAlpha) == "e" then
        .ok ⟨constant naturalBase, String.ofList (characters.takeWhile Char.isAlpha), 0⟩
      else
        match FunctionName.ofWord? (String.ofList (characters.takeWhile Char.isAlpha)) with
        | none =>
            .error (.formula
              (.unknownWord (String.ofList (characters.takeWhile Char.isAlpha)) position))
        | some name =>
            readFunction name (characters.takeWhile Char.isAlpha)
              (loweredSpan name (characters.dropWhile Char.isAlpha))
              (raisedSpan name (characters.dropWhile Char.isAlpha)) := by
  unfold readWord
  dsimp only
  split
  · rfl
  · cases FunctionName.ofWord? (String.ofList (characters.takeWhile Char.isAlpha)) with
    | none => rfl
    | some name =>
        show (if (raisedSpan name (characters.dropWhile Char.isAlpha)).isEmpty = true then _
          else _) = readFunction name _ _ _
        unfold readFunction
        split
        · rfl
        · show (some <$> superscriptValue (raisedSpan name _) >>= _) = _
          cases superscriptValue (raisedSpan name (characters.dropWhile Char.isAlpha)) <;> rfl

theorem further_readFunction
    {name : FunctionName}
    {letters lowered raised : List Char}
    {reading : Reading}
    (read : readFunction name letters lowered raised = .ok reading) :
    reading.further = letters.length + lowered.length + raised.length - 1 := by
  obtain ⟨power, -, rfl⟩ := exists_of_map_eq_ok read
  rfl

/-- The digits behind a name are found in every part that holds them. -/
theorem digitSpans_append
    {name : FunctionName}
    {kept rest : List Char}
    (cut : EndsLexeme rest ∨
      (loweredSpan name (kept ++ rest)).length + (raisedSpan name (kept ++ rest)).length ≤
        kept.length) :
    loweredSpan name (kept ++ rest) = loweredSpan name kept ∧
      raisedSpan name (kept ++ rest) = raisedSpan name kept := by
  have lowered : loweredSpan name (kept ++ rest) = loweredSpan name kept := by
    unfold loweredSpan at cut ⊢
    split
    next log =>
      rw [if_pos log] at cut
      refine (run_append ?_).1
      rcases cut with ends | short
      · exact length_run_append_le fun character member => (ends character member).2.2.2.2.2
      · omega
    next => rfl
  have inside : (loweredSpan name kept).length ≤ kept.length := by
    unfold loweredSpan
    split
    · exact (List.takeWhile_prefix _).length_le
    · exact Nat.zero_le _
  refine ⟨lowered, ?_⟩
  unfold raisedSpan at cut ⊢
  rw [lowered, List.drop_append_of_le_length inside] at cut ⊢
  refine (run_append ?_).1
  rcases cut with ends | short
  · exact length_run_append_le fun character member => (ends character member).2.2.2.2.1
  · rw [List.length_drop]
    omega

/-- A word that is read takes its letters, and the digits behind a name. -/
theorem letters_le_further
    {position : Nat}
    {characters : List Char}
    {reading : Reading}
    (read : readWord position characters = .ok reading) :
    (characters.takeWhile Char.isAlpha).length ≤ reading.further + 1 := by
  rw [readWord_eq] at read
  split at read
  next natural =>
    have letters : characters.takeWhile Char.isAlpha = ['e'] :=
      String.ofList_injective (beq_iff_eq.mp natural)
    rw [letters]
    exact Nat.le_add_left _ _
  next =>
    split at read
    · cases read
    · have further := further_readFunction read
      omega

/-- A word and the digits behind it are found in every part that holds them. -/
theorem readWord_append
    {position : Nat}
    {kept rest : List Char}
    (cut : EndsLexeme rest ∨ ∃ reading,
      readWord position (kept ++ rest) = .ok reading ∧ reading.further < kept.length) :
    readWord position (kept ++ rest) = readWord position kept := by
  have within : ((kept ++ rest).takeWhile Char.isAlpha).length ≤ kept.length := by
    rcases cut with ends | ⟨reading, read, short⟩
    · exact length_run_append_le fun character member => (ends character member).2.2.2.1
    · exact Nat.le_trans (letters_le_further read) short
  obtain ⟨taken, left⟩ := run_append within
  have parts := congrArg List.length
    (List.takeWhile_append_dropWhile (p := Char.isAlpha) (l := kept))
  rw [List.length_append] at parts
  rw [readWord_eq, readWord_eq, taken, left]
  simp only [readWord_eq, taken, left] at cut
  split
  next => rfl
  next notNatural =>
    split
    next => rfl
    next name found =>
      rw [if_neg notNatural, found] at cut
      have digits := @digitSpans_append name (kept.dropWhile Char.isAlpha) rest <| by
        refine cut.imp_right fun ⟨reading, read, short⟩ => ?_
        have further := further_readFunction read
        omega
      rw [digits.1, digits.2]

/-! ## All lexemes -/

/-- A lexeme is read from every part of the text that holds it, and nothing else of the text
matters; so is its fault in front of what does not go on a lexeme. -/
theorem read_append
    {first : Bool}
    {position : Nat}
    {head : Char}
    {kept rest : List Char}
    (cut : EndsLexeme rest ∨ ∃ reading,
      read first position head (kept ++ rest) = .ok reading ∧ reading.further ≤ kept.length) :
    read first position head (kept ++ rest) = read first position head kept := by
  have spans : numeralSpan (head :: (kept ++ rest)) = numeralSpan (head :: kept) := by
    refine @numeralSpan_append (head :: kept) rest
      (cut.imp_right fun ⟨reading, found, short⟩ => ?_)
    unfold read at found
    dsimp only at found
    split at found
    next =>
      cases found
      exact Nat.le_add_of_sub_le short
    next noNumeral =>
      have none : numeralSpan (head :: (kept ++ rest)) = [] := by simpa using noNumeral
      exact (congrArg List.length none).trans_le (Nat.zero_le _)
  unfold read at cut ⊢
  dsimp only at cut ⊢
  rw [spans] at cut ⊢
  split
  next => rfl
  next noNumeral =>
    rw [if_neg noNumeral] at cut
    split
    next raised =>
      rw [if_pos raised] at cut
      exact @readSuperscript_append first position (head :: kept) rest
        (cut.imp_right fun ⟨reading, found, short⟩ => ⟨reading, found, Nat.lt_succ_of_le short⟩)
    next notRaised =>
      rw [if_neg notRaised] at cut
      split
      next letter =>
        rw [if_pos letter] at cut
        exact @readWord_append position (head :: kept) rest
          (cut.imp_right fun ⟨reading, found, short⟩ => ⟨reading, found, Nat.lt_succ_of_le short⟩)
      next => rfl

/-! ## What is taken -/

/-- The reading takes visible characters from the front of the text. -/
def Takes (reading : Reading) (characters : List Char) : Prop :=
  ∃ span rest : List Char,
    characters = span ++ rest ∧ span.length = reading.further + 1 ∧
      ∀ character ∈ span, isBlank character = false

/-- Signs and digits of every kind are visible, and so are letters. -/
theorem isBlank_of_isAlpha {character : Char} (letter : character.isAlpha = true) :
    isBlank character = false := by
  have bounds : 65 ≤ character.toNat ∧ character.toNat ≤ 90 ∨
      97 ≤ character.toNat ∧ character.toNat ≤ 122 := by
    simpa [Char.isAlpha, Char.isUpper, Char.isLower, UInt32.le_iff_toNat_le] using letter
  simp [isBlank]
  omega

theorem isBlank_of_isSuperscript {character : Char} (raised : isSuperscript character = true) :
    isBlank character = false := by
  have visible : ∀ digit ∈ superscriptDigits, isBlank digit = false := by
    simp [superscriptDigits, isBlank]
  exact visible character (List.contains_iff_mem.mp raised)

theorem isBlank_of_isSubscript {character : Char} (lowered : isSubscript character = true) :
    isBlank character = false := by
  have visible : ∀ digit ∈ subscriptDigits, isBlank digit = false := by
    simp [subscriptDigits, isBlank]
  exact visible character (List.contains_iff_mem.mp lowered)

theorem isBlank_of_mem_numeralSpan
    {characters : List Char}
    {character : Char}
    (member : character ∈ numeralSpan characters) :
    isBlank character = false := by
  rw [numeralSpan_eq, List.mem_append] at member
  rcases member with whole | fraction
  · exact (plain_of_isDigit (List.mem_takeWhile_imp whole)).1
  · unfold fractionSpan at fraction
    split at fraction
    · dsimp only at fraction
      split at fraction
      · cases fraction
      · rcases List.mem_cons.mp fraction with rfl | digit
        · decide
        · exact (plain_of_isDigit (List.mem_takeWhile_imp digit)).1
    · cases fraction

theorem takes_readSuperscript
    {first : Bool}
    {position : Nat}
    {head : Char}
    {tail : List Char}
    {reading : Reading}
    (raised : isSuperscript head = true)
    (read : readSuperscript first position (head :: tail) = .ok reading) :
    Takes reading (head :: tail) := by
  have further := further_readSuperscript read
  have parts := List.takeWhile_append_dropWhile (p := isSuperscript) (l := head :: tail)
  have visible : ∀ character ∈ (head :: tail).takeWhile isSuperscript,
      isBlank character = false :=
    fun _ member => isBlank_of_isSuperscript (List.mem_takeWhile_imp member)
  have nonempty := length_run_pos raised tail
  split at further
  next sign =>
    obtain ⟨behind, starts⟩ := List.head?_eq_some_iff.mp sign
    refine ⟨(head :: tail).takeWhile isSuperscript ++ ['√'], behind, ?_, ?_, ?_⟩
    · rw [List.append_assoc, List.singleton_append, ← starts, parts]
    · rw [List.length_append, further, List.length_singleton]
    · exact List.forall_mem_append.mpr ⟨visible, by simp [isBlank]⟩
  next => exact ⟨_, _, parts.symm, by omega, visible⟩

/-- Behind a name stand its lowered digits, then its raised ones, all visible. -/
theorem exists_digitSpans (name : FunctionName) (behind : List Char) :
    (∃ rest, behind = loweredSpan name behind ++ (raisedSpan name behind ++ rest)) ∧
      ∀ character ∈ loweredSpan name behind ++ raisedSpan name behind,
        isBlank character = false := by
  have lowered : loweredSpan name behind <+: behind ∧
      ∀ character ∈ loweredSpan name behind, isBlank character = false := by
    unfold loweredSpan
    split
    · exact ⟨List.takeWhile_prefix _,
        fun _ member => isBlank_of_isSubscript (List.mem_takeWhile_imp member)⟩
    · exact ⟨List.nil_prefix, List.forall_mem_nil _⟩
  obtain ⟨⟨rest, starts⟩, visible⟩ := lowered
  have behindLowered : behind.drop (loweredSpan name behind).length = rest := by
    generalize loweredSpan name behind = lowered at starts
    rw [← starts, List.drop_left]
  refine ⟨⟨rest.dropWhile isSuperscript, ?_⟩, List.forall_mem_append.mpr ⟨visible, ?_⟩⟩
  · rw [raisedSpan, behindLowered, List.takeWhile_append_dropWhile, starts]
  · exact fun _ member => isBlank_of_isSuperscript (List.mem_takeWhile_imp member)

theorem takes_readWord
    {position : Nat}
    {head : Char}
    {tail : List Char}
    {reading : Reading}
    (letter : head.isAlpha = true)
    (read : readWord position (head :: tail) = .ok reading) :
    Takes reading (head :: tail) := by
  have parts := List.takeWhile_append_dropWhile (p := Char.isAlpha) (l := head :: tail)
  have visible : ∀ character ∈ (head :: tail).takeWhile Char.isAlpha,
      isBlank character = false :=
    fun _ member => isBlank_of_isAlpha (List.mem_takeWhile_imp member)
  have nonempty := length_run_pos letter tail
  rw [readWord_eq] at read
  split at read
  next natural =>
    have letters : (head :: tail).takeWhile Char.isAlpha = ['e'] :=
      String.ofList_injective (beq_iff_eq.mp natural)
    cases read
    exact ⟨_, _, parts.symm, by rw [letters]; rfl, visible⟩
  next =>
    split at read
    · cases read
    · next name found =>
      have further := further_readFunction read
      obtain ⟨⟨rest, behind⟩, digits⟩ :=
        exists_digitSpans name ((head :: tail).dropWhile Char.isAlpha)
      refine ⟨_, rest, ?_, ?_, List.forall_mem_append.mpr ⟨visible, digits⟩⟩
      · rw [List.append_assoc, List.append_assoc, ← behind, parts]
      · rw [List.length_append, List.length_append]
        omega

theorem further_readSign
    {position : Nat}
    {sign : Char}
    {reading : Reading}
    (found : readSign position sign = .ok reading) :
    reading.further = 0 := by
  unfold readSign at found
  dsimp only at found
  split at found
  · cases found
    rfl
  · split at found <;> cases found <;> rfl

/-- What is read in front of a text is visible and stands at its front. -/
theorem takes_read
    {first : Bool}
    {position : Nat}
    {head : Char}
    {tail : List Char}
    {reading : Reading}
    (visible : isBlank head = false)
    (found : read first position head tail = .ok reading) :
    Takes reading (head :: tail) := by
  unfold read at found
  dsimp only at found
  split at found
  next numeral =>
    cases found
    obtain ⟨rest, starts⟩ := numeralSpan_isPrefix (head :: tail)
    have nonempty : 0 < (numeralSpan (head :: tail)).length := by
      simpa [List.length_pos_iff] using numeral
    exact ⟨_, rest, starts.symm, by dsimp only; omega, fun _ => isBlank_of_mem_numeralSpan⟩
  next =>
    split at found
    next raised => exact takes_readSuperscript raised found
    next =>
      split at found
      next letter => exact takes_readWord letter found
      next =>
        exact ⟨[head], tail, rfl, by rw [further_readSign found]; rfl, by simpa using visible⟩

end Lexeme

end FormulaGrid
