import FormulaGrid.Proofs.Number.Digits
import FormulaGrid.Proofs.Number.Integer

/-!
Contract: which texts the tolerant reading takes as numerals of base two.

Owns:
- the runs of digits with single underscores between them (`DigitRun`, `digitRun_iff`);
- the numerals of base two (`IsBinaryNumeral`), which are padding, a sign, a mark of the base, a
  run of digits and padding, all but the run optional;
- the reading takes these as the integers that they write, and takes nothing else
  (`readInteger_two_iff`).

The grammar is about plain characters. A blank and a digit of another script have a plain form, so
they are taken as padding and as digits.
-/

namespace FormulaGrid.Numeral

open Text

/-! ## Runs of digits -/

/-- The characters are digits of the base, with these values, and between two digits there may be
one underscore. -/
inductive DigitRun (base : Nat) : List Char → List Nat → Prop where
  | last {character : Char} {digit : Nat} :
      digitBelow base character = some digit → DigitRun base [character] [digit]
  | next {character : Char} {digit : Nat} {others : List Char} {digits : List Nat} :
      digitBelow base character = some digit →
      DigitRun base others digits →
        DigitRun base (character :: others) (digit :: digits)
  | spaced {character : Char} {digit : Nat} {others : List Char} {digits : List Nat} :
      digitBelow base character = some digit →
      DigitRun base others digits →
        DigitRun base (character :: '_' :: others) (digit :: digits)

namespace DigitRun

variable {base : Nat} {run : List Char} {digits : List Nat}

/-- A run begins with a digit. -/
theorem exists_first (isRun : DigitRun base run digits) :
    ∃ (first : Char) (behind : List Char) (digit : Nat),
      run = first :: behind ∧ digitBelow base first = some digit := by
  cases isRun with
  | last reads | next reads _ | spaced reads _ => exact ⟨_, _, _, rfl, reads⟩

/-- A run ends with a digit. -/
theorem exists_last (isRun : DigitRun base run digits) :
    ∃ (before : List Char) (last : Char) (digit : Nat),
      run = before ++ [last] ∧ digitBelow base last = some digit := by
  induction isRun with
  | last reads => exact ⟨[], _, _, rfl, reads⟩
  | @next character _ _ _ _ _ inductionHypothesis =>
      obtain ⟨before, last, digit, rfl, reads⟩ := inductionHypothesis
      exact ⟨character :: before, last, digit, rfl, reads⟩
  | @spaced character _ _ _ _ _ inductionHypothesis =>
      obtain ⟨before, last, digit, rfl, reads⟩ := inductionHypothesis
      exact ⟨character :: '_' :: before, last, digit, rfl, reads⟩

theorem length_le (isRun : DigitRun base run digits) : digits.length ≤ run.length := by
  induction isRun with
  | last => exact Nat.le_refl _
  | next _ _ inductionHypothesis => simpa using inductionHypothesis
  | spaced _ _ inductionHypothesis =>
      simp only [List.length_cons]
      omega

theorem digit_lt (isRun : DigitRun base run digits) : ∀ digit ∈ digits, digit < base := by
  have below {character : Char} {digit : Nat} (reads : digitBelow base character = some digit) :
      digit < base := by
    unfold digitBelow at reads
    split at reads
    next bounds =>
      rw [← Option.some.inj reads]
      exact of_decide_eq_true (Bool.and_eq_true_iff.mp bounds).2
    next => cases reads
  induction isRun with
  | last reads => exact List.forall_mem_singleton.mpr (below reads)
  | next reads _ inductionHypothesis | spaced reads _ inductionHypothesis =>
      exact List.forall_mem_cons.mpr ⟨below reads, inductionHypothesis⟩

/-- A run writes less than the power of the base that its length gives. -/
theorem value_lt (isRun : DigitRun base run digits) (positive : 0 < base) :
    valueOfDigits base digits < base ^ run.length :=
  Nat.lt_of_lt_of_le (valueOfDigits_lt digits isRun.digit_lt)
    (Nat.pow_le_pow_right positive isRun.length_le)

end DigitRun

/-- The reading of a run takes these runs and no others. -/
theorem digitRun_iff {base : Nat} {run : List Char} {digits : List Nat} :
    digitRun base run = some digits ↔ DigitRun base run digits := by
  constructor
  · intro read
    fun_induction digitRun base run generalizing digits with
    | case1 => cases read
    | case2 last =>
        obtain ⟨digit, reads, rfl⟩ := Option.map_eq_some_iff.mp read
        exact .last reads
    | case3 first rest inductionHypothesis =>
        obtain ⟨digit, reads, behind⟩ := Option.bind_eq_some_iff.mp read
        obtain ⟨others, readsOthers, same⟩ := Option.bind_eq_some_iff.mp behind
        cases same
        exact .spaced reads (inductionHypothesis readsOthers)
    | case4 first rest _ _ inductionHypothesis =>
        obtain ⟨digit, reads, behind⟩ := Option.bind_eq_some_iff.mp read
        obtain ⟨others, readsOthers, same⟩ := Option.bind_eq_some_iff.mp behind
        cases same
        exact .next reads (inductionHypothesis readsOthers)
  · intro isRun
    induction isRun with
    | last reads => rw [digitRun, reads]; rfl
    | next reads others inductionHypothesis =>
        -- The run behind begins with a digit, so the reader does not take it for a space.
        obtain ⟨first, behind, digit, rfl, readsFirst⟩ := others.exists_first
        have notUnderscore := (marks_of_digitBelow readsFirst).2.2.2.2.1
        rw [digitRun, reads, inductionHypothesis]
        · rfl
        · simp
        · intro rest same
          exact notUnderscore (List.cons.inj same).1
    | spaced reads _ inductionHypothesis => rw [digitRun, reads, inductionHypothesis]; rfl

/-! ## What stands around a run -/

/-- The sign, which may be left out, and whether it makes a number negative. -/
inductive IsSignMark : Bool → List Char → Prop where
  | none : IsSignMark false []
  | plus : IsSignMark false ['+']
  | minus : IsSignMark true ['-']

/-- The marks of base two. The mark may be left out, and an underscore may stand behind it. -/
def binaryMarks : List (List Char) :=
  [[], ['0', 'b'], ['0', 'B'], ['0', 'b', '_'], ['0', 'B', '_']]

/-- All characters are padding. -/
def ArePadding (characters : List Char) : Prop :=
  ∀ character ∈ characters, isPadding character = true

theorem splitSign_spec (characters : List Char) :
    ∃ sign : List Char,
      IsSignMark (splitSign characters).1 sign ∧ characters = sign ++ (splitSign characters).2 := by
  unfold splitSign
  split
  · exact ⟨['-'], .minus, rfl⟩
  · exact ⟨['+'], .plus, rfl⟩
  · exact ⟨[], .none, rfl⟩

theorem dropBaseMark_spec (characters : List Char) :
    ∃ mark ∈ binaryMarks, characters = mark ++ dropBaseMark 2 characters := by
  unfold dropBaseMark
  split
  next letter rest =>
    split
    next isMark =>
      have isLetter : letter = 'b' ∨ letter = 'B' := by simpa using isMark
      rcases isLetter with rfl | rfl <;> split <;> simp [binaryMarks]
    next => exact ⟨[], by simp [binaryMarks], rfl⟩
  next => exact ⟨[], by simp [binaryMarks], rfl⟩

/-- What is left without padding has padding around it in the text. -/
theorem unpadded_spec (characters : List Char) :
    ∃ front back : List Char,
      ArePadding front ∧ ArePadding back ∧
        characters.map plain = front ++ unpadded characters ++ back := by
  have all (run : List Char) : ArePadding (run.takeWhile isPadding) :=
    fun _ member => List.all_eq_true.mp List.all_takeWhile _ member
  refine ⟨(characters.map plain).takeWhile isPadding,
    (((characters.map plain).dropWhile isPadding).reverse.takeWhile isPadding).reverse,
    all _, fun _ member => all _ _ (List.mem_reverse.mp member), ?_⟩
  unfold unpadded
  rw [List.append_assoc, ← List.reverse_append, List.takeWhile_append_dropWhile,
    List.reverse_reverse, List.takeWhile_append_dropWhile]

/-- Padding is dropped as far as a first and a last character that are none. -/
theorem unpadded_of_padding
    {characters front core back : List Char}
    (same : characters.map plain = front ++ core ++ back)
    (frontPadding : ArePadding front)
    (backPadding : ArePadding back)
    {first last : Char}
    {before behind : List Char}
    (begins : core = first :: behind)
    (ends : core = before ++ [last])
    (firstNone : isPadding first = false)
    (lastNone : isPadding last = false) :
    unpadded characters = core := by
  have reversed : ArePadding back.reverse :=
    fun _ member => backPadding _ (List.mem_reverse.mp member)
  have ahead : (front ++ core ++ back).dropWhile isPadding = core ++ back := by
    rw [List.append_assoc, List.dropWhile_append_of_pos frontPadding, begins, List.cons_append,
      List.dropWhile_cons_of_neg (by simp [firstNone])]
  unfold unpadded
  rw [same, ahead, List.reverse_append, List.dropWhile_append_of_pos reversed, ends,
    List.reverse_append, List.reverse_singleton, List.singleton_append,
    List.dropWhile_cons_of_neg (by simp [lastNone]), List.reverse_cons, List.reverse_reverse]

/-! ## Numerals of base two -/

/-- The plain characters are a sign, a mark and a run of digits of base two, with padding around
them. -/
def IsBinaryNumeral (characters : List Char) (negative : Bool) (digits : List Nat) : Prop :=
  ∃ front sign mark run back : List Char,
    characters.map plain = front ++ (sign ++ (mark ++ run)) ++ back ∧
      ArePadding front ∧ ArePadding back ∧
      IsSignMark negative sign ∧ mark ∈ binaryMarks ∧ DigitRun 2 run digits

/-- A numeral of base two writes less than the power of two that its length gives. -/
theorem IsBinaryNumeral.value_lt
    {characters : List Char}
    {negative : Bool}
    {digits : List Nat}
    (isNumeral : IsBinaryNumeral characters negative digits) :
    valueOfDigits 2 digits < 2 ^ characters.length := by
  obtain ⟨front, sign, mark, run, back, same, -, -, -, -, isRun⟩ := isNumeral
  have length := congrArg List.length same
  simp only [List.length_map, List.length_append] at length
  exact Nat.lt_of_lt_of_le (isRun.value_lt Nat.two_pos)
    (Nat.pow_le_pow_right Nat.two_pos (by omega))

/-- What is behind the sign begins with a digit, be it that of the mark. -/
theorem exists_first_of_mark
    {mark run : List Char}
    {digits : List Nat}
    (isMark : mark ∈ binaryMarks)
    (isRun : DigitRun 2 run digits) :
    ∃ (first : Char) (behind : List Char) (digit : Nat),
      mark ++ run = first :: behind ∧ digitBelow 2 first = some digit := by
  have zero : digitBelow 2 '0' = some 0 := rfl
  simp only [binaryMarks, List.mem_cons, List.not_mem_nil, or_false] at isMark
  rcases isMark with rfl | rfl | rfl | rfl | rfl
  · exact isRun.exists_first
  all_goals exact ⟨'0', _, 0, rfl, zero⟩

/-- A run has no mark of its own: behind its first digit stands none of the letters. -/
theorem dropBaseMark_of_run
    {run : List Char}
    {digits : List Nat}
    (isRun : DigitRun 2 run digits) :
    dropBaseMark 2 run = run := by
  have kept {first : Char} {behind : List Char}
      (noLetter : ∀ second rest, behind = second :: rest → second ≠ 'b' ∧ second ≠ 'B') :
      dropBaseMark 2 (first :: behind) = first :: behind := by
    unfold dropBaseMark
    split
    next letter rest same =>
      obtain ⟨rfl, rfl⟩ := List.cons.inj same
      simp [noLetter letter rest rfl]
    next => rfl
  cases isRun with
  | last => exact kept nofun
  | next _ others =>
      obtain ⟨second, rest, digit, rfl, reads⟩ := others.exists_first
      have marks := (marks_of_digitBelow reads).2.2.2.2.2
      exact kept fun _ _ same => (List.cons.inj same).1 ▸ marks
  | spaced => exact kept fun _ _ same => (List.cons.inj same).1 ▸ by decide

theorem dropBaseMark_of_mark
    {mark run : List Char}
    {digits : List Nat}
    (isMark : mark ∈ binaryMarks)
    (isRun : DigitRun 2 run digits) :
    dropBaseMark 2 (mark ++ run) = run := by
  obtain ⟨first, behind, digit, begins, reads⟩ := isRun.exists_first
  have notUnderscore := (marks_of_digitBelow reads).2.2.2.2.1
  simp only [binaryMarks, List.mem_cons, List.not_mem_nil, or_false] at isMark
  -- Behind a mark without an underscore the reader would drop one, but the run begins with none.
  rcases isMark with rfl | rfl | rfl | rfl | rfl
  · exact dropBaseMark_of_run isRun
  · simp [dropBaseMark, begins, notUnderscore]
  · simp [dropBaseMark, begins, notUnderscore]
  · rfl
  · rfl

theorem splitSign_of_isSignMark
    {negative : Bool}
    {sign body : List Char}
    (isSign : IsSignMark negative sign)
    {first : Char}
    {behind : List Char}
    {digit : Nat}
    (begins : body = first :: behind)
    (reads : digitBelow 2 first = some digit) :
    splitSign (sign ++ body) = (negative, body) := by
  cases isSign with
  | plus | minus => rfl
  | none =>
      have marks := marks_of_digitBelow reads
      rw [begins, List.nil_append]
      unfold splitSign
      split
      next same => exact absurd (List.cons.inj same).1 marks.2.2.1
      next same => exact absurd (List.cons.inj same).1 marks.2.2.2.1
      next => rfl

/-- A numeral of base two has no padding inside that could be dropped, since it begins with its sign
or a digit and ends with a digit. -/
theorem unpadded_of_numeral
    {negative : Bool}
    {characters front sign mark run back : List Char}
    {digits : List Nat}
    (same : characters.map plain = front ++ (sign ++ (mark ++ run)) ++ back)
    (frontPadding : ArePadding front)
    (backPadding : ArePadding back)
    (isSign : IsSignMark negative sign)
    (isMark : mark ∈ binaryMarks)
    (isRun : DigitRun 2 run digits) :
    unpadded characters = sign ++ (mark ++ run) := by
  obtain ⟨first, behind, digit, begins, reads⟩ := exists_first_of_mark isMark isRun
  obtain ⟨before, last, lastDigit, ends, readsLast⟩ := isRun.exists_last
  have core : sign ++ (mark ++ run) = sign ++ mark ++ before ++ [last] := by
    rw [ends]
    simp only [List.append_assoc]
  have lastNone := (marks_of_digitBelow readsLast).2.1
  cases isSign with
  | none =>
      exact unpadded_of_padding same frontPadding backPadding begins core
        (marks_of_digitBelow reads).2.1 lastNone
  | plus => exact unpadded_of_padding same frontPadding backPadding rfl core rfl lastNone
  | minus => exact unpadded_of_padding same frontPadding backPadding rfl core rfl lastNone

/-- The tolerant reading takes the numerals of base two as the integers that they write, and takes
no other text. -/
theorem readInteger_two_iff {text : String} {value : Int} :
    readInteger 2 text = some value ↔
      ∃ (negative : Bool) (digits : List Nat),
        IsBinaryNumeral text.toList negative digits ∧
          value = if negative then -(valueOfDigits 2 digits : Int) else valueOfDigits 2 digits := by
  constructor
  · intro read
    obtain ⟨front, back, frontPadding, backPadding, same⟩ := unpadded_spec text.toList
    obtain ⟨sign, isSign, signed⟩ := splitSign_spec (unpadded text.toList)
    obtain ⟨mark, isMark, marked⟩ := dropBaseMark_spec (splitSign (unpadded text.toList)).2
    obtain ⟨digits, reads, worth⟩ := Option.bind_eq_some_iff.mp read
    have isRun : DigitRun 2 (dropBaseMark 2 (splitSign (unpadded text.toList)).2) digits :=
      digitRun_iff.mp reads
    refine ⟨(splitSign (unpadded text.toList)).1, digits,
      ⟨front, sign, mark, _, back, ?_, frontPadding, backPadding, isSign, isMark, isRun⟩,
      (Option.some.inj worth).symm⟩
    rw [← marked, ← signed, same]
  · rintro ⟨negative, digits,
      ⟨front, sign, mark, run, back, same, frontPadding, backPadding, isSign, isMark, isRun⟩, rfl⟩
    obtain ⟨first, behind, digit, begins, reads⟩ := exists_first_of_mark isMark isRun
    unfold readInteger
    rw [unpadded_of_numeral same frontPadding backPadding isSign isMark isRun,
      splitSign_of_isSignMark isSign begins reads]
    dsimp only
    rw [dropBaseMark_of_mark isMark isRun, digitRun_iff.mpr isRun]
    rfl

end FormulaGrid.Numeral
