import FormulaGrid.Number.Numeral

/-!
Contract: digits are read as the integer that they write.

Owns:
- what the tolerant reading makes of a numeral that has nothing to tolerate, in every base
  (`readInteger_of_digits`).

Does not own: numerals with blanks, underscores or digits of other scripts.
-/

namespace FormulaGrid

open Text

namespace Numeral

/-- Plain characters, of which none is a blank, are taken as they are. -/
theorem unpadded_of_plain
    {characters : List Char}
    (isPlain : ∀ character ∈ characters,
      plain character = character ∧ isPadding character = false) :
    unpadded characters = characters := by
  have kept (run : List Char)
      (none : ∀ character ∈ run, isPadding character = false) :
      run.dropWhile isPadding = run := by
    cases run with
    | nil => rfl
    | cons head tail =>
        exact List.dropWhile_cons_of_neg (by simp [none head List.mem_cons_self])
  have same : characters.map plain = characters := by
    have pointwise : characters.map plain = characters.map id :=
      List.map_congr_left fun character member => (isPlain character member).1
    rw [pointwise, List.map_id]
  unfold unpadded
  rw [same, kept characters fun character member => (isPlain character member).2,
    kept characters.reverse fun character member =>
      (isPlain character (List.mem_reverse.mp member)).2,
    List.reverse_reverse]

section

variable {base : Nat} {character : Char} {digit : Nat}
  (reads : digitBelow base character = some digit)

include reads

theorem isDigit_of_digitBelow : character.isDigit = true := by
  unfold digitBelow at reads
  split at reads
  next bounds => exact (Bool.and_eq_true_iff.mp bounds).1
  next => cases reads

/-- A digit is plain and no blank, and it is none of the other marks of numerals. -/
theorem marks_of_digitBelow :
    plain character = character ∧ isPadding character = false ∧
      character ≠ '-' ∧ character ≠ '+' ∧ character ≠ '_' ∧ character ≠ 'b' ∧
      character ≠ 'B' := by
  have isDigit := isDigit_of_digitBelow reads
  have bounds : 48 ≤ character.toNat ∧ character.toNat ≤ 57 := by
    simpa [Char.isDigit, UInt32.le_iff_toNat_le] using isDigit
  have other (mark : Char) (notDigit : mark.isDigit = false) : character ≠ mark := by
    rintro rfl
    rw [isDigit] at notDigit
    cases notDigit
  refine ⟨if_pos (by omega), ?_, other _ rfl, other _ rfl, other _ rfl, other _ rfl, other _ rfl⟩
  have notSpace : (character == ' ') = false := beq_eq_false_iff_ne.mpr (other _ rfl)
  rw [isPadding, notSpace, Bool.false_or, Bool.and_eq_false_iff, decide_eq_false_iff_not,
    decide_eq_false_iff_not]
  omega

end

section

variable {base : Nat} {value : Char → Nat} {run : List Char}
  (reads : ∀ character ∈ run, digitBelow base character = some (value character))

include reads

theorem dropBaseMark_of_digits : dropBaseMark base run = run := by
  match run with
  | [] => rfl
  | [character] =>
      unfold dropBaseMark
      split
      next same => cases (List.cons.inj same).2
      next => rfl
  | first :: second :: others =>
      have marks := marks_of_digitBelow (reads second (by simp))
      unfold dropBaseMark
      split
      next same =>
        obtain ⟨rfl, rfl⟩ := List.cons.inj (List.cons.inj same).2
        rw [(List.cons.inj same).1]
        simp [marks]
      next => rfl

/-- A run of digits has their values. -/
theorem digitRun_of_digits (nonempty : run ≠ []) : digitRun base run = some (run.map value) := by
  induction run with
  | nil => exact absurd rfl nonempty
  | cons first others inductionHypothesis =>
      obtain ⟨firstReads, othersRead⟩ := List.forall_mem_cons.mp reads
      cases others with
      | nil => rw [digitRun, firstReads]; rfl
      | cons second others =>
          have notUnderscore := (marks_of_digitBelow (reads second (by simp))).2.2.2.2.1
          rw [digitRun, firstReads, inductionHypothesis othersRead (List.cons_ne_nil _ _)]
          · rfl
          · simp
          · intro rest same
            exact notUnderscore (List.cons.inj same).1

/-- Digits are read as the number that they write, and behind a minus sign as its negative. -/
theorem readInteger_of_digits
    (nonempty : run ≠ [])
    (short : base = 10 → run.length ≤ longest)
    (negative : Bool) :
    readInteger base (String.ofList ((if negative then ['-'] else []) ++ run)) =
      some (if negative then -(valueOfDigits base (run.map value) : Int)
        else valueOfDigits base (run.map value)) := by
  have isPlain : ∀ character ∈ (if negative then ['-'] else []) ++ run,
      plain character = character ∧ isPadding character = false := by
    refine List.forall_mem_append.mpr ⟨?_, fun character member => ?_⟩
    · cases negative with
      | false => exact List.forall_mem_nil _
      | true => exact List.forall_mem_singleton.mpr ⟨rfl, rfl⟩
    · have marks := marks_of_digitBelow (reads character member)
      exact ⟨marks.1, marks.2.1⟩
  have signed : splitSign ((if negative then ['-'] else []) ++ run) = (negative, run) := by
    cases negative with
    | true => rfl
    | false =>
        cases run with
        | nil => rfl
        | cons head tail =>
            have marks := marks_of_digitBelow (reads head List.mem_cons_self)
            unfold splitSign
            split
            next same => exact absurd (List.cons.inj same).1 marks.2.2.1
            next same => exact absurd (List.cons.inj same).1 marks.2.2.2.1
            next => rfl
  have fits : (base == 10 && decide (longest < (run.map value).length)) = false := by
    rw [Bool.and_eq_false_iff, decide_eq_false_iff_not, beq_eq_false_iff_ne, List.length_map]
    by_cases decimal : base = 10
    · exact .inr (Nat.not_lt.mpr (short decimal))
    · exact .inl decimal
  unfold readInteger
  rw [String.toList_ofList, unpadded_of_plain isPlain, signed]
  dsimp only
  rw [dropBaseMark_of_digits reads, digitRun_of_digits reads nonempty]
  dsimp only [bind, Option.bind]
  rw [fits, if_neg Bool.false_ne_true]
  cases negative <;> rfl

end

end Numeral

end FormulaGrid
