import FormulaGrid.Text.Alignment
import FormulaGrid.Text.Blank

/-!
Contract: words and lines are read back from a text that parts them.

Owns:
- a blank parts the words of a text (`words_append_blank`), and a line break its lines
  (`lines_append_break`); what is said of longer texts follows from these two;
- cells between blanks, padded or not, are the words of their line (`words_intercalate`),
  and lines between breaks are those of the text (`lines_intercalate`);
- words have no blanks (`of_mem_words`), and a text that ends with a visible character is
  not trimmed (`trimRight_concat`).
-/

namespace FormulaGrid.Text

/-- No character is blank. -/
def HasNoBlank (characters : List Char) : Prop :=
  ∀ character ∈ characters, isBlank character = false

theorem hasNoBlank_iff {characters : List Char} :
    HasNoBlank characters ↔ characters.any isBlank = false := by
  unfold HasNoBlank
  simp [List.any_eq_false]

/-- No character ends a line. -/
def HasNoBreak (characters : List Char) : Prop :=
  ∀ character ∈ characters, isLineBreak character = false

theorem isLineBreak_eq_false
    {character : Char}
    (visible : isBlank character = false) :
    isLineBreak character = false := by
  cases breaks : isLineBreak character with
  | false => rfl
  | true =>
      rw [isBlank_of_isLineBreak breaks] at visible
      cases visible

theorem consFirst_ne_nil (character : Char) (others : List (List Char)) :
    consFirst character others ≠ [] := by
  cases others <;> exact List.cons_ne_nil _ _

theorem consFirst_append
    (character : Char)
    {front : List (List Char)}
    (nonempty : front ≠ [])
    (rest : List (List Char)) :
    consFirst character (front ++ rest) = consFirst character front ++ rest := by
  obtain ⟨first, later, rfl⟩ := List.exists_cons_of_ne_nil nonempty
  rfl

/-! ## Words -/

theorem words_ne_nil
    {text : List Char}
    (inside : atBoundary text = false) :
    words text ≠ [] := by
  cases text with
  | nil => cases inside
  | cons character rest =>
      have visible : isBlank character = false := inside
      simp only [words, visible, Bool.false_eq_true, if_false]
      split
      next => exact List.cons_ne_nil _ _
      next => exact consFirst_ne_nil character (words rest)

/-- A blank parts the words of a text. -/
theorem words_append_blank
    {blank : Char}
    (parts : isBlank blank = true)
    (front rest : List Char) :
    words (front ++ blank :: rest) = words front ++ words rest := by
  induction front with
  | nil => simp [words, parts]
  | cons character others inductionHypothesis =>
      -- The first word ends at the same character, with or without the rest.
      have boundary : atBoundary (others ++ blank :: rest) = atBoundary others := by
        cases others with
        | nil => exact parts
        | cons => rfl
      simp only [List.cons_append, words, inductionHypothesis, boundary]
      split
      next => rfl
      next =>
        split
        next => rfl
        next inside =>
          apply consFirst_append
          exact words_ne_nil (by simpa using inside)

/-- Blanks in front of a text belong to no word. -/
theorem words_blanks_append
    {blanks : List Char}
    (areBlank : ∀ blank ∈ blanks, isBlank blank = true)
    (rest : List Char) :
    words (blanks ++ rest) = words rest := by
  induction blanks with
  | nil => rfl
  | cons blank others inductionHypothesis =>
      obtain ⟨parts, behind⟩ := List.forall_mem_cons.mp areBlank
      rw [List.cons_append, ← inductionHypothesis behind]
      exact words_append_blank parts [] (others ++ rest)

/-- A text without blanks is one word. -/
theorem words_of_hasNoBlank
    {word : List Char}
    (filled : word ≠ [])
    (visible : HasNoBlank word) :
    words word = [word] := by
  induction word with
  | nil => exact absurd rfl filled
  | cons character others inductionHypothesis =>
      obtain ⟨first, behind⟩ := List.forall_mem_cons.mp visible
      cases others with
      | nil => simp [words, first, atBoundary]
      | cons next later =>
          have inside : atBoundary (next :: later) = false := behind next List.mem_cons_self
          rw [words, inductionHypothesis (List.cons_ne_nil _ _) behind]
          simp [first, inside, consFirst]

theorem mem_consFirst
    {character : Char}
    {word : List Char}
    {others : List (List Char)}
    (member : word ∈ consFirst character others) :
    (∃ tail, word = character :: tail ∧ (tail = [] ∨ tail ∈ others)) ∨ word ∈ others := by
  cases others with
  | nil => exact .inl ⟨[], List.mem_singleton.mp member, .inl rfl⟩
  | cons first later =>
      rcases List.mem_cons.mp member with same | behind
      · exact .inl ⟨first, same, .inr List.mem_cons_self⟩
      · exact .inr (List.mem_cons_of_mem _ behind)

/-- The words of a text are not empty and have no blanks. -/
theorem of_mem_words
    {word text : List Char}
    (member : word ∈ words text) :
    word ≠ [] ∧ HasNoBlank word := by
  induction text generalizing word with
  | nil => cases member
  | cons character rest inductionHypothesis =>
      unfold words at member
      split at member
      next => exact inductionHypothesis member
      next visible =>
        have first : isBlank character = false := by simpa using visible
        have begun : ∀ tail : List Char, HasNoBlank tail →
            character :: tail ≠ [] ∧ HasNoBlank (character :: tail) :=
          fun tail behind => ⟨List.cons_ne_nil _ _, List.forall_mem_cons.mpr ⟨first, behind⟩⟩
        split at member
        next =>
          rcases List.mem_cons.mp member with rfl | behind
          · exact begun [] (List.forall_mem_nil _)
          · exact inductionHypothesis behind
        next =>
          rcases mem_consFirst member with ⟨tail, rfl, rfl | inRest⟩ | behind
          · exact begun [] (List.forall_mem_nil _)
          · exact begun tail (inductionHypothesis inRest).2
          · exact inductionHypothesis behind

/-! ## Lines -/

theorem lines_ne_nil (text : List Char) : lines text ≠ [] := by
  cases text with
  | nil => exact List.cons_ne_nil _ _
  | cons character rest =>
      unfold lines
      split
      next => exact List.cons_ne_nil _ _
      next => exact consFirst_ne_nil character (lines rest)

/-- A line break parts the lines of a text. -/
theorem lines_append_break
    {ending : Char}
    (breaks : isLineBreak ending = true)
    (front rest : List Char) :
    lines (front ++ ending :: rest) = lines front ++ lines rest := by
  induction front with
  | nil => simp [lines, breaks]
  | cons character others inductionHypothesis =>
      simp only [List.cons_append, lines, inductionHypothesis]
      split
      next => rfl
      next =>
        apply consFirst_append
        exact lines_ne_nil others

/-- A text without line breaks is one line. -/
theorem lines_of_hasNoBreak
    {line : List Char}
    (whole : HasNoBreak line) :
    lines line = [line] := by
  induction line with
  | nil => rfl
  | cons character others inductionHypothesis =>
      obtain ⟨first, behind⟩ := List.forall_mem_cons.mp whole
      simp [lines, first, inductionHypothesis behind, consFirst]

/-! ## Texts put together -/

/-- What holds of the separator and of all parts holds of the whole. -/
theorem forall_mem_intercalate
    {Holds : Char → Prop}
    {separator : String}
    {items : List String}
    (between : ∀ character ∈ separator.toList, Holds character)
    (within : ∀ item ∈ items, ∀ character ∈ item.toList, Holds character) :
    ∀ character ∈ (separator.intercalate items).toList, Holds character := by
  induction items with
  | nil => simp
  | cons item others inductionHypothesis =>
      obtain ⟨first, behind⟩ := List.forall_mem_cons.mp within
      cases others with
      | nil => simpa using first
      | cons next later =>
          have inRest := inductionHypothesis behind
          intro character member
          rw [String.intercalate_cons_cons] at member
          simp only [String.toList_append, List.mem_append] at member
          rcases member with (inFirst | inBetween) | inOthers
          · exact first character inFirst
          · exact between character inBetween
          · exact inRest character inOthers

/-- Lines with breaks between them are the lines of the text. -/
theorem lines_intercalate
    {items : List String}
    (nonempty : items ≠ [])
    (whole : ∀ line ∈ items, HasNoBreak line.toList) :
    lines ("\n".intercalate items).toList = items.map String.toList := by
  induction items with
  | nil => exact absurd rfl nonempty
  | cons line others inductionHypothesis =>
      obtain ⟨first, behind⟩ := List.forall_mem_cons.mp whole
      cases others with
      | nil => simpa using lines_of_hasNoBreak first
      | cons next later =>
          have newline : "\n".toList = ['\n'] := rfl
          rw [String.intercalate_cons_cons, String.toList_append, String.toList_append, newline,
            List.append_assoc, List.singleton_append, lines_append_break rfl,
            lines_of_hasNoBreak first, inductionHypothesis (List.cons_ne_nil _ _) behind]
          rfl

/-- A padded cell is one word. -/
theorem words_padLeft
    {cell : String}
    (column : Nat)
    (filled : cell ≠ "")
    (visible : HasNoBlank cell.toList) :
    words (padLeft column cell).toList = [cell.toList] := by
  have spaces : ∀ blank ∈ List.replicate (column - cell.length) ' ', isBlank blank = true := by
    intro blank member
    rw [List.eq_of_mem_replicate member]
    rfl
  have nonempty : cell.toList ≠ [] := by simpa using filled
  unfold padLeft
  rw [String.toList_ofList, words_blanks_append spaces, words_of_hasNoBlank nonempty visible]

/-- Padded cells with blanks between them are the words of their line. -/
theorem words_intercalate
    {separator : String}
    (apart : separator.toList ≠ [])
    (areBlank : ∀ blank ∈ separator.toList, isBlank blank = true)
    (column : Nat)
    {row : List String}
    (filled : "" ∉ row)
    (visible : ∀ cell ∈ row, HasNoBlank cell.toList) :
    words (separator.intercalate (row.map (padLeft column))).toList = row.map String.toList := by
  obtain ⟨blank, further, same⟩ := List.exists_cons_of_ne_nil apart
  rw [same] at areBlank
  obtain ⟨parts, furtherBlank⟩ := List.forall_mem_cons.mp areBlank
  induction row with
  | nil => simp [words]
  | cons cell others inductionHypothesis =>
      obtain ⟨first, behind⟩ := List.forall_mem_cons.mp visible
      have word := words_padLeft column (List.ne_of_not_mem_cons filled).symm first
      have rest := inductionHypothesis (List.not_mem_of_not_mem_cons filled) behind
      cases others with
      | nil => simpa using word
      | cons next later =>
          rw [List.map_cons] at rest
          rw [List.map_cons, List.map_cons, String.intercalate_cons_cons, String.toList_append,
            String.toList_append, same, List.append_assoc, List.cons_append,
            words_append_blank parts, words_blanks_append furtherBlank, word, rest]
          rfl

theorem padLeft_zero (cell : String) : padLeft 0 cell = cell := by
  simp [padLeft]

/-- Nothing is trimmed behind a visible character. -/
theorem trimRight_concat
    (front : List Char)
    {last : Char}
    (visible : isBlank last = false) :
    trimRight (front ++ [last]) = front ++ [last] := by
  simp [trimRight, visible]

end FormulaGrid.Text
