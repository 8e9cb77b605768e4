import FormulaGrid.Formula.Lexer
import FormulaGrid.Proofs.Outcome

/-!
Contract: the tokens of a formula stand in the order of the text.

Owns:
- one equation for each step of a scan (`scan_nil`, `scan_blank`, `scan_visible`);
- the positions that a scan gives (`scan_positions`);
- the tokens of a text have increasing positions inside it (`tokenize_positions`).
-/

namespace FormulaGrid

open Text

/-! ## The steps of a scan -/

theorem scan_nil (first : Bool) (position : Nat) : scan first position [] = .ok [] := by
  rw [scan.eq_def]

/-- Blanks are skipped. -/
theorem scan_blank
    {head : Char}
    (blank : isBlank head = true)
    (first : Bool)
    (position : Nat)
    (tail : List Char) :
    scan first position (head :: tail) = scan first (position + 1) tail := by
  rw [scan.eq_def]
  exact if_pos blank

/-- A visible character starts a lexeme, behind which the scan goes on. -/
theorem scan_visible
    {head : Char}
    (visible : isBlank head = false)
    (first : Bool)
    (position : Nat)
    (tail : List Char) :
    scan first position (head :: tail) =
      Lexeme.read first position head tail >>= fun reading =>
        (scan false (position + 1 + reading.further) (tail.drop reading.further)).map
          (⟨reading.lexeme, reading.text, position⟩ :: ·) := by
  rw [scan.eq_def]
  dsimp only
  rw [if_neg (by simp [visible])]
  refine congrArg _ (funext fun reading => ?_)
  cases scan false (position + 1 + reading.further) (tail.drop reading.further) <;> rfl

/-- A scan that takes a lexeme takes the rest of the text behind it. -/
theorem scan_cons
    {first : Bool}
    {position : Nat}
    {head : Char}
    {tail : List Char}
    {tokens : List Token}
    (visible : isBlank head = false)
    (scanned : scan first position (head :: tail) = .ok tokens) :
    ∃ (reading : Reading) (others : List Token),
      Lexeme.read first position head tail = .ok reading ∧
        scan false (position + 1 + reading.further) (tail.drop reading.further) = .ok others ∧
        tokens = ⟨reading.lexeme, reading.text, position⟩ :: others := by
  rw [scan_visible visible] at scanned
  obtain ⟨reading, read, behind⟩ := exists_of_bind_eq_ok scanned
  obtain ⟨others, found, rfl⟩ := exists_of_map_eq_ok behind
  exact ⟨reading, others, read, found, rfl⟩

/-- A lexeme that is read stands in front of the tokens of the text behind it. -/
theorem scan_of_read
    {first : Bool}
    {position : Nat}
    {head : Char}
    {tail : List Char}
    {reading : Reading}
    {others : List Token}
    (visible : isBlank head = false)
    (read : Lexeme.read first position head tail = .ok reading)
    (behind : scan false (position + 1 + reading.further) (tail.drop reading.further) =
      .ok others) :
    scan first position (head :: tail) =
      .ok (⟨reading.lexeme, reading.text, position⟩ :: others) := by
  rw [scan_visible visible, bind_of_ok read, behind]
  rfl

/-! ## Positions -/

/-- The tokens of a text stand one behind the other, within the text. -/
theorem scan_positions
    (first : Bool)
    (position : Nat)
    (characters : List Char)
    {tokens : List Token}
    (scanned : scan first position characters = .ok tokens) :
    tokens.Pairwise (fun left right => left.position < right.position) ∧
      ∀ token ∈ tokens,
        position ≤ token.position ∧ token.position < position + characters.length := by
  induction length : characters.length using Nat.strongRecOn
    generalizing first position characters tokens with
  | ind length inductionHypothesis =>
      subst length
      cases characters with
      | nil =>
          rw [scan_nil] at scanned
          cases scanned
          exact ⟨.nil, fun token member => absurd member List.not_mem_nil⟩
      | cons head tail =>
          cases blank : isBlank head with
          | true =>
              rw [scan_blank blank] at scanned
              obtain ⟨ordered, within⟩ := inductionHypothesis tail.length
                (Nat.lt_succ_self _) first (position + 1) tail scanned rfl
              refine ⟨ordered, fun token member => ?_⟩
              have bounds := within token member
              rw [List.length_cons]
              omega
          | false =>
              obtain ⟨reading, others, read, behind, rfl⟩ := scan_cons blank scanned
              have shorter : (tail.drop reading.further).length < (head :: tail).length := by
                rw [List.length_drop, List.length_cons]
                omega
              obtain ⟨ordered, within⟩ :=
                inductionHypothesis _ shorter false _ _ behind rfl
              refine ⟨List.pairwise_cons.mpr ⟨fun token member => ?_, ordered⟩, ?_⟩
              · have bounds := within token member
                show position < token.position
                omega
              · intro token member
                rcases List.mem_cons.mp member with rfl | later
                · exact ⟨Nat.le_refl _, Nat.lt_add_of_pos_right (Nat.succ_pos _)⟩
                · have bounds := within token later
                  rw [List.length_drop] at bounds
                  rw [List.length_cons]
                  omega

/-- The tokens of a text are those of its characters, and end where it ends. -/
theorem scan_of_tokenize
    {text : String}
    {line : TokenLine}
    (tokenized : tokenize text = .ok line) :
    scan true 0 text.toList = .ok line.tokens ∧ line.finish = text.length := by
  unfold tokenize at tokenized
  split at tokenized
  · cases tokenized
  · obtain ⟨tokens, scanned, rfl⟩ := exists_of_map_eq_ok tokenized
    exact ⟨scanned, rfl⟩

/-- The tokens of a text stand one behind the other, in front of its end. -/
theorem tokenize_positions
    {text : String}
    {line : TokenLine}
    (tokenized : tokenize text = .ok line) :
    line.tokens.Pairwise (fun left right => left.position < right.position) ∧
      ∀ token ∈ line.tokens, token.position < line.finish := by
  obtain ⟨scanned, finish⟩ := scan_of_tokenize tokenized
  obtain ⟨ordered, within⟩ := scan_positions true 0 text.toList scanned
  refine ⟨ordered, fun token member => ?_⟩
  have bounds := within token member
  rw [Nat.zero_add, String.length_toList, ← finish] at bounds
  exact bounds.2

end FormulaGrid
