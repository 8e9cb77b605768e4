import FormulaGrid.Proofs.Formula.Places
import FormulaGrid.Proofs.Formula.Positions

/-!
Contract: the tokens of a text stand for all of it but the blanks.

Owns:
- what a span of characters is when it is read alone (`Lexeme.ofSpan?`);
- tokens with the spans that they were read from, in order, apart from each other, and over
  everything that is visible (`Covers`);
- a text laid out as blanks and spans (`Laid`), as every text that has tokens is
  (`exists_laid_of_scan`), so that the tokens cover it (`scan_covers`);
- the text in front of an unknown symbol or word has tokens (`scan_unknown`);
- both for a whole formula (`tokenize_covers`).
-/

namespace FormulaGrid

open Text

/-! ## Spans -/

/-- The lexeme that a span of characters is when it is read alone and as a whole, and the text
that the lexeme is known by. -/
def Lexeme.ofSpan? : List Char → Option (Lexeme × String)
  | [] => none
  | head :: tail =>
      match read false 0 head tail with
      | .ok reading =>
          if reading.further = tail.length then some (reading.lexeme, reading.text) else none
      | .error _ => none

/-- A token and the characters that it was read from. -/
structure SpannedToken where
  token : Token
  span : List Char

namespace SpannedToken

def start (piece : SpannedToken) : Nat :=
  piece.token.position

def stop (piece : SpannedToken) : Nat :=
  piece.token.position + piece.span.length

end SpannedToken

/-- The tokens stand for a text whose first character has the given position: their spans are
parts of the text, one behind the other, each is its token when it is read alone, and what they
leave out is blank. -/
structure Covers
    (position : Nat)
    (characters : List Char)
    (pieces : List SpannedToken) :
    Prop where
  ordered : pieces.Pairwise fun left right => left.stop ≤ right.start
  placed : ∀ piece ∈ pieces,
    position ≤ piece.start ∧ piece.span <+: characters.drop (piece.start - position)
  lexeme : ∀ piece ∈ pieces,
    Lexeme.ofSpan? piece.span = some (piece.token.lexeme, piece.token.text)
  visible : ∀ piece ∈ pieces, ∀ character ∈ piece.span, isBlank character = false
  complete : ∀ (index : Nat) (character : Char),
    characters[index]? = some character → isBlank character = false →
      ∃ piece ∈ pieces, piece.start ≤ position + index ∧ position + index < piece.stop

namespace Covers

variable {position : Nat} {front rest : List Char} {pieces : List SpannedToken}

theorem nothing (position : Nat) : Covers position [] [] where
  ordered := .nil
  placed := List.forall_mem_nil _
  lexeme := List.forall_mem_nil _
  visible := List.forall_mem_nil _
  complete index character found := by simp at found

section

variable (covers : Covers (position + front.length) rest pieces)

include covers

/-- What covers the end of a text stands in the text behind the front. -/
theorem placed_behind :
    ∀ piece ∈ pieces,
      position + front.length ≤ piece.start ∧
        piece.span <+: (front ++ rest).drop (piece.start - position) := by
  intro piece member
  obtain ⟨behind, stands⟩ := covers.placed piece member
  refine ⟨behind, ?_⟩
  have place : piece.start - position =
      front.length + (piece.start - (position + front.length)) := by omega
  rw [place, List.drop_length_add_append]
  exact stands

/-- It covers all that is visible behind the front. -/
theorem complete_behind
    {index : Nat}
    {character : Char}
    (behind : front.length ≤ index)
    (found : (front ++ rest)[index]? = some character)
    (visible : isBlank character = false) :
    ∃ piece ∈ pieces, piece.start ≤ position + index ∧ position + index < piece.stop := by
  rw [List.getElem?_append_right behind] at found
  obtain ⟨piece, member, starts, stops⟩ := covers.complete _ character found visible
  exact ⟨piece, member, by omega, by omega⟩

end

/-- A blank in front of a text changes nothing. -/
theorem blank
    {head : Char}
    (blank : isBlank head = true)
    (covers : Covers (position + 1) rest pieces) :
    Covers position (head :: rest) pieces where
  ordered := covers.ordered
  placed piece member :=
    have placed := @placed_behind position [head] rest pieces covers piece member
    ⟨Nat.le_of_succ_le placed.1, placed.2⟩
  lexeme := covers.lexeme
  visible := covers.visible
  complete index character found visible := by
    cases index with
    | zero =>
        cases found
        exact absurd visible (by simp [blank])
    | succ index =>
        exact @complete_behind position [head] rest pieces covers _ _
          (Nat.succ_le_succ (Nat.zero_le _)) found visible

/-- A span in front of a text is covered by its token. -/
theorem spanned
    {lexeme : Lexeme}
    {text : String}
    (read : Lexeme.ofSpan? front = some (lexeme, text))
    (visible : ∀ character ∈ front, isBlank character = false)
    (covers : Covers (position + front.length) rest pieces) :
    Covers position (front ++ rest) (⟨⟨lexeme, text, position⟩, front⟩ :: pieces) where
  ordered := List.pairwise_cons.mpr
    ⟨fun piece member => (covers.placed piece member).1, covers.ordered⟩
  placed := List.forall_mem_cons.mpr ⟨⟨Nat.le_refl _, by
    simp [SpannedToken.start]⟩, fun piece member =>
      have placed := placed_behind covers piece member
      ⟨Nat.le_trans (Nat.le_add_right _ _) placed.1, placed.2⟩⟩
  lexeme := List.forall_mem_cons.mpr ⟨read, covers.lexeme⟩
  visible := List.forall_mem_cons.mpr ⟨visible, covers.visible⟩
  complete index character found shown := by
    by_cases inFront : index < front.length
    · exact ⟨_, List.mem_cons_self, Nat.le_add_right _ _, Nat.add_lt_add_left inFront _⟩
    · obtain ⟨piece, member, within⟩ :=
        complete_behind covers (Nat.not_lt.mp inFront) found shown
      exact ⟨piece, List.mem_cons_of_mem _ member, within⟩

end Covers

/-! ## Scans -/

/-- A reading that takes all of a span is what the span is when it is read alone. -/
theorem Lexeme.ofSpan?_of_read
    {first : Bool}
    {position : Nat}
    {head : Char}
    {kept rest : List Char}
    {reading : Reading}
    (found : read first position head (kept ++ rest) = .ok reading)
    (whole : kept.length = reading.further) :
    ofSpan? (head :: kept) = some (reading.lexeme, reading.text) := by
  have alone := read_append (.inr ⟨reading, found, Nat.le_of_eq whole.symm⟩)
  rw [found] at alone
  dsimp only [ofSpan?]
  rw [read_further 0 alone.symm]
  exact if_pos whole.symm

/-- The text consists of blanks and of the spans that its tokens are read from, in order. -/
inductive Laid : Bool → Nat → List Char → List SpannedToken → Prop where
  | nothing (first : Bool) (position : Nat) : Laid first position [] []
  | blank
      {first : Bool}
      {position : Nat}
      {head : Char}
      {tail : List Char}
      {pieces : List SpannedToken}
      (blank : isBlank head = true)
      (behind : Laid first (position + 1) tail pieces) :
      Laid first position (head :: tail) pieces
  | token
      {first : Bool}
      {position : Nat}
      {head : Char}
      {kept rest : List Char}
      {reading : Reading}
      {pieces : List SpannedToken}
      (visible : ∀ character ∈ head :: kept, isBlank character = false)
      (found : Lexeme.read first position head (kept ++ rest) = .ok reading)
      (whole : kept.length = reading.further)
      (behind : Laid false (position + (head :: kept).length) rest pieces) :
      Laid first position (head :: kept ++ rest)
        (⟨⟨reading.lexeme, reading.text, position⟩, head :: kept⟩ :: pieces)

/-- What is laid out so is covered. -/
theorem Laid.covers
    {first : Bool}
    {position : Nat}
    {characters : List Char}
    {pieces : List SpannedToken}
    (laid : Laid first position characters pieces) :
    Covers position characters pieces := by
  induction laid with
  | nothing first position => exact .nothing position
  | blank blank behind inductionHypothesis => exact inductionHypothesis.blank blank
  | token visible found whole behind inductionHypothesis =>
      exact inductionHypothesis.spanned (Lexeme.ofSpan?_of_read found whole) visible

/-- A text that has tokens consists of blanks and of their spans. -/
theorem exists_laid_of_scan
    {first : Bool}
    {position : Nat}
    {characters : List Char}
    {tokens : List Token}
    (scanned : scan first position characters = .ok tokens) :
    ∃ pieces : List SpannedToken,
      pieces.map SpannedToken.token = tokens ∧ Laid first position characters pieces := by
  induction first, position, characters using scan.induct generalizing tokens with
  | case1 first position =>
      rw [scan_nil] at scanned
      cases scanned
      exact ⟨[], rfl, .nothing first position⟩
  | case2 first position head tail blank inductionHypothesis =>
      rw [scan_blank blank] at scanned
      obtain ⟨pieces, same, laid⟩ := inductionHypothesis scanned
      exact ⟨pieces, same, laid.blank blank⟩
  | case3 first position head tail visible inductionHypothesis =>
      rw [Bool.not_eq_true] at visible
      obtain ⟨reading, others, found, behind, rfl⟩ := scan_cons visible scanned
      obtain ⟨pieces, rfl, laid⟩ := inductionHypothesis reading behind
      obtain ⟨span, rest, taken, length, shown⟩ := Lexeme.takes_read visible found
      obtain ⟨kept, rfl, rfl⟩ : ∃ kept, span = head :: kept ∧ tail = kept ++ rest := by
        cases span with
        | nil => exact absurd length (Nat.zero_ne_add_one _)
        | cons first kept =>
            obtain ⟨rfl, same⟩ := List.cons.inj taken
            exact ⟨kept, rfl, same⟩
      have whole : kept.length = reading.further := Nat.succ.inj length
      have place : position + (head :: kept).length = position + 1 + reading.further := by
        rw [length]
        omega
      rw [← place, ← whole, List.drop_left] at laid
      exact ⟨_, rfl, .token shown found whole laid⟩

/-- The tokens of a text cover it. -/
theorem scan_covers
    {first : Bool}
    {position : Nat}
    {characters : List Char}
    {tokens : List Token}
    (scanned : scan first position characters = .ok tokens) :
    ∃ pieces : List SpannedToken,
      pieces.map SpannedToken.token = tokens ∧ Covers position characters pieces := by
  obtain ⟨pieces, same, laid⟩ := exists_laid_of_scan scanned
  exact ⟨pieces, same, laid.covers⟩

/-! ## Unknown symbols and words -/

/-- The cause is that of the symbol or of the word that a text starts with. -/
inductive IsUnknown (position : Nat) (head : Char) (tail : List Char) : FormulaFault → Prop where
  | symbol : IsUnknown position head tail (.unknownSymbol head position)
  | word :
      IsUnknown position head tail
        (.unknownWord (String.ofList ((head :: tail).takeWhile Char.isAlpha)) position)

theorem IsUnknown.position?_eq
    {position : Nat}
    {head : Char}
    {tail : List Char}
    {cause : FormulaFault}
    (unknown : IsUnknown position head tail cause) :
    cause.position? = some position := by
  cases unknown <;> rfl

namespace Lexeme

theorem superscriptValue_ne_formula (run : List Char) (cause : FormulaFault) :
    superscriptValue run ≠ .error (.formula cause) := by
  unfold superscriptValue
  split <;> intro same <;> cases same

theorem floatOfInteger_ne_formula (value : Int) (cause : FormulaFault) :
    floatOfInteger value ≠ .error (.formula cause) := by
  unfold floatOfInteger
  split <;> intro same <;> cases same

theorem map_ne_error
    {First Second : Type}
    {outcome : Except Fault First}
    {function : First → Second}
    {fault : Fault}
    (other : outcome ≠ .error fault) :
    outcome.map function ≠ .error fault := by
  cases outcome with
  | ok value => intro same; cases same
  | error found => exact fun same => other (congrArg Except.error (Except.error.inj same))

/-- Raised digits are no unknown symbol: their faults are those of numbers, or they dangle. -/
theorem readSuperscript_valid
    {first : Bool}
    {position : Nat}
    {characters : List Char}
    {cause : FormulaFault}
    (found : readSuperscript first position characters = .error (.formula cause)) :
    Family.invalidExpression ∉ cause.family.lineage := by
  rw [readSuperscript_eq] at found
  cases value : superscriptValue (characters.takeWhile isSuperscript) with
  | error fault =>
      rw [value] at found
      cases found
      exact absurd value (superscriptValue_ne_formula _ cause)
  | ok value =>
      rw [value, bind_of_ok rfl] at found
      split at found
      · exact absurd found (map_ne_error (floatOfInteger_ne_formula _ _))
      · split at found
        · cases found
          show _ ∉ Family.parse.lineage
          decide
        · exact absurd found (map_ne_error (floatOfInteger_ne_formula _ _))

theorem readFunction_ne_formula
    (name : FunctionName)
    (letters lowered raised : List Char)
    (cause : FormulaFault) :
    readFunction name letters lowered raised ≠ .error (.formula cause) := by
  unfold readFunction
  refine map_ne_error ?_
  split
  · intro same
    cases same
  · exact map_ne_error (superscriptValue_ne_formula _ _)

/-- A lexeme that is no part of the alphabet is so wherever it stands in a formula. -/
theorem isUnknown_of_read
    {first : Bool}
    {position : Nat}
    {head : Char}
    {tail : List Char}
    {cause : FormulaFault}
    (found : read first position head tail = .error (.formula cause))
    (invalid : Family.invalidExpression ∈ cause.family.lineage) :
    IsUnknown position head tail cause ∧
      ∀ anywhere : Bool, read anywhere position head tail = .error (.formula cause) := by
  unfold read at found ⊢
  dsimp only at found ⊢
  split at found
  next => cases found
  next noNumeral =>
    simp only [if_neg noNumeral]
    split at found
    next => exact absurd invalid (readSuperscript_valid found)
    next notRaised =>
      simp only [if_neg notRaised]
      split at found
      next letter =>
        simp only [if_pos letter]
        refine ⟨?_, fun _ => found⟩
        rw [readWord_eq] at found
        split at found
        · cases found
        · split at found
          · cases found
            exact .word
          · exact absurd found (readFunction_ne_formula _ _ _ _ _)
      next notLetter =>
        simp only [if_neg notLetter]
        refine ⟨?_, fun _ => found⟩
        unfold readSign at found
        dsimp only at found
        split at found
        · cases found
        · split at found <;> cases found
          exact .symbol

/-- A lexeme is also read where the text is cut off behind it. -/
theorem read_take
    {first : Bool}
    {position : Nat}
    {head : Char}
    {tail : List Char}
    {reading : Reading}
    (found : read first position head tail = .ok reading)
    {count : Nat}
    (within : reading.further ≤ count)
    (short : count ≤ tail.length) :
    read first position head (tail.take count) = .ok reading := by
  have parts := List.take_append_drop count tail
  rw [← found, ← congrArg (read first position head) parts]
  refine (read_append (.inr ⟨reading, by rw [parts, found], ?_⟩)).symm
  rwa [List.length_take, Nat.min_eq_left short]

end Lexeme

/-- The text in front of an unknown symbol or word has tokens. -/
theorem scan_unknown
    {first : Bool}
    {position : Nat}
    {characters : List Char}
    {cause : FormulaFault}
    (failed : scan first position characters = .error (.formula cause))
    (invalid : Family.invalidExpression ∈ cause.family.lineage) :
    ∃ (index : Nat) (head : Char) (tail : List Char),
      characters.drop index = head :: tail ∧
        isBlank head = false ∧
        IsUnknown (position + index) head tail cause ∧
        (∀ anywhere : Bool,
          Lexeme.read anywhere (position + index) head tail = .error (.formula cause)) ∧
        ∃ tokens, scan first position (characters.take index) = .ok tokens := by
  induction first, position, characters using scan.induct with
  | case1 first position =>
      rw [scan_nil] at failed
      cases failed
  | case2 first position head tail blank inductionHypothesis =>
      rw [scan_blank blank] at failed
      obtain ⟨index, stands⟩ := inductionHypothesis failed
      refine ⟨index + 1, ?_⟩
      rw [List.drop_succ_cons, List.take_succ_cons, scan_blank blank, ← Nat.add_assoc,
        Nat.add_right_comm]
      exact stands
  | case3 first position head tail visible inductionHypothesis =>
      rw [Bool.not_eq_true] at visible
      rw [scan_visible visible] at failed
      cases found : Lexeme.read first position head tail with
      | error fault =>
          rw [found] at failed
          cases failed
          obtain ⟨unknown, anywhere⟩ := Lexeme.isUnknown_of_read found invalid
          exact ⟨0, head, tail, rfl, visible, unknown, anywhere, [], by rw [List.take_zero, scan_nil]⟩
      | ok reading =>
          rw [found, bind_of_ok rfl] at failed
          cases behind : scan false (position + 1 + reading.further)
              (tail.drop reading.further) with
          | ok others => rw [behind] at failed; cases failed
          | error fault =>
              rw [behind] at failed
              obtain ⟨index, next, rest, starts, shown, unknown, anywhere, tokens, scanned⟩ :=
                inductionHypothesis reading (by rw [behind]; exact failed)
              rw [List.drop_drop] at starts
              have place : position + (reading.further + index + 1) =
                  position + 1 + reading.further + index := by omega
              refine ⟨reading.further + index + 1, next, rest, ?_⟩
              rw [place, List.drop_succ_cons, List.take_succ_cons, scan_visible visible]
              refine ⟨starts, shown, unknown, anywhere,
                ⟨reading.lexeme, reading.text, position⟩ :: tokens, ?_⟩
              -- What is cut off stands behind the lexeme, which is read without it.
              have longer : reading.further + index < tail.length := by
                have length := congrArg List.length starts
                rw [List.length_drop, List.length_cons] at length
                omega
              have kept := Lexeme.read_take found (Nat.le_add_right reading.further index)
                (Nat.le_of_lt longer)
              rw [kept, bind_of_ok rfl, List.drop_take, Nat.add_sub_cancel_left, scanned]
              rfl

/-! ## Formulas -/

/-- The tokens of a formula stand in order, in front of its end, and cover all of it but the
blanks, each of them read from its span alone. A formula with an unknown symbol or word has
tokens, or only blanks, in front of the first one, which the fault points at. -/
theorem tokenize_covers (text : String) :
    (∀ line, tokenize text = .ok line →
      line.finish = text.length ∧
        line.tokens.Pairwise (fun left right => left.position < right.position) ∧
        (∀ token ∈ line.tokens, token.position < line.finish) ∧
        ∃ pieces : List SpannedToken,
          pieces.map SpannedToken.token = line.tokens ∧ Covers 0 text.toList pieces) ∧
      ∀ cause, tokenize text = .error (.formula cause) →
        Family.invalidExpression ∈ cause.family.lineage →
        ∃ (position : Nat) (head : Char) (tail : List Char),
          cause.position? = some position ∧
            text.toList.drop position = head :: tail ∧
            isBlank head = false ∧
            IsUnknown position head tail cause ∧
            (∀ anywhere : Bool,
              Lexeme.read anywhere position head tail = .error (.formula cause)) ∧
            (allBlank (text.toList.take position) = true ∨
              ∃ line, tokenize (String.ofList (text.toList.take position)) = .ok line) := by
  refine ⟨fun line tokenized => ?_, fun cause failed invalid => ?_⟩
  · obtain ⟨ordered, within⟩ := tokenize_positions tokenized
    obtain ⟨scanned, finish⟩ := scan_of_tokenize tokenized
    exact ⟨finish, ordered, within, scan_covers scanned⟩
  · unfold tokenize at failed
    split at failed
    next =>
      cases failed
      exact absurd invalid (by decide)
    next =>
      cases scanned : scan true 0 text.toList with
      | ok tokens => rw [scanned] at failed; cases failed
      | error fault =>
          rw [scanned] at failed
          cases failed
          obtain ⟨position, head, tail, starts, visible, unknown, anywhere, tokens, before⟩ :=
            scan_unknown scanned invalid
          rw [Nat.zero_add] at unknown anywhere
          refine ⟨position, head, tail, unknown.position?_eq, starts, visible, unknown, anywhere,
            or_iff_not_imp_left.mpr fun shown =>
              ⟨⟨tokens, (String.ofList (text.toList.take position)).length⟩, ?_⟩⟩
          unfold tokenize
          rw [String.toList_ofList, if_neg shown, before]
          rfl

/-- An index, a base and a power belong to the token of the sign or the word that they stand
at; the text in front of an unknown word has tokens. -/
theorem tokenize_covers_samples :
    (∃ (line : TokenLine) (pieces : List SpannedToken),
      tokenize "³√8 + log₂²(8)" = .ok line ∧
        pieces.map SpannedToken.token = line.tokens ∧
        Covers 0 "³√8 + log₂²(8)".toList pieces) ∧
      tokenize "2π+x" = .error (.formula (.unknownWord "x" 3)) ∧
      ∃ line, tokenize (String.ofList ("2π+x".toList.take 3)) = .ok line := by
  constructor
  · have split : (tokenize "³√8 + log₂²(8)").toBool = true := by decide +kernel
    cases tokenized : tokenize "³√8 + log₂²(8)" with
    | error fault => rw [tokenized] at split; cases split
    | ok line =>
        obtain ⟨-, -, -, pieces, same, covers⟩ := (tokenize_covers _).1 line tokenized
        exact ⟨line, pieces, rfl, same, covers⟩
  · have failed : tokenize "2π+x" = .error (.formula (.unknownWord "x" 3)) :=
      eq_error_of_causeOf? (by decide +kernel)
    obtain ⟨position, -, -, place, -, -, -, -, before⟩ :=
      (tokenize_covers "2π+x").2 _ failed (by decide)
    cases place
    exact ⟨failed, before.resolve_left (by decide +kernel)⟩

end FormulaGrid
