import FormulaGrid.Proofs.Formula.Relocation
import FormulaGrid.Proofs.Formula.Spans
import FormulaGrid.Proofs.Formula.Substitution

/-!
Contract: blanks between tokens and the spelling of operators do not matter.

Owns:
- a text that is another one but for blanks at the boundaries of its tokens and for the spelling
  of its operators (`Respelled`);
- a text may be cut at the boundary of a token, and the part in front keeps its tokens
  (`scan_front`);
- a respelled text has the same tokens in other places (`Laid.exists_scan_respelled`), so it has
  the same value, or the same fault at the corresponding token (`evaluate_respelled`).

A blank is put between two tokens only once the text in front of it has been scanned alone. So
nothing needs to be known of what a lexeme sees behind itself: only texts that are kept stand
together.
-/

namespace FormulaGrid

open Text

/-! ## Respelled texts -/

/-- The second text is the first one, which consists of blanks and of the given spans, with
blanks inserted between the spans, in front of them and behind them, and with signs of operators
respelled. -/
inductive Respelled : List (List Char) → List Char → List Char → Prop where
  | nothing : Respelled [] [] []
  | blank
      {spans : List (List Char)}
      {written other : List Char}
      {character : Char}
      (blank : isBlank character = true)
      (behind : Respelled spans written other) :
      Respelled spans (character :: written) (character :: other)
  | inserted
      {spans : List (List Char)}
      {written other : List Char}
      {character : Char}
      (blank : isBlank character = true)
      (behind : Respelled spans written other) :
      Respelled spans written (character :: other)
  | span
      {spans : List (List Char)}
      {written other : List Char}
      (span : List Char)
      (behind : Respelled spans written other) :
      Respelled (span :: spans) (span ++ written) (span ++ other)
  | sign
      {spans : List (List Char)}
      {written other : List Char}
      {before after : Char}
      {symbol : Operator}
      (isBefore : Operator.ofSign? before = some symbol)
      (isAfter : Operator.ofSign? after = some symbol)
      (behind : Respelled spans written other) :
      Respelled ([before] :: spans) (before :: written) (after :: other)

/-! ## Signs and blanks -/

/-- The signs of operators, in all their spellings. -/
theorem mem_of_ofSign?
    {sign : Char}
    {symbol : Operator}
    (isOperator : Operator.ofSign? sign = some symbol) :
    (sign, symbol) ∈ [('+', Operator.plus), ('-', .minus), ('−', .minus), ('*', .times),
      ('×', .times), ('·', .times), ('/', .dividedBy), ('÷', .dividedBy), ('^', .power)] := by
  unfold Operator.ofSign? at isOperator
  split at isOperator <;> cases isOperator <;> decide

/-- Every spelling of an operator is a sign of its own. -/
theorem isSign_of_ofSign?
    {sign : Char}
    {symbol : Operator}
    (isOperator : Operator.ofSign? sign = some symbol) :
    IsSign sign (.operator symbol) symbol.symbol := by
  have member := mem_of_ofSign? isOperator
  simp only [List.mem_cons, Prod.mk.injEq, List.not_mem_nil, or_false] at member
  rcases member with ⟨rfl, rfl⟩ | ⟨rfl, rfl⟩ | ⟨rfl, rfl⟩ | ⟨rfl, rfl⟩ | ⟨rfl, rfl⟩ |
    ⟨rfl, rfl⟩ | ⟨rfl, rfl⟩ | ⟨rfl, rfl⟩ | ⟨rfl, rfl⟩ <;>
    exact ⟨by decide, by decide, fun _ _ _ => rfl⟩

theorem endsLexeme_operator
    {sign : Char}
    {symbol : Operator}
    (isOperator : Operator.ofSign? sign = some symbol)
    (rest : List Char) :
    EndsLexeme (sign :: rest) := by
  have member := mem_of_ofSign? isOperator
  rintro _ ⟨⟩
  simp only [List.mem_cons, Prod.mk.injEq, List.not_mem_nil, or_false] at member
  rcases member with ⟨rfl, -⟩ | ⟨rfl, -⟩ | ⟨rfl, -⟩ | ⟨rfl, -⟩ | ⟨rfl, -⟩ | ⟨rfl, -⟩ |
    ⟨rfl, -⟩ | ⟨rfl, -⟩ | ⟨rfl, -⟩ <;> decide

/-- A blank goes on no lexeme. -/
theorem endsLexeme_blank
    {character : Char}
    (blank : isBlank character = true)
    (rest : List Char) :
    EndsLexeme (character :: rest) := by
  rintro _ ⟨⟩
  refine ⟨?_, ?_, ?_, ?_, ?_, ?_⟩
  · exact Bool.eq_false_iff.mpr fun digit => by
      rw [(plain_of_isDigit digit).1] at blank
      cases blank
  · rintro rfl
    exact absurd blank (by decide)
  · rintro rfl
    exact absurd blank (by decide)
  · exact Bool.eq_false_iff.mpr fun letter => by
      rw [Lexeme.isBlank_of_isAlpha letter] at blank
      cases blank
  · exact Bool.eq_false_iff.mpr fun raised => by
      rw [Lexeme.isBlank_of_isSuperscript raised] at blank
      cases blank
  · exact Bool.eq_false_iff.mpr fun lowered => by
      rw [Lexeme.isBlank_of_isSubscript lowered] at blank
      cases blank

/-! ## Cuts -/

/-- At another position a text has the same tokens, but for their places. -/
theorem exists_scan_at
    {first : Bool}
    {position : Nat}
    {characters : List Char}
    {tokens : List Token}
    (scanned : scan first position characters = .ok tokens)
    (place : Nat) :
    ∃ others : List Token,
      scan first place characters = .ok others ∧
        others.map Token.unplaced = tokens.map Token.unplaced := by
  have same := unplaced_scan first position place characters
  rw [scanned] at same
  cases found : scan first place characters with
  | error fault => rw [found] at same; cases same
  | ok others =>
      rw [found] at same
      exact ⟨others, rfl, (Except.ok.inj same).symm⟩

/-- A lexeme does not reach into a text that has a token at its own beginning. -/
theorem further_le_of_cut
    {first later : Bool}
    {position : Nat}
    {head : Char}
    {tail rest : List Char}
    {reading : Reading}
    {behind others : List Token}
    (visible : isBlank head = false)
    (found : Lexeme.read first position head (tail ++ rest) = .ok reading)
    (cut : scan later (position + 1 + tail.length) rest = .ok behind)
    (member : ∀ token ∈ behind, token ∈ others)
    (placed : ∀ token ∈ others, position + 1 + reading.further ≤ token.position) :
    reading.further ≤ tail.length := by
  by_contra longer
  obtain ⟨span, left, taken, length, shown⟩ := Lexeme.takes_read visible found
  -- The lexeme takes the first character of the rest, so this is visible and has a token.
  cases rest with
  | nil =>
      have lengths := congrArg List.length taken
      simp only [List.append_nil, List.length_cons, List.length_append] at lengths
      omega
  | cons next others =>
      have reached : span[tail.length + 1]? = some next := by
        have inside : tail.length + 1 < span.length := by omega
        have same := congrArg (·[tail.length + 1]?) taken
        simp only [List.getElem?_append_left inside, List.getElem?_cons_succ,
          List.getElem?_append_right (Nat.le_refl _), Nat.sub_self,
          List.getElem?_cons_zero] at same
        exact same.symm
      have nextVisible := shown next (List.mem_of_getElem? reached)
      obtain ⟨reading, later, -, -, rfl⟩ := scan_cons nextVisible cut
      have bound := placed _ (member _ List.mem_cons_self)
      dsimp only at bound
      omega

/-- A text may be cut where a token starts or all tokens have ended: the part in front has the
tokens that stand there. -/
theorem scan_front
    {first later : Bool}
    {position : Nat}
    {kept rest : List Char}
    {before behind : List Token}
    (whole : scan first position (kept ++ rest) = .ok (before ++ behind))
    (cut : scan later (position + kept.length) rest = .ok behind) :
    scan first position kept = .ok before := by
  induction first, position, kept using scan.induct generalizing before with
  | case1 first position =>
      -- Both scans of the rest give as many tokens.
      obtain ⟨_, scanned, same⟩ := scan_further whole position
      obtain ⟨_, scannedAgain, sameAgain⟩ := scan_further cut position
      cases scanned.symm.trans scannedAgain
      have lengths := congrArg List.length (same.symm.trans sameAgain)
      simp only [List.length_map, List.length_append] at lengths
      have none : before = [] := List.length_eq_zero_iff.mp (by omega)
      rw [none, scan_nil]
  | case2 first position head tail blank inductionHypothesis =>
      rw [List.cons_append, scan_blank blank] at whole
      rw [List.length_cons, Nat.add_comm tail.length, ← Nat.add_assoc] at cut
      rw [scan_blank blank]
      exact inductionHypothesis whole cut
  | case3 first position head tail visible inductionHypothesis =>
      rw [Bool.not_eq_true] at visible
      rw [List.length_cons, Nat.add_comm tail.length, ← Nat.add_assoc] at cut
      rw [List.cons_append] at whole
      obtain ⟨reading, others, found, scanned, split⟩ := scan_cons visible whole
      have positions := (scan_positions _ _ _ scanned).2
      cases before with
      | nil =>
          rw [List.nil_append] at split
          subst split
          have bound := ((scan_positions _ _ _ cut).2 _ List.mem_cons_self).1
          dsimp only at bound
          omega
      | cons token before =>
          rw [List.cons_append] at split
          obtain ⟨rfl, rfl⟩ := List.cons.inj split
          have within : reading.further ≤ tail.length :=
            further_le_of_cut visible found cut
              (fun token member => List.mem_append_right before member)
              fun token member => (positions token member).1
          have foundInFront := (Lexeme.read_append (.inr ⟨reading, found, within⟩)).symm
          rw [found] at foundInFront
          rw [List.drop_append_of_le_length within] at scanned
          have place : position + 1 + reading.further + (tail.drop reading.further).length =
              position + 1 + tail.length := by
            rw [List.length_drop]
            omega
          exact scan_of_read visible foundInFront
            (inductionHypothesis reading scanned (place ▸ cut))

/-! ## Layouts -/

namespace Laid

variable {first : Bool} {position : Nat} {characters : List Char} {pieces : List SpannedToken}

/-- A text that is laid out has the tokens. -/
theorem scan_eq (laid : Laid first position characters pieces) :
    scan first position characters = .ok (pieces.map SpannedToken.token) := by
  induction laid with
  | nothing first position => exact scan_nil first position
  | @blank first position head tail pieces blank behind inductionHypothesis =>
      rw [scan_blank blank]
      exact inductionHypothesis
  | @token first position head kept rest reading pieces visible found whole behind
      inductionHypothesis =>
      rw [List.cons_append]
      refine scan_of_read (visible head List.mem_cons_self) found ?_
      rw [← whole, List.drop_left]
      rwa [List.length_cons, Nat.add_comm kept.length, ← Nat.add_assoc] at inductionHypothesis

theorem of_blank
    {head : Char}
    {tail : List Char}
    (blank : isBlank head = true)
    (laid : Laid first position (head :: tail) pieces) :
    Laid first (position + 1) tail pieces := by
  generalize whole : head :: tail = characters at laid
  cases laid with
  | nothing => cases whole
  | blank _ behind =>
      cases whole
      exact behind
  | token visible =>
      obtain ⟨rfl, -⟩ := List.cons.inj whole
      rw [visible head List.mem_cons_self] at blank
      cases blank

/-- A text that starts with the span of its first token starts with that token. -/
theorem of_span
    {span rest : List Char}
    {piece : SpannedToken}
    (same : piece.span = span)
    (laid : Laid first position (span ++ rest) (piece :: pieces)) :
    Laid false (position + span.length) rest pieces ∧
      ∃ (head : Char) (kept : List Char) (reading : Reading),
        span = head :: kept ∧
          Lexeme.read first position head (kept ++ rest) = .ok reading ∧
          piece.token = ⟨reading.lexeme, reading.text, position⟩ := by
  have covers := laid.covers
  have visible := covers.visible piece List.mem_cons_self
  have lexeme := covers.lexeme piece List.mem_cons_self
  rw [same] at visible lexeme
  generalize whole : span ++ rest = characters at laid
  cases laid with
  | @blank _ _ head tail _ blank =>
      cases span with
      | nil => cases lexeme
      | cons first others =>
          obtain ⟨rfl, -⟩ := List.cons.inj whole
          rw [visible first List.mem_cons_self] at blank
          cases blank
  | @token _ _ head kept behindSpan reading _ _ found _ behind =>
      subst same
      cases List.append_cancel_left whole
      exact ⟨behind, head, kept, reading, rfl, found, rfl⟩

end Laid

namespace Covers

variable {position : Nat} {characters : List Char} {pieces others : List SpannedToken}

/-- Of two coverings with the same tokens, the spans of one are as long as those of the other:
what is visible behind a span belongs to a further token. -/
theorem length_span_le
    (covers : Covers position characters pieces)
    (coversToo : Covers position characters others)
    (same : pieces.map SpannedToken.token = others.map SpannedToken.token)
    {index : Nat}
    (within : index < pieces.length)
    (withinToo : index < others.length) :
    others[index].span.length ≤ pieces[index].span.length := by
  by_contra longer
  have length := congrArg List.length same
  rw [List.length_map, List.length_map] at length
  have start (place : Nat) (inPieces : place < pieces.length) (inOthers : place < others.length) :
      pieces[place].token = others[place].token := by
    have token := congrArg (·[place]?) same
    simpa [inPieces, inOthers] using token
  have starts : pieces[index].start = others[index].start :=
    congrArg Token.position (start index within withinToo)
  obtain ⟨behind, rest, stands⟩ := coversToo.placed _ (List.getElem_mem withinToo)
  -- The character just behind the shorter span stands in the longer one.
  obtain ⟨next, found⟩ : ∃ next, others[index].span[pieces[index].span.length]? = some next :=
    ⟨_, List.getElem?_eq_getElem (Nat.not_le.mp longer)⟩
  have visible := coversToo.visible _ (List.getElem_mem withinToo) next
    (List.mem_of_getElem? found)
  have here : characters[others[index].start - position + pieces[index].span.length]? =
      some next := by
    rw [← List.getElem?_drop, ← stands, List.getElem?_append_left (Nat.not_le.mp longer), found]
  obtain ⟨piece, member, before, after⟩ := covers.complete _ next here visible
  obtain ⟨place, inside, rfl⟩ := List.mem_iff_getElem.mp member
  have ordered := List.pairwise_iff_getElem.mp covers.ordered
  have orderedToo := List.pairwise_iff_getElem.mp coversToo.ordered
  have stop : pieces[index].stop = pieces[index].start + pieces[index].span.length := rfl
  rcases Nat.lt_trichotomy place index with less | rfl | more
  · have apart := ordered place index inside within less
    omega
  · omega
  · have apart := orderedToo index place withinToo (length ▸ inside) more
    have startsToo : pieces[place].start = others[place].start :=
      congrArg Token.position (start place inside (length ▸ inside))
    have stopToo : others[index].stop = others[index].start + others[index].span.length := rfl
    omega

/-- The spans of tokens that cover a text are settled by the tokens. -/
theorem eq_of_tokens_eq
    (covers : Covers position characters pieces)
    (coversToo : Covers position characters others)
    (same : pieces.map SpannedToken.token = others.map SpannedToken.token) :
    pieces = others := by
  have length := congrArg List.length same
  rw [List.length_map, List.length_map] at length
  refine List.ext_getElem length fun index within withinToo => ?_
  have token : pieces[index].token = others[index].token := by
    have token := congrArg (·[index]?) same
    simpa [within, withinToo] using token
  have lengths : pieces[index].span.length = others[index].span.length :=
    Nat.le_antisymm (length_span_le coversToo covers same.symm withinToo within)
      (length_span_le covers coversToo same within withinToo)
  have stands := (covers.placed _ (List.getElem_mem within)).2
  have standsToo := (coversToo.placed _ (List.getElem_mem withinToo)).2
  have start : pieces[index].start = others[index].start := congrArg Token.position token
  rw [start] at stands
  have span : pieces[index].span = others[index].span :=
    (List.prefix_of_prefix_length_le stands standsToo lengths.le).eq_of_length lengths
  calc pieces[index] = ⟨pieces[index].token, pieces[index].span⟩ := rfl
    _ = others[index] := by rw [token, span]

end Covers

/-! ## Respelled texts have the same tokens -/

/-- Behind a text that is kept, a text may be respelled. -/
theorem Laid.exists_scan_respelled
    {spans : List (List Char)}
    {written other : List Char}
    (respelled : Respelled spans written other)
    {first : Bool}
    {start : Nat}
    {kept : List Char}
    {before : List Token}
    {pieces : List SpannedToken}
    (same : pieces.map SpannedToken.span = spans)
    (laid : Laid (first && before.isEmpty) (start + kept.length) written pieces)
    (scanned : scan first start (kept ++ written) =
      .ok (before ++ pieces.map SpannedToken.token)) :
    ∃ tokens : List Token,
      scan first start (kept ++ other) = .ok tokens ∧
        tokens.map Token.unplaced =
          (before ++ pieces.map SpannedToken.token).map Token.unplaced := by
  induction respelled generalizing first start kept before pieces with
  | nothing => exact ⟨_, scanned, rfl⟩
  | @blank spans written other character blank behind inductionHypothesis =>
      rw [List.append_cons] at scanned ⊢
      exact inductionHypothesis same (by simpa [← Nat.add_assoc] using laid.of_blank blank) scanned
  | @inserted spans written other character blank behind inductionHypothesis =>
      -- The text in front is cut off, and what is behind the blank is respelled on its own.
      have front := scan_front scanned laid.scan_eq
      obtain ⟨tokens, found, sameTokens⟩ :=
        @inductionHypothesis _ (start + kept.length) [] [] pieces same
          (by simpa using laid) laid.scan_eq
      obtain ⟨others, further, sameOthers⟩ := exists_scan_at found (start + kept.length + 1)
      refine ⟨before ++ others, ?_, ?_⟩
      · rw [scan_append (endsLexeme_blank blank other), bind_of_ok front, scan_blank blank]
        rw [List.nil_append] at further
        rw [further]
        rfl
      · rw [List.map_append, List.map_append, sameOthers, sameTokens, List.nil_append]
  | @span spans written other span behind inductionHypothesis =>
      obtain ⟨piece, others, rfl, rfl, sameOthers⟩ := List.map_eq_cons_iff.mp same
      have inner := (laid.of_span rfl).1
      rw [← List.append_assoc] at scanned ⊢
      have split : before ++ (piece :: others).map SpannedToken.token =
          (before ++ [piece.token]) ++ others.map SpannedToken.token := by simp
      rw [split] at scanned ⊢
      have notFirst : (first && (before ++ [piece.token]).isEmpty) = false := by simp
      refine inductionHypothesis sameOthers ?_ scanned
      rwa [notFirst, List.length_append, ← Nat.add_assoc]
  | @sign spans written other sign otherSign symbol isBefore isAfter behind inductionHypothesis =>
      obtain ⟨piece, others, rfl, spanned, sameOthers⟩ := List.map_eq_cons_iff.mp same
      have front := scan_front scanned laid.scan_eq
      obtain ⟨inner, head, kept', reading, starts, found, isToken⟩ :=
        @Laid.of_span _ _ others [sign] written piece spanned laid
      cases starts
      rw [(isSign_of_ofSign? isBefore).read] at found
      cases found
      obtain ⟨tokens, foundBehind, sameTokens⟩ :=
        @inductionHypothesis false (start + kept.length + 1) [] [] others sameOthers
          (by simpa using inner) inner.scan_eq
      refine ⟨before ++ ⟨.operator symbol, symbol.symbol, start + kept.length⟩ :: tokens, ?_, ?_⟩
      · rw [scan_append_sign (isSign_of_ofSign? isAfter) kept other (endsLexeme_operator isAfter _),
          bind_of_ok front]
        rw [List.nil_append] at foundBehind
        rw [foundBehind]
        rfl
      · rw [List.nil_append] at sameTokens
        rw [List.map_append, List.map_append, List.map_cons, List.map_cons, sameTokens, isToken]
        rfl

/-! ## Formulas -/

/-- Blanks alone have no tokens. -/
theorem scan_of_allBlank
    {characters : List Char}
    (blank : allBlank characters = true)
    (first : Bool)
    (position : Nat) :
    scan first position characters = .ok [] := by
  induction characters generalizing position with
  | nil => exact scan_nil first position
  | cons head tail inductionHypothesis =>
      rw [Writing.allBlank_cons, Bool.and_eq_true] at blank
      rw [scan_blank blank.1]
      exact inductionHypothesis blank.2 (position + 1)

/-- A text that has a token is not blank. -/
theorem allBlank_of_scan
    {characters : List Char}
    {first : Bool}
    {position : Nat}
    {token : Token}
    {others : List Token}
    (scanned : scan first position characters = .ok (token :: others)) :
    allBlank characters = false := by
  refine Bool.eq_false_iff.mpr fun blank => ?_
  rw [scan_of_allBlank blank first position] at scanned
  cases scanned

/-- The tokens of a text that is not blank are some. -/
theorem exists_cons_of_tokenize
    {text : String}
    {line : TokenLine}
    (tokenized : tokenize text = .ok line) :
    ∃ token others, line.tokens = token :: others := by
  obtain ⟨scanned, -⟩ := scan_of_tokenize tokenized
  obtain ⟨pieces, same, laid⟩ := exists_laid_of_scan scanned
  have visible : allBlank text.toList = false := by
    refine Bool.eq_false_iff.mpr fun blank => ?_
    rw [tokenize, if_pos blank] at tokenized
    cases tokenized
  rw [allBlank, List.all_eq_false] at visible
  obtain ⟨character, member, shown⟩ := visible
  obtain ⟨index, found⟩ := List.mem_iff_getElem?.mp member
  obtain ⟨piece, inPieces, -⟩ :=
    laid.covers.complete index character found (Bool.not_eq_true _ ▸ shown)
  rw [← same]
  cases pieces with
  | nil => cases inPieces
  | cons first others => exact ⟨_, _, rfl⟩

/-- Notation does not matter. Let a text have tokens. They have spans that cover the text, and
let another text be made of it by inserting blanks anywhere between the spans, in front of them
or behind them, and by respelling operators. Then the other text has the same tokens with the
same payloads and texts, in other places. Both have the same value, or the same fault at the
token with the same number, which is of the same family. -/
theorem evaluate_respelled
    (text : String)
    (line : TokenLine)
    (tokenized : tokenize text = .ok line) :
    (∃ pieces : List SpannedToken,
      pieces.map SpannedToken.token = line.tokens ∧ Covers 0 text.toList pieces) ∧
      ∀ (pieces : List SpannedToken) (other : String),
        pieces.map SpannedToken.token = line.tokens →
        Covers 0 text.toList pieces →
        Respelled (pieces.map SpannedToken.span) text.toList other.toList →
          ∃ others : TokenLine,
            tokenize other = .ok others ∧
              others.tokens.map Token.unplaced = line.tokens.map Token.unplaced ∧
              ∀ functions : Elementary,
                (∃ value : Float,
                  evaluate functions text = .ok value ∧ evaluate functions other = .ok value) ∨
                ∃ fault : Fault,
                  evaluate functions text = .error (fault.moved line.place) ∧
                    evaluate functions other = .error (fault.moved others.place) ∧
                    (fault.moved line.place).family? = (fault.moved others.place).family? := by
  obtain ⟨scanned, finish⟩ := scan_of_tokenize tokenized
  refine ⟨scan_covers scanned, fun pieces other same covers respelled => ?_⟩
  -- The spans are those that the text is laid out in.
  obtain ⟨laidPieces, sameLaid, laid⟩ := exists_laid_of_scan scanned
  cases covers.eq_of_tokens_eq laid.covers (same.trans sameLaid.symm)
  obtain ⟨tokens, found, sameTokens⟩ := @Laid.exists_scan_respelled _ _ _ respelled true 0 [] []
    pieces rfl laid laid.scan_eq
  rw [List.nil_append, same] at sameTokens
  have tokenizedToo : tokenize other = .ok ⟨tokens, other.length⟩ := by
    obtain ⟨token, others, some⟩ := exists_cons_of_tokenize tokenized
    cases tokens with
    | nil => rw [some] at sameTokens; cases sameTokens
    | cons first behind =>
        rw [List.nil_append] at found
        rw [tokenize, allBlank_of_scan found, found]
        rfl
  refine ⟨⟨tokens, other.length⟩, tokenizedToo, sameTokens, fun functions => ?_⟩
  obtain ⟨left, right⟩ := @TokenLine.read_numbered _ _ (arithmetic_movable functions)
    line ⟨tokens, other.length⟩ sameTokens.symm
  rw [evaluate, evaluate, bind_of_ok tokenized, bind_of_ok tokenizedToo, left, right]
  cases line.numbered.read (arithmetic functions) with
  | ok value => exact .inl ⟨value, rfl, rfl⟩
  | error fault =>
      refine .inr ⟨fault, rfl, rfl, ?_⟩
      rw [Fault.family?_moved, Fault.family?_moved]

/-- Blanks may stand in front of the index of a root, but not behind it, and a division may be
written with its other sign. The division by zero is found at the second token of both texts. -/
theorem evaluate_respelled_sample :
    ∃ (line others : TokenLine) (pieces : List SpannedToken),
      tokenize "6/²√0" = .ok line ∧
        pieces.map SpannedToken.token = line.tokens ∧
        Covers 0 "6/²√0".toList pieces ∧
        Respelled (pieces.map SpannedToken.span) "6/²√0".toList " 6 ÷\t²√0 ".toList ∧
        tokenize " 6 ÷\t²√0 " = .ok others ∧
        others.tokens.map Token.unplaced = line.tokens.map Token.unplaced ∧
        ∃ fault : Fault,
          evaluate sampleLibrary "6/²√0" = .error (fault.moved line.place) ∧
            evaluate sampleLibrary " 6 ÷\t²√0 " = .error (fault.moved others.place) := by
  have laid : Laid true 0 "6/²√0".toList
      [⟨⟨.number (numeralValue ['6']), "6", 0⟩, ['6']⟩,
        ⟨⟨.operator .dividedBy, "/", 1⟩, ['/']⟩,
        ⟨⟨.root (Float.ofInt 2), "²√", 2⟩, ['²', '√']⟩,
        ⟨⟨.number (numeralValue ['0']), "0", 4⟩, ['0']⟩] :=
    @Laid.token true 0 '6' [] ['/', '²', '√', '0'] ⟨.number (numeralValue ['6']), "6", 0⟩ _
        (by simp [isBlank]) rfl rfl <|
      @Laid.token false 1 '/' [] ['²', '√', '0'] ⟨.operator .dividedBy, "/", 0⟩ _
        (by simp [isBlank]) rfl rfl <|
      @Laid.token false 2 '²' ['√'] ['0'] ⟨.root (Float.ofInt 2), "²√", 1⟩ _
        (by simp [isBlank]) rfl rfl <|
      @Laid.token false 4 '0' [] [] ⟨.number (numeralValue ['0']), "0", 0⟩ _
        (by simp [isBlank]) rfl rfl <| .nothing false 5
  have tokenized : tokenize "6/²√0" = .ok ⟨_, 5⟩ :=
    congrArg (Except.map fun tokens => TokenLine.mk tokens 5) laid.scan_eq
  have respelled : Respelled [['6'], ['/'], ['²', '√'], ['0']] "6/²√0".toList
      " 6 ÷\t²√0 ".toList :=
    .inserted (by decide) <| .span ['6'] <| .inserted (by decide) <|
      @Respelled.sign _ _ _ _ _ .dividedBy rfl rfl <| .inserted (by decide) <| .span ['²', '√'] <|
      .span ['0'] <| .inserted (by decide) .nothing
  obtain ⟨others, tokenizedToo, same, outcomes⟩ :=
    (evaluate_respelled "6/²√0" _ tokenized).2 _ " 6 ÷\t²√0 " rfl laid.covers respelled
  have fails : (evaluate sampleLibrary "6/²√0").toBool = false := by decide +kernel
  rcases outcomes sampleLibrary with ⟨value, worth, -⟩ | ⟨fault, failed, failedToo, -⟩
  · rw [worth] at fails
    cases fails
  · exact ⟨_, others, _, tokenized, rfl, laid.covers, respelled, tokenizedToo, same, fault, failed,
      failedToo⟩

end FormulaGrid
