import FormulaGrid.Proofs.Formula.Lockstep
import FormulaGrid.Proofs.Formula.Safety
import FormulaGrid.Proofs.Formula.Writing

/-!
Contract: a group in a formula counts for its value alone.

Owns:
- the tokens of a text that goes on behind another one (`scan_append`), and those of a text with
  a group in it (`scan_grouped`);
- two texts that differ in a group, the insides of which have the same value, have the same
  value, or the same fault but for its place (`evaluate_substitute`).

Does not own: what a formula is worth. Nothing is asked of the text around the group.
-/

namespace FormulaGrid

open Grammar Text

/-! ## Texts behind texts -/

/-- The tokens of a text in front of what does not go on its last lexeme. -/
theorem scan_append
    {kept rest : List Char}
    (ends : EndsLexeme rest)
    (first : Bool)
    (position : Nat) :
    scan first position (kept ++ rest) =
      scan first position kept >>= fun tokens =>
        (scan (first && tokens.isEmpty) (position + kept.length) rest).map (tokens ++ ·) := by
  induction first, position, kept using scan.induct with
  | case1 first position =>
      rw [bind_of_ok (scan_nil first position), List.isEmpty_nil, Bool.and_true, List.nil_append]
      show _ = Except.map _ (scan first position rest)
      cases scan first position rest <;> rfl
  | case2 first position head tail blank inductionHypothesis =>
      rw [List.cons_append, scan_blank blank, scan_blank blank, inductionHypothesis,
        List.length_cons, Nat.add_right_comm position, Nat.add_assoc]
  | case3 first position head tail visible inductionHypothesis =>
      rw [Bool.not_eq_true] at visible
      rw [List.cons_append, scan_visible visible, scan_visible visible,
        Lexeme.read_append (.inl ends)]
      cases found : Lexeme.read first position head tail with
      | error fault => rfl
      | ok reading =>
          obtain ⟨span, left, whole, length, -⟩ := Lexeme.takes_read visible found
          have taken : reading.further ≤ tail.length := by
            have lengths := congrArg List.length whole
            rw [List.length_append, List.length_cons] at lengths
            omega
          have place : position + 1 + reading.further + (tail.drop reading.further).length =
              position + (head :: tail).length := by
            rw [List.length_drop, List.length_cons]
            omega
          rw [bind_of_ok rfl, bind_of_ok rfl, List.drop_append_of_le_length taken,
            inductionHypothesis, place]
          cases scan false (position + 1 + reading.further) (tail.drop reading.further) with
          | error fault => rfl
          | ok tokens =>
              show Except.map _ (Except.map _ (scan (false && _) _ rest)) =
                Except.map _ (scan (first && _) _ rest)
              rw [List.isEmpty_cons, Bool.and_false, Bool.false_and]
              cases scan false (position + (head :: tail).length) rest <;> rfl

/-- The tokens of a text in front of a parenthesis or another sign that ends every lexeme. -/
theorem scan_append_sign
    {sign : Char}
    {lexeme : Lexeme}
    {text : String}
    (isSign : IsSign sign lexeme text)
    (kept rest : List Char)
    (ends : EndsLexeme (sign :: rest))
    (first : Bool)
    (position : Nat) :
    scan first position (kept ++ sign :: rest) =
      scan first position kept >>= fun before =>
        (scan false (position + kept.length + 1) rest).map fun behind =>
          before ++ ⟨lexeme, text, position + kept.length⟩ :: behind := by
  rw [scan_append ends]
  refine congrArg _ (funext fun before => ?_)
  rw [scan_visible isSign.visible, isSign.read, bind_of_ok rfl]
  show Except.map _ (Except.map _ (scan false (position + kept.length + 1) rest)) = _
  cases scan false (position + kept.length + 1) rest <;> rfl

theorem endsLexeme_opening (rest : List Char) : EndsLexeme ('(' :: rest) := by
  rintro _ ⟨⟩
  decide

theorem endsLexeme_closing (rest : List Char) : EndsLexeme (')' :: rest) := by
  rintro _ ⟨⟩
  decide

/-- The tokens of a text with a group in it, the inside of which has tokens as a formula. -/
theorem scan_grouped
    {inside : List Char}
    {tokens : List Token}
    (scanned : scan true 0 inside = .ok tokens)
    (before behind : List Char) :
    ∃ others : List Token,
      tokens.map Token.unplaced = others.map Token.unplaced ∧
        scan true 0 (before ++ '(' :: (inside ++ ')' :: behind)) =
          scan true 0 before >>= fun ahead =>
            (scan false (before.length + 1 + inside.length + 1) behind).map fun rest =>
              ahead ++ ⟨.leftParenthesis, "(", before.length⟩ ::
                (others ++ ⟨.rightParenthesis, ")", before.length + 1 + inside.length⟩ ::
                  rest) := by
  obtain ⟨others, further, same⟩ := scan_further scanned (before.length + 1)
  refine ⟨others, same.symm, ?_⟩
  rw [scan_append_sign isSign_opening _ _ (endsLexeme_opening _), Nat.zero_add]
  refine congrArg _ (funext fun ahead => ?_)
  rw [scan_append_sign isSign_closing _ _ (endsLexeme_closing _), bind_of_ok further]
  cases scan false (before.length + 1 + inside.length + 1) behind <;> rfl

/-- At two places a text has tokens that differ in their places only, or so do its faults. -/
theorem corresponds_scan (first : Bool) (position place : Nat) (characters : List Char) :
    Corresponds (fun left right => left.map Token.unplaced = right.map Token.unplaced)
      (scan first position characters) (scan first place characters) := by
  have same := unplaced_scan first position place characters
  generalize scan first position characters = left at same ⊢
  generalize scan first place characters = right at same ⊢
  cases left with
  | ok tokens =>
      cases right with
      | ok others => exact .value (Except.ok.inj same)
      | error fault => cases same
  | error fault =>
      cases right with
      | ok others => cases same
      | error other => exact .fault (Except.error.inj same)

/-! ## Evaluation -/

/-- The meaning in doubles knows the place of a construct only for its fault. -/
theorem arithmetic_placeless (functions : Elementary) : (arithmetic functions).Placeless where
  literal _ _ _ _ _ := .refl _
  divide leftPosition rightPosition left right := by
    show Corresponds Eq (Arithmetic.divide _ _ _) (Arithmetic.divide _ _ _)
    unfold Arithmetic.divide
    split
    · exact .fault rfl
    · exact .refl _

/-- A text that is not blank is read from its tokens. -/
theorem evaluate_of_visible
    (functions : Elementary)
    {text : String}
    (visible : allBlank text.toList = false) :
    evaluate functions text =
      scan true 0 text.toList >>= fun tokens =>
        TokenLine.read (arithmetic functions) ⟨tokens, text.length⟩ := by
  rw [evaluate, tokenize, visible]
  cases scan true 0 text.toList <;> rfl

theorem exists_tokens_of_evaluate
    {functions : Elementary}
    {text : String}
    {value : Float}
    (evaluated : evaluate functions text = .ok value) :
    ∃ tokens, scan true 0 text.toList = .ok tokens ∧
      TokenLine.read (arithmetic functions) ⟨tokens, text.length⟩ = .ok value := by
  obtain ⟨line, tokenized, read⟩ := exists_of_bind_eq_ok evaluated
  obtain ⟨scanned, finish⟩ := scan_of_tokenize tokenized
  exact ⟨line.tokens, scanned, finish ▸ read⟩

/-- A formula that is a group is worth what the inside of the group is, unless that lies too
deep. -/
theorem corresponds_read_group
    {Value : Type}
    {meaning : Interpretation Value}
    {inside : List Token}
    {value : Value}
    (reads : ReadsAs meaning inside value)
    (opening closing : Mark)
    (finish : Nat) :
    Corresponds Eq (.ok value)
      (TokenLine.read meaning
        ⟨opening.token .leftParenthesis :: (inside ++ [closing.token .rightParenthesis]),
          finish⟩) := by
  rw [TokenLine.read_eq, readSum, plain_readSequence, readProduct, plain_readSequence,
    plain_readSigned_operand meaning finish _ rfl, plain_readPower, plain_readPostfixed,
    plain_readPrimary, Mark.token]
  dsimp only
  rw [plain_readGroup]
  rcases (reads finish deepestNesting closing []).eq_ok_or with
    ⟨_, read, rfl⟩ | ⟨position, tooDeep⟩
  · rw [bind_of_ok read]
    show Corresponds Eq _
      (((plain (readPostfixes meaning value []) >>= _) >>= _) >>= _)
    rw [plain_readPostfixes]
    show Corresponds Eq _ (((plain (readChain meaning.factors _ value []) >>= _) >>= _))
    rw [plain_readChain_nil]
    show Corresponds Eq _ ((plain (readChain meaning.terms _ value []) >>= _))
    rw [plain_readChain_nil]
    exact .value rfl
  · rw [tooDeep]
    exact .rightTooDeep _ position

/-! ## Groups in formulas -/

/-- A text with a group in it. -/
def grouped (before inside behind : String) : String :=
  before ++ "(" ++ inside ++ ")" ++ behind

theorem toList_grouped (before inside behind : String) :
    (grouped before inside behind).toList =
      before.toList ++ '(' :: (inside.toList ++ ')' :: behind.toList) := by
  simp [grouped]

theorem allBlank_grouped (before inside behind : String) :
    allBlank (grouped before inside behind).toList = false := by
  rw [toList_grouped, Writing.allBlank_append, Writing.allBlank_cons]
  have visible : isBlank '(' = false := by decide
  rw [visible, Bool.false_and, Bool.and_false]

/-- The limit of nesting ended the evaluation. -/
def isTooDeep : Except Fault Float → Bool
  | .ok _ => false
  | .error (.formula (.nestedTooDeep _)) => true
  | .error _ => false

/-- Outcomes that correspond and do not lie too deep are the same but for the place of a fault,
which is of the same family. -/
theorem Corresponds.same_or
    {left right : Except Fault Float}
    (corresponds : Corresponds Eq left right)
    (leftShallow : isTooDeep left = false)
    (rightShallow : isTooDeep right = false) :
    (∃ value, left = .ok value ∧ right = .ok value) ∨
      ∃ first second, left = .error first ∧ right = .error second ∧
        first.unplaced = second.unplaced ∧ first.family? = second.family? := by
  cases corresponds with
  | value same => exact .inl ⟨_, rfl, by rw [same]⟩
  | fault same => exact .inr ⟨_, _, rfl, rfl, same, Fault.family?_eq_of_unplaced_eq same⟩
  | leftTooDeep position => cases leftShallow
  | rightTooDeep left position => cases rightShallow

section

variable {functions : Elementary} {left right : String} {value : Float}

/-- The insides of two groups with the same value may be exchanged in every text. -/
theorem corresponds_evaluate_grouped
    (leftValue : evaluate functions left = .ok value)
    (rightValue : evaluate functions right = .ok value)
    (before behind : String) :
    Corresponds Eq (evaluate functions (grouped before left behind))
      (evaluate functions (grouped before right behind)) := by
  obtain ⟨leftTokens, leftScanned, leftRead⟩ := exists_tokens_of_evaluate leftValue
  obtain ⟨rightTokens, rightScanned, rightRead⟩ := exists_tokens_of_evaluate rightValue
  obtain ⟨leftInside, leftSame, leftWhole⟩ :=
    scan_grouped leftScanned before.toList behind.toList
  obtain ⟨rightInside, rightSame, rightWhole⟩ :=
    scan_grouped rightScanned before.toList behind.toList
  have placeless := arithmetic_placeless functions
  have leftReads := readsAs_of_read placeless leftRead leftSame
  have rightReads := readsAs_of_read placeless rightRead rightSame
  rw [evaluate_of_visible functions (allBlank_grouped before left behind), toList_grouped,
    leftWhole, evaluate_of_visible functions (allBlank_grouped before right behind),
    toList_grouped, rightWhole]
  cases scan true 0 before.toList with
  | error fault => exact .fault rfl
  | ok ahead =>
      refine ((corresponds_scan false _ _ behind.toList).map fun leftRest rightRest same => ?_).bind
        fun first second _ _ alike => corresponds_read placeless (fun _ _ related => related) alike
      exact Alike.append_of_unplaced rfl (.group "(" _ _ ⟨")", _⟩ ⟨")", _⟩
        ⟨value, leftReads, rightReads⟩ (.of_unplaced same))

/-- A group alone is worth what its inside is. -/
theorem corresponds_evaluate_group (leftValue : evaluate functions left = .ok value) :
    Corresponds Eq (.ok value) (evaluate functions (grouped "" left "")) := by
  obtain ⟨tokens, scanned, read⟩ := exists_tokens_of_evaluate leftValue
  obtain ⟨inside, same, whole⟩ := scan_grouped scanned [] []
  have reads := readsAs_of_read (arithmetic_placeless functions) read same
  rw [evaluate_of_visible functions (allBlank_grouped "" left ""), toList_grouped]
  show Corresponds Eq _ (scan true 0 ([] ++ _) >>= _)
  have characters : "".toList = [] := rfl
  rw [characters, whole, scan_nil, bind_of_ok rfl, scan_nil]
  exact corresponds_read_group reads ⟨"(", 0⟩ ⟨")", _⟩ _

end

/-- A group counts for its value. Let two texts have the same value. Behind and in front of any
texts, in parentheses, they have the same value again, or have the same fault but for its place;
nothing is said where one of them nests too deep. In parentheses alone each has its value. -/
theorem evaluate_substitute
    (functions : Elementary)
    {left right : String}
    {value : Float}
    (leftValue : evaluate functions left = .ok value)
    (rightValue : evaluate functions right = .ok value) :
    (∀ before behind : String,
      isTooDeep (evaluate functions (grouped before left behind)) = false →
      isTooDeep (evaluate functions (grouped before right behind)) = false →
        (∃ result,
          evaluate functions (grouped before left behind) = .ok result ∧
            evaluate functions (grouped before right behind) = .ok result) ∨
          ∃ first second,
            evaluate functions (grouped before left behind) = .error first ∧
              evaluate functions (grouped before right behind) = .error second ∧
              first.unplaced = second.unplaced ∧
              first.family? = second.family?) ∧
      (isTooDeep (evaluate functions ("(" ++ left ++ ")")) = false →
        evaluate functions ("(" ++ left ++ ")") = .ok value) := by
  refine ⟨fun before behind leftShallow rightShallow => ?_, fun shallow => ?_⟩
  · exact (corresponds_evaluate_grouped leftValue rightValue before behind).same_or
      leftShallow rightShallow
  · have alone : grouped "" left "" = "(" ++ left ++ ")" := by
      simp [grouped]
    have corresponds := corresponds_evaluate_group leftValue
    rw [alone] at corresponds
    rcases corresponds.eq_ok_or with ⟨_, evaluated, rfl⟩ | ⟨position, tooDeep⟩
    · exact evaluated
    · rw [tooDeep] at shallow
      cases shallow

/-- Under a root a sum and its value may be exchanged, and so they may behind a digit, where
neither belongs. -/
theorem evaluate_substitute_samples :
    ((∃ result,
        evaluate sampleLibrary (grouped "√" "1+3" "!") = .ok result ∧
          evaluate sampleLibrary (grouped "√" "4" "!") = .ok result) ∧
      ∃ first second,
        evaluate sampleLibrary (grouped "8" "1+3" "/0") = .error first ∧
          evaluate sampleLibrary (grouped "8" "4" "/0") = .error second ∧
          first.unplaced = second.unplaced ∧
          first.family? = second.family?) ∧
      evaluate sampleLibrary "(1+3)" = .ok 4.0 := by
  have sumWorth : evaluate sampleLibrary "1+3" = .ok 4.0 :=
    eq_ok_of_toOption (by decide +kernel)
  have fourWorth : evaluate sampleLibrary "4" = .ok 4.0 :=
    eq_ok_of_toOption (by decide +kernel)
  have exchanged := evaluate_substitute sampleLibrary sumWorth fourWorth
  have rooted := exchanged.1 "√" "!" (by decide +kernel) (by decide +kernel)
  have behindDigit := exchanged.1 "8" "/0" (by decide +kernel) (by decide +kernel)
  have rootedHolds : (evaluate sampleLibrary (grouped "√" "4" "!")).toBool = true := by
    decide +kernel
  have digitFails : (evaluate sampleLibrary (grouped "8" "4" "/0")).toBool = false := by
    decide +kernel
  refine ⟨⟨rooted.resolve_right ?_, behindDigit.resolve_left ?_⟩,
    exchanged.2 (by decide +kernel)⟩
  · rintro ⟨first, second, -, failed, -⟩
    rw [failed] at rootedHolds
    cases rootedHolds
  · rintro ⟨result, -, evaluated⟩
    rw [evaluated] at digitFails
    cases digitFails

end FormulaGrid
