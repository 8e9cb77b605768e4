import FormulaGrid.Proofs.Formula.Lookahead
import FormulaGrid.Proofs.Formula.Positions

/-!
Contract: what a text is split into does not depend on where the text stands.

Owns:
- tokens and faults but for their places (`Token.unplaced`, `Fault.unplaced`);
- a lexeme (`Lexeme.unplaced_read`) and the tokens of a text (`unplaced_scan`) are the same at
  every position, but for their places;
- a text that has tokens as the beginning of a formula has them further on (`scan_further`).
-/

namespace FormulaGrid

open Text

/-! ## Tokens and faults but for their places -/

/-- The cause, as if it lay at the beginning of the text. -/
def FormulaFault.unplaced : FormulaFault → FormulaFault
  | danglingSuperscript run _ => danglingSuperscript run 0
  | unexpected wanted found _ => unexpected wanted found 0
  | nestedTooDeep _ => nestedTooDeep 0
  | unknownSymbol symbol _ => unknownSymbol symbol 0
  | unknownWord word _ => unknownWord word 0
  | divisionByZero _ => divisionByZero 0
  | other => other

/-- The fault, as if its cause lay at the beginning of the text. -/
def Fault.unplaced : Fault → Fault
  | formula cause => formula cause.unplaced
  | other => other

/-- The token, as if it stood at the beginning of the text. -/
def Token.unplaced (token : Token) : Token :=
  { token with position := 0 }

/-- Where a fault lies is no matter of its family. -/
theorem Fault.family?_unplaced (fault : Fault) : fault.unplaced.family? = fault.family? := by
  cases fault with
  | formula cause => cases cause <;> rfl
  | _ => rfl

theorem Fault.family?_eq_of_unplaced_eq
    {left right : Fault}
    (same : left.unplaced = right.unplaced) :
    left.family? = right.family? := by
  rw [← left.family?_unplaced, same, right.family?_unplaced]

/-- The outcome, but for the place of a fault. -/
def unplacedFault {Value : Type} (outcome : Except Fault Value) : Except Fault Value :=
  outcome.mapError Fault.unplaced

/-- The outcome of a scan, but for the places of the tokens and of a fault. -/
def unplacedTokens (outcome : Except Fault (List Token)) : Except Fault (List Token) :=
  unplacedFault (outcome.map (List.map Token.unplaced))

/-- Outcomes that differ in places only are values together. -/
theorem eq_ok_of_unplacedFault_eq
    {Value : Type}
    {left right : Except Fault Value}
    {value : Value}
    (same : unplacedFault left = unplacedFault right)
    (known : left = .ok value) :
    right = .ok value := by
  rw [known] at same
  cases right with
  | ok other => exact same.symm
  | error fault => cases same

/-! ## One lexeme -/

namespace Lexeme

variable (first : Bool) (position place : Nat)

theorem unplaced_readSuperscript (characters : List Char) :
    unplacedFault (readSuperscript first position characters) =
      unplacedFault (readSuperscript first place characters) := by
  rw [readSuperscript_eq, readSuperscript_eq]
  cases superscriptValue (characters.takeWhile isSuperscript) with
  | error fault => rfl
  | ok value =>
      show unplacedFault (if _ then _ else _) = unplacedFault (if _ then _ else _)
      split
      · rfl
      · split <;> rfl

theorem unplaced_readWord (characters : List Char) :
    unplacedFault (readWord position characters) =
      unplacedFault (readWord place characters) := by
  rw [readWord_eq, readWord_eq]
  split
  · rfl
  · split <;> rfl

theorem unplaced_readSign (sign : Char) :
    unplacedFault (readSign position sign) = unplacedFault (readSign place sign) := by
  unfold readSign
  dsimp only
  split
  · rfl
  · split <;> rfl

/-- A lexeme is the same at every position, and so is its fault but for the place. -/
theorem unplaced_read (head : Char) (tail : List Char) :
    unplacedFault (read first position head tail) =
      unplacedFault (read first place head tail) := by
  unfold read
  dsimp only
  split
  · rfl
  · split
    · exact unplaced_readSuperscript first position place _
    · split
      · exact unplaced_readWord position place _
      · exact unplaced_readSign position place _

/-- An exponent or index that may come first may also come later. -/
theorem readSuperscript_further
    {first : Bool}
    {position : Nat}
    {characters : List Char}
    {reading : Reading}
    (found : readSuperscript first position characters = .ok reading) :
    readSuperscript false position characters = .ok reading := by
  rw [readSuperscript_eq] at found ⊢
  obtain ⟨value, denoted, behind⟩ := exists_of_bind_eq_ok found
  rw [bind_of_ok denoted]
  split at behind
  next sign => rwa [if_pos sign]
  next other =>
    split at behind
    · cases behind
    · rwa [if_neg other]

/-- A lexeme that is read at the beginning of a formula is read further on. -/
theorem read_further
    {first : Bool}
    {position : Nat}
    {head : Char}
    {tail : List Char}
    {reading : Reading}
    (place : Nat)
    (found : read first position head tail = .ok reading) :
    read false place head tail = .ok reading := by
  refine eq_ok_of_unplacedFault_eq (unplaced_read false position place head tail) ?_
  unfold read at found ⊢
  dsimp only at found ⊢
  split at found
  next numeral => rwa [if_pos numeral]
  next noNumeral =>
    rw [if_neg noNumeral]
    split at found
    next raised =>
      rw [if_pos raised]
      exact readSuperscript_further found
    next notRaised => rwa [if_neg notRaised]

end Lexeme

/-! ## Scans -/

theorem unplacedTokens_cons (token : Token) (outcome : Except Fault (List Token)) :
    unplacedTokens (outcome.map (token :: ·)) =
      (unplacedTokens outcome).map (token.unplaced :: ·) := by
  cases outcome <;> rfl

/-- The tokens of a text are the same at every position, and so is its fault, but for their
places. -/
theorem unplaced_scan (first : Bool) (position place : Nat) (characters : List Char) :
    unplacedTokens (scan first position characters) =
      unplacedTokens (scan first place characters) := by
  induction first, position, characters using scan.induct generalizing place with
  | case1 first position =>
      rw [scan_nil, scan_nil]
  | case2 first position head tail blank inductionHypothesis =>
      rw [scan_blank blank, scan_blank blank]
      exact inductionHypothesis (place + 1)
  | case3 first position head tail visible inductionHypothesis =>
      rw [Bool.not_eq_true] at visible
      rw [scan_visible visible, scan_visible visible]
      have same := Lexeme.unplaced_read first position place head tail
      cases found : Lexeme.read first position head tail with
      | ok reading =>
          rw [eq_ok_of_unplacedFault_eq same found, bind_of_ok rfl, bind_of_ok rfl,
            unplacedTokens_cons, unplacedTokens_cons,
            inductionHypothesis reading (place + 1 + reading.further)]
          rfl
      | error fault =>
          rw [found] at same
          cases other : Lexeme.read first place head tail with
          | ok reading => rw [other] at same; cases same
          | error fault =>
              rw [other] at same
              exact congrArg Except.error (Except.error.inj same)

/-- A text that has tokens as the beginning of a formula has them further on. -/
theorem scan_further
    {first : Bool}
    {position : Nat}
    {characters : List Char}
    {tokens : List Token}
    (scanned : scan first position characters = .ok tokens)
    (place : Nat) :
    ∃ others : List Token,
      scan false place characters = .ok others ∧
        others.map Token.unplaced = tokens.map Token.unplaced := by
  have later : scan false position characters = .ok tokens := by
    induction first, position, characters using scan.induct generalizing tokens with
    | case1 first position => rwa [scan_nil] at scanned ⊢
    | case2 first position head tail blank inductionHypothesis =>
        rw [scan_blank blank] at scanned ⊢
        exact inductionHypothesis scanned
    | case3 first position head tail visible inductionHypothesis =>
        rw [Bool.not_eq_true] at visible
        rw [scan_visible visible] at scanned ⊢
        obtain ⟨reading, found, behind⟩ := exists_of_bind_eq_ok scanned
        rwa [bind_of_ok (Lexeme.read_further position found)]
  have same := unplaced_scan false position place characters
  rw [later] at same
  cases found : scan false place characters with
  | error fault => rw [found] at same; cases same
  | ok others =>
      rw [found] at same
      exact ⟨others, rfl, (Except.ok.inj same).symm⟩

end FormulaGrid
