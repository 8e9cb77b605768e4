import FormulaGrid.Proofs.Formula.Arithmetic
import FormulaGrid.Proofs.Formula.Positions
import FormulaGrid.Proofs.Number.Digits

/-!
Contract: the tokens of a text are usable, or there is a typed fault.

Owns:
- what the runs of raised digits in a text are read as (`RunsRead`);
- the lexeme in front of a text (`Lexeme.yields_read`) and its tokens (`yields_scan`), which
  have no other faults than those of splitting a text (`IsLexicalFault`) and of the runs;
- the texts whose superscripts are in the range of doubles (`ShortSuperscripts`), the runs
  of which have no fault of their own (`yields_tokenize`);
- the fault of a run that is too long (`IsRunFault`), which is of another kind
  (`tokenize_cases`).
-/

namespace FormulaGrid

open Text

/-- Whole numbers with no more digits than this are in the range of doubles. -/
def longestSuperscript : Nat := 308

/-- No run of raised digits in the text is longer than a double can hold. -/
def ShortSuperscripts (characters : List Char) : Prop :=
  ∀ run : List Char, run <:+: characters → (∀ character ∈ run, isSuperscript character = true) →
    run.length ≤ longestSuperscript

theorem ShortSuperscripts.of_infix
    {part characters : List Char}
    (short : ShortSuperscripts characters)
    (within : part <:+: characters) :
    ShortSuperscripts part :=
  fun run inside => short run (inside.trans within)

theorem ShortSuperscripts.of_length_le
    {characters : List Char}
    (brief : characters.length ≤ longestSuperscript) :
    ShortSuperscripts characters :=
  fun _ inside _ => Nat.le_trans inside.length_le brief

theorem power_longestSuperscript_le : 10 ^ longestSuperscript ≤ greatestDouble := by
  decide +kernel

/-- A short run of raised digits is read, as a number in the range of doubles. -/
theorem exists_superscriptValue
    {run : List Char}
    (raised : ∀ character ∈ run, isSuperscript character = true)
    (short : run.length ≤ longestSuperscript) :
    ∃ value : Nat, superscriptValue run = .ok value ∧ value ≤ greatestDouble := by
  have readable : ¬ Numeral.longest < run.length :=
    Nat.not_lt.mpr (Nat.le_trans short (by decide))
  refine ⟨valueOfDigits 10 (digitIndices superscriptDigits run), if_neg readable, ?_⟩
  have small : ∀ digit ∈ digitIndices superscriptDigits run, digit < 10 := by
    intro digit member
    obtain ⟨character, inRun, rfl⟩ := List.mem_map.mp member
    exact List.idxOf_lt_length_of_mem (List.contains_iff_mem.mp (raised character inRun))
  have length : (digitIndices superscriptDigits run).length = run.length := List.length_map _
  calc
    valueOfDigits 10 (digitIndices superscriptDigits run)
        ≤ 10 ^ (digitIndices superscriptDigits run).length :=
      Nat.le_of_lt (valueOfDigits_lt _ small)
    _ ≤ 10 ^ longestSuperscript := by
      rw [length]
      exact Nat.pow_le_pow_right (by decide) short
    _ ≤ greatestDouble := power_longestSuperscript_le

/-- The runs of raised digits in a text are read as finite doubles, or they have one of
the allowed faults. -/
def RunsRead (Allowed : Fault → Prop) (characters : List Char) : Prop :=
  ∀ run : List Char, run <:+: characters → (∀ character ∈ run, isSuperscript character = true) →
    Yields (fun value : Nat => Yields IsFinite Allowed (floatOfInteger value)) Allowed
      (superscriptValue run)

theorem RunsRead.of_infix
    {Allowed : Fault → Prop}
    {part characters : List Char}
    (reads : RunsRead Allowed characters)
    (within : part <:+: characters) :
    RunsRead Allowed part :=
  fun run inside => reads run (inside.trans within)

/-- Short runs have no faults at all. -/
theorem ShortSuperscripts.runsRead
    {characters : List Char}
    (short : ShortSuperscripts characters)
    (Allowed : Fault → Prop) :
    RunsRead Allowed characters := by
  intro run inside raised
  obtain ⟨value, read, small⟩ := exists_superscriptValue raised (short run inside raised)
  have converted : floatOfInteger value = .ok (Float.ofInt value) :=
    Arithmetic.floatOfInteger_of_natAbs_le small
  rw [read]
  show Yields IsFinite Allowed (floatOfInteger value)
  rw [converted]
  exact isFinite_ofNat small

/-- The fault of a run of raised digits that no double holds, or that is too long to be
read at all. It is no fault of the formula. -/
def IsRunFault (fault : Fault) : Prop :=
  fault = .range .integerBeyondFloat ∨
    ∃ digits : Nat, fault = .argument (.overlongNumeral digits)

/-- Other runs have faults of runs only. -/
theorem runsRead_isRunFault
    {Allowed : Fault → Prop}
    (runFaults : ∀ fault, IsRunFault fault → Allowed fault)
    (characters : List Char) :
    RunsRead Allowed characters := by
  intro run _ _
  unfold superscriptValue
  split
  next => exact runFaults _ (.inr ⟨_, rfl⟩)
  next =>
    show Yields IsFinite Allowed (floatOfInteger _)
    unfold floatOfInteger
    split
    next fits => exact fits
    next => exact runFaults _ (.inl rfl)

/-- A decimal without a fraction has a positive sign, however large it is. -/
theorem signOf_floatOfDecimal (digits : List Nat) :
    signOf (parts (floatOfDecimal digits 0)) = some .positive := by
  unfold floatOfDecimal
  dsimp only
  split
  next => rfl
  next notZero =>
    split
    next => rfl
    next =>
      have positive : 0 < valueOfDigits 10 digits := by
        simp only [Bool.or_eq_true, beq_iff_eq, not_or] at notZero
        exact Nat.pos_of_ne_zero notZero.1
      exact signOf_ofNat positive

/-- The fault is one of splitting a text into tokens. -/
inductive IsLexicalFault : Fault → Prop where
  | emptyText : IsLexicalFault (.formula .emptyText)
  | danglingSuperscript (run : String) (position : Nat) :
      IsLexicalFault (.formula (.danglingSuperscript run position))
  | unknownSymbol (symbol : Char) (position : Nat) :
      IsLexicalFault (.formula (.unknownSymbol symbol position))
  | unknownWord (word : String) (position : Nat) :
      IsLexicalFault (.formula (.unknownWord word position))

theorem IsLexicalFault.isFormulaFault {fault : Fault} (lexical : IsLexicalFault fault) :
    IsFormulaFault fault := by
  cases lexical <;> exact ⟨_, rfl⟩

/-- The lexeme of a reading can be used. -/
def Reading.Usable (reading : Reading) : Prop :=
  reading.lexeme.Usable

namespace Lexeme

variable {Allowed : Fault → Prop} (lexical : ∀ fault, IsLexicalFault fault → Allowed fault)

/-- The raised digits at the front of a text are read as all runs in it are. -/
theorem yields_frontValue
    {characters : List Char}
    (reads : RunsRead Allowed characters) :
    Yields (fun value : Nat => Yields IsFinite Allowed (floatOfInteger value)) Allowed
      (superscriptValue (characters.takeWhile isSuperscript)) :=
  reads _ (List.takeWhile_prefix _).isInfix fun _ member => List.mem_takeWhile_imp member

include lexical

/-- A superscript is an exponent or the index of a root, or dangles. -/
theorem yields_readSuperscript
    (first : Bool)
    (position : Nat)
    {characters : List Char}
    (reads : RunsRead Allowed characters) :
    Yields Reading.Usable Allowed (readSuperscript first position characters) := by
  unfold readSuperscript
  refine (yields_frontValue reads).bind fun value converted => ?_
  dsimp only
  split
  next => exact converted.bind fun index finite => finite
  next =>
    cases first with
    | true => exact lexical _ (.danglingSuperscript _ _)
    | false => exact converted.bind fun exponent _ => trivial

omit lexical in
/-- The base of a logarithm that a word is read with is not negative. -/
theorem usable_function
    (name : FunctionName)
    (power : Option Nat)
    (lowered : List Char) :
    Lexeme.Usable (.function name power
      (if lowered.isEmpty then
        none
      else
        some (floatOfDecimal (digitIndices subscriptDigits lowered) 0))) := by
  split
  next => trivial
  next => exact signOf_floatOfDecimal _

/-- A word is a constant, a function that can be applied, or unknown. -/
theorem yields_readWord
    (position : Nat)
    {characters : List Char}
    (reads : RunsRead Allowed characters) :
    Yields Reading.Usable Allowed (readWord position characters) := by
  unfold readWord
  dsimp only
  split
  next => trivial
  next =>
    split
    next => exact lexical _ (.unknownWord _ _)
    next name _ =>
      generalize (if name == .log then
        (characters.dropWhile Char.isAlpha).takeWhile isSubscript else []) = lowered
      have behind :
          RunsRead Allowed ((characters.dropWhile Char.isAlpha).drop lowered.length) :=
        reads.of_infix
          ((List.drop_suffix _ _).isInfix.trans (List.dropWhile_suffix _).isInfix)
      split
      next => exact usable_function name none lowered
      next =>
        have read : Yields (fun _ => True) Allowed (some <$> superscriptValue
            (((characters.dropWhile Char.isAlpha).drop lowered.length).takeWhile
              isSuperscript)) :=
          (yields_frontValue behind).map fun _ _ => trivial
        exact read.bind fun power _ => usable_function name power lowered

theorem yields_readSign (position : Nat) (sign : Char) :
    Yields Reading.Usable Allowed (readSign position sign) := by
  unfold readSign
  dsimp only
  split
  next => trivial
  next =>
    split
    all_goals first
      | trivial
      | rfl
      | exact lexical _ (.unknownSymbol _ _)

/-- The lexeme in front of a text is usable, or its fault is an allowed one. -/
theorem yields_read
    (first : Bool)
    (position : Nat)
    (head : Char)
    (tail : List Char)
    (reads : RunsRead Allowed (head :: tail)) :
    Yields Reading.Usable Allowed (read first position head tail) := by
  unfold read
  dsimp only
  split
  next => trivial
  next =>
    split
    next => exact yields_readSuperscript lexical first position reads
    next =>
      split
      next => exact yields_readWord lexical position reads
      next => exact yields_readSign lexical position head

end Lexeme

/-- The tokens of a text are usable, or its fault is an allowed one: each lexeme is read in
front of a part of the text. -/
theorem yields_scan
    {Allowed : Fault → Prop}
    (lexical : ∀ fault, IsLexicalFault fault → Allowed fault)
    (first : Bool)
    (position : Nat)
    (characters : List Char)
    (reads : RunsRead Allowed characters) :
    Yields (fun tokens => ∀ token ∈ tokens, token.lexeme.Usable) Allowed
      (scan first position characters) := by
  induction first, position, characters using scan.induct with
  | case1 first position =>
      rw [scan_nil]
      exact List.forall_mem_nil _
  | case2 first position head tail blank inductionHypothesis =>
      rw [scan_blank blank]
      exact inductionHypothesis (reads.of_infix (List.suffix_cons head tail).isInfix)
  | case3 first position head tail visible inductionHypothesis =>
      rw [Bool.not_eq_true] at visible
      rw [scan_visible visible]
      refine (Lexeme.yields_read lexical first position head tail reads).bind
        fun reading usable => ?_
      have behind : RunsRead Allowed (tail.drop reading.further) :=
        reads.of_infix
          ((List.drop_suffix _ _).isInfix.trans (List.suffix_cons head tail).isInfix)
      exact (inductionHypothesis reading behind).map fun others othersUsable =>
        List.forall_mem_cons.mpr ⟨usable, othersUsable⟩

/-- So are the tokens of a formula. -/
theorem yields_tokenize_of_reads
    {Allowed : Fault → Prop}
    (lexical : ∀ fault, IsLexicalFault fault → Allowed fault)
    {text : String}
    (reads : RunsRead Allowed text.toList) :
    Yields (fun line => ∀ token ∈ line.tokens, token.lexeme.Usable) Allowed
      (tokenize text) := by
  unfold tokenize
  split
  next => exact lexical _ .emptyText
  next => exact (yields_scan lexical true 0 text.toList reads).map fun _ usable => usable

/-- The tokens of a formula with short superscripts are usable, or its fault is a typed
one. -/
theorem yields_tokenize
    {text : String}
    (short : ShortSuperscripts text.toList) :
    Yields (fun line => ∀ token ∈ line.tokens, token.lexeme.Usable) IsFormulaFault
      (tokenize text) :=
  yields_tokenize_of_reads (fun _ lexical => lexical.isFormulaFault)
    (short.runsRead IsFormulaFault)

/-- A text without usable tokens has a fault of splitting it or of a run. -/
theorem tokenize_cases (text : String) :
    Yields (fun line => ∀ token ∈ line.tokens, token.lexeme.Usable)
      (fun fault => IsLexicalFault fault ∨ IsRunFault fault) (tokenize text) :=
  yields_tokenize_of_reads (fun _ lexical => .inl lexical)
    (runsRead_isRunFault (fun _ run => .inr run) text.toList)

end FormulaGrid
