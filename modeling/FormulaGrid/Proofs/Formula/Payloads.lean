import FormulaGrid.Proofs.Formula.Safety
import FormulaGrid.Proofs.Formula.Spans

/-!
Contract: the numbers that the tokens of a formula with a value carry.

Owns:
- what each construct needs of its lexemes to have a value (`Interpretation.Needs`), and so has
  every expression with a value (`Phrase.fits`);
- what a lexeme carries is the double of what its span writes (`Lexeme.ofSpan?_writes`);
- in a text with a value every number, constant, exponent and index is finite, and every power
  is in the range of doubles; a base of the logarithm may be infinite (`evaluate_payloads`);
- a logarithm to an infinite base is zero (`Arithmetic.logarithm_of_isInf`).

Exponents and indices are converted in the lexer, which refuses what no double holds. Numbers
become infinite there and are refused where they are used. A base becomes infinite too, and
nothing refuses it: only the quotient by its logarithm is checked, which is finite.
-/

namespace FormulaGrid

open Text

/-! ## What a value needs -/

/-- A construct has a value only if the lexeme that it is made of is fit. -/
structure Interpretation.Needs
    {Value : Type}
    (meaning : Interpretation Value)
    (Fit : Lexeme → Prop) :
    Prop where
  number : ∀ (token : Token) (value : Float) (worth : Value),
    meaning.literal token value = .ok worth → Fit (.number value)
  constant : ∀ (token : Token) (value : Float) (worth : Value),
    meaning.literal token value = .ok worth → Fit (.constant value)
  superscript : ∀ (base : Value) (exponent : Float) (worth : Value),
    meaning.superscript base exponent = .ok worth → Fit (.superscript exponent)
  root : ∀ (index : Float) (radicand worth : Value),
    meaning.root index radicand = .ok worth → Fit (.root index)
  function : ∀ name power base (argument worth : Value),
    meaning.apply name power base argument = .ok worth → Fit (.function name power base)
  operator : ∀ symbol, Fit (.operator symbol)
  factorial : Fit .factorial
  leftParenthesis : Fit .leftParenthesis
  rightParenthesis : Fit .rightParenthesis
  bar : Fit .bar

namespace Phrase

variable {Value : Type} {meaning : Interpretation Value} {Fit : Lexeme → Prop}

/-- The phrase has a value; a repetition, behind some value. -/
def HasValue (meaning : Interpretation Value) :
    {category : Category} → Phrase category → Prop
  | .terms, phrase | .factors, phrase | .postfixes, phrase =>
      ∃ start worth : Value, phrase.value meaning start = .ok worth
  | .sum, phrase | .product, phrase | .signed, phrase | .power, phrase
  | .postfixed, phrase | .primary, phrase =>
      ∃ worth : Value, phrase.value meaning = .ok worth

/-- The lexemes of a phrase that has a value are fit. -/
theorem fits
    (needs : meaning.Needs Fit)
    {category : Category}
    (phrase : Phrase category)
    (hasValue : phrase.HasValue meaning) :
    ∀ token ∈ phrase.tokens, Fit token.lexeme := by
  -- By induction on the phrase: its parts have values, or it would have none.
  induction phrase with
  | sum first others firstFits othersFit
  | product first others firstFits othersFit
  | postfixed first others firstFits othersFit =>
      obtain ⟨worth, same⟩ := hasValue
      obtain ⟨start, found, behind⟩ := exists_of_bind_eq_ok same
      exact List.forall_mem_append.mpr ⟨firstFits ⟨start, found⟩, othersFit ⟨start, worth, behind⟩⟩
  | noTerms | noFactors | noPostfixes => exact List.forall_mem_nil _
  | plus sign term others termFits othersFit
  | minus sign term others termFits othersFit
  | times sign term others termFits othersFit
  | dividedBy sign term others termFits othersFit =>
      obtain ⟨start, worth, same⟩ := hasValue
      obtain ⟨right, found, combined⟩ := exists_of_bind_eq_ok same
      obtain ⟨total, -, behind⟩ := exists_of_bind_eq_ok combined
      exact List.forall_mem_cons.mpr ⟨needs.operator _, List.forall_mem_append.mpr
        ⟨termFits ⟨right, found⟩, othersFit ⟨total, worth, behind⟩⟩⟩
  | negated sign operand operandFits =>
      obtain ⟨worth, same⟩ := hasValue
      obtain ⟨inside, found, -⟩ := exists_of_bind_eq_ok same
      exact List.forall_mem_cons.mpr ⟨needs.operator _, operandFits ⟨inside, found⟩⟩
  | unsigned power powerFits => exact powerFits hasValue
  | unraised base baseFits => exact baseFits hasValue
  | raised base sign exponent baseFits exponentFits =>
      obtain ⟨worth, same⟩ := hasValue
      obtain ⟨lower, foundBase, behind⟩ := exists_of_bind_eq_ok same
      obtain ⟨upper, foundExponent, -⟩ := exists_of_bind_eq_ok behind
      exact List.forall_mem_append.mpr ⟨baseFits ⟨lower, foundBase⟩,
        List.forall_mem_cons.mpr ⟨needs.operator _, exponentFits ⟨upper, foundExponent⟩⟩⟩
  | factorial mark others othersFit =>
      obtain ⟨start, worth, same⟩ := hasValue
      obtain ⟨product, -, behind⟩ := exists_of_bind_eq_ok same
      exact List.forall_mem_cons.mpr ⟨needs.factorial, othersFit ⟨product, worth, behind⟩⟩
  | superscript mark exponent others othersFit =>
      obtain ⟨start, worth, same⟩ := hasValue
      obtain ⟨raised, found, behind⟩ := exists_of_bind_eq_ok same
      exact List.forall_mem_cons.mpr
        ⟨needs.superscript start exponent raised found, othersFit ⟨raised, worth, behind⟩⟩
  | number mark value =>
      obtain ⟨worth, same⟩ := hasValue
      exact List.forall_mem_singleton.mpr (needs.number _ value worth same)
  | constant mark value =>
      obtain ⟨worth, same⟩ := hasValue
      exact List.forall_mem_singleton.mpr (needs.constant _ value worth same)
  | group opening inner closing innerFits =>
      exact List.forall_mem_cons.mpr ⟨needs.leftParenthesis, List.forall_mem_append.mpr
        ⟨innerFits hasValue, List.forall_mem_singleton.mpr needs.rightParenthesis⟩⟩
  | bars opening inner closing innerFits =>
      obtain ⟨worth, same⟩ := hasValue
      obtain ⟨inside, found, -⟩ := exists_of_bind_eq_ok same
      exact List.forall_mem_cons.mpr ⟨needs.bar, List.forall_mem_append.mpr
        ⟨innerFits ⟨inside, found⟩, List.forall_mem_singleton.mpr needs.bar⟩⟩
  | application word name power base opening argument closing argumentFits =>
      obtain ⟨worth, same⟩ := hasValue
      obtain ⟨inside, found, applied⟩ := exists_of_bind_eq_ok same
      exact List.forall_mem_cons.mpr ⟨needs.function name power base inside worth applied,
        List.forall_mem_cons.mpr ⟨needs.leftParenthesis, List.forall_mem_append.mpr
          ⟨argumentFits ⟨inside, found⟩, List.forall_mem_singleton.mpr needs.rightParenthesis⟩⟩⟩
  | root mark index radicand radicandFits =>
      obtain ⟨worth, same⟩ := hasValue
      obtain ⟨inside, found, rooted⟩ := exists_of_bind_eq_ok same
      exact List.forall_mem_cons.mpr
        ⟨needs.root index inside worth rooted, radicandFits ⟨inside, found⟩⟩

end Phrase

/-! ## What the arithmetic needs -/

/-- A number or constant is finite, and a power is in the range of doubles. -/
def Lexeme.InRange : Lexeme → Prop
  | .number value | .constant value => IsFinite value
  | .function _ (some power) _ => fitsFloat power = true
  | _ => True

namespace Arithmetic

theorem isFinite_of_checked
    {operation : String}
    {value worth : Float}
    (same : checked operation value = .ok worth) :
    IsFinite value := by
  unfold checked at same
  split at same
  next finite => exact finite
  next => cases same

/-- A function is raised only to a power that is in the range of doubles. -/
theorem fitsFloat_of_apply
    {functions : Elementary}
    {name : FunctionName}
    {power : Nat}
    {base : Option Float}
    {argument worth : Float}
    (same : apply functions name (some power) base argument = .ok worth) :
    fitsFloat power = true := by
  obtain ⟨plain, -, behind⟩ := exists_of_bind_eq_ok same
  obtain ⟨raised, found, -⟩ := exists_of_bind_eq_ok behind
  by_contra beyond
  have refused : raiseNatural functions plain power =
      .error (.formula (.powerOverflow plain (.int power))) := by
    rw [raiseNatural, Number.toFloat?, if_neg beyond]
  cases found.symm.trans refused

end Arithmetic

open Arithmetic in
theorem arithmetic_needs (functions : Elementary) :
    (arithmetic functions).Needs Lexeme.InRange where
  number _ _ _ same := isFinite_of_checked same
  constant _ _ _ same := isFinite_of_checked same
  superscript _ _ _ _ := trivial
  root _ _ _ _ := trivial
  function name power base argument worth same := by
    cases power with
    | none => trivial
    | some power => exact fitsFloat_of_apply same
  operator _ := trivial
  factorial := trivial
  leftParenthesis := trivial
  rightParenthesis := trivial
  bar := trivial

/-! ## What the lexer makes of digits -/

/-- The integer that a run of raised digits writes. -/
def raisedInteger (run : List Char) : Nat :=
  valueOfDigits 10 (digitIndices superscriptDigits run)

/-- The run consists of digits of one alphabet. -/
def IsRun (digit : Char → Bool) (run : List Char) : Prop :=
  ∀ character ∈ run, digit character = true

/-- The double is that of the integer that raised digits write, which has one. -/
def IsRaised (run : List Char) (value : Float) : Prop :=
  IsRun isSuperscript run ∧
    fitsFloat (raisedInteger run) = true ∧
    value = Float.ofInt (raisedInteger run)

/-- The span writes what the lexeme carries. A number is the double of its numeral, an exponent
or index that of its raised digits; a root sign without them has its own. Behind the name of
a function stand the lowered digits of its base, if it is the logarithm, and the raised ones of
its power. -/
def Lexeme.Writes (span : List Char) : Lexeme → Prop
  | .number value => value = numeralValue span
  | .constant value =>
      (span, value) ∈ [(['e'], naturalBase), (['π'], circleConstant), (['φ'], goldenRatio)]
  | .superscript exponent => IsRaised span exponent
  | .root index =>
      ∃ (run : List Char) (sign : Char),
        span = run ++ [sign] ∧
          (run = [] ∧ (sign, index) ∈ [('√', 2.0), ('∛', 3.0), ('∜', 4.0)] ∨
            sign = '√' ∧ IsRaised run index)
  | .function name power base =>
      ∃ letters lowered raised : List Char,
        span = letters ++ (lowered ++ raised) ∧
          String.ofList letters = name.word ∧
          (lowered = [] ∨ name = .log) ∧
          IsRun isSubscript lowered ∧
          IsRun isSuperscript raised ∧
          power = (if raised.isEmpty then none else some (raisedInteger raised)) ∧
          base = (if lowered.isEmpty then
            none
          else
            some (floatOfDecimal (digitIndices subscriptDigits lowered) 0))
  | _ => True

namespace Lexeme

theorem superscriptValue_eq {run : List Char} {value : Nat}
    (found : superscriptValue run = .ok value) :
    value = raisedInteger run := by
  unfold superscriptValue at found
  split at found
  · cases found
  · exact (Except.ok.inj found).symm

theorem isRaised_of_floatOfInteger
    {run : List Char}
    {value : Nat}
    {converted : Float}
    (raised : IsRun isSuperscript run)
    (found : superscriptValue run = .ok value)
    (same : floatOfInteger value = .ok converted) :
    IsRaised run converted := by
  obtain rfl := superscriptValue_eq found
  unfold floatOfInteger at same
  split at same
  next fits => exact ⟨raised, fits, (Except.ok.inj same).symm⟩
  next => cases same

theorem writes_readSuperscript
    {first : Bool}
    {position : Nat}
    {head : Char}
    {tail : List Char}
    {reading : Reading}
    (raised : isSuperscript head = true)
    (found : readSuperscript first position (head :: tail) = .ok reading)
    (whole : reading.further = tail.length) :
    reading.lexeme.Writes (head :: tail) := by
  have isRun : IsRun isSuperscript ((head :: tail).takeWhile isSuperscript) :=
    fun _ => List.mem_takeWhile_imp
  have parts := List.takeWhile_append_dropWhile (p := isSuperscript) (l := head :: tail)
  have lengths := congrArg List.length parts
  rw [List.length_append, List.length_cons] at lengths
  have nonempty := length_run_pos raised tail
  have further := further_readSuperscript found
  rw [whole] at further
  rw [readSuperscript_eq] at found
  obtain ⟨value, denoted, behind⟩ := exists_of_bind_eq_ok found
  split at behind
  next sign =>
    rw [if_pos sign] at further
    obtain ⟨rest, starts⟩ := List.head?_eq_some_iff.mp sign
    rw [starts] at parts lengths
    obtain rfl : rest = [] := List.length_eq_zero_iff.mp (by rw [List.length_cons] at lengths; omega)
    obtain ⟨index, converted, rfl⟩ := exists_of_map_eq_ok behind
    exact ⟨_, '√', parts.symm, .inr ⟨rfl, isRaised_of_floatOfInteger isRun denoted converted⟩⟩
  next other =>
    rw [if_neg other] at further
    have nothing : (head :: tail).dropWhile isSuperscript = [] :=
      List.length_eq_zero_iff.mp (by omega)
    rw [nothing, List.append_nil] at parts
    split at behind
    · cases behind
    · obtain ⟨exponent, converted, rfl⟩ := exists_of_map_eq_ok behind
      have isRaised := isRaised_of_floatOfInteger isRun denoted converted
      rwa [parts] at isRaised

theorem loweredSpan_cases (name : FunctionName) (behind : List Char) :
    (loweredSpan name behind = [] ∨ name = .log) ∧ IsRun isSubscript (loweredSpan name behind) := by
  unfold loweredSpan
  split
  next isLog => exact ⟨.inr (eq_of_beq isLog), fun _ => List.mem_takeWhile_imp⟩
  next => exact ⟨.inl rfl, List.forall_mem_nil _⟩

theorem writes_readFunction
    {name : FunctionName}
    {characters : List Char}
    {reading : Reading}
    (isName : FunctionName.ofWord? (String.ofList (characters.takeWhile Char.isAlpha)) = some name)
    (found : readFunction name (characters.takeWhile Char.isAlpha)
      (loweredSpan name (characters.dropWhile Char.isAlpha))
      (raisedSpan name (characters.dropWhile Char.isAlpha)) = .ok reading)
    (whole : characters =
      characters.takeWhile Char.isAlpha ++
        (loweredSpan name (characters.dropWhile Char.isAlpha) ++
          raisedSpan name (characters.dropWhile Char.isAlpha))) :
    reading.lexeme.Writes characters := by
  have word : (name.word == String.ofList (characters.takeWhile Char.isAlpha)) = true :=
    List.find?_some (p := fun name : FunctionName =>
      name.word == String.ofList (characters.takeWhile Char.isAlpha)) isName
  obtain ⟨onlyLog, lowered⟩ := loweredSpan_cases name (characters.dropWhile Char.isAlpha)
  obtain ⟨power, denoted, rfl⟩ := exists_of_map_eq_ok found
  refine ⟨_, _, _, whole, (beq_iff_eq.mp word).symm, onlyLog, lowered,
    fun _ => List.mem_takeWhile_imp, ?_, rfl⟩
  split at denoted
  next unraised =>
    rw [if_pos unraised]
    exact (Except.ok.inj denoted).symm
  next raised =>
    rw [if_neg raised]
    obtain ⟨value, read, rfl⟩ := exists_of_map_eq_ok denoted
    rw [superscriptValue_eq read]

theorem writes_readWord
    {position : Nat}
    {head : Char}
    {tail : List Char}
    {reading : Reading}
    (letter : head.isAlpha = true)
    (found : readWord position (head :: tail) = .ok reading)
    (whole : reading.further = tail.length) :
    reading.lexeme.Writes (head :: tail) := by
  have parts := List.takeWhile_append_dropWhile (p := Char.isAlpha) (l := head :: tail)
  have nonempty := length_run_pos letter tail
  rw [readWord_eq] at found
  split at found
  next isBase =>
    cases found
    obtain rfl := List.length_eq_zero_iff.mp whole.symm
    rw [List.takeWhile_cons_of_pos letter, List.takeWhile_nil, beq_iff_eq] at isBase
    obtain rfl : head = 'e' := List.singleton_inj.mp (String.ofList_injective isBase)
    exact List.mem_cons_self
  next =>
    split at found
    next => cases found
    next name isName =>
      obtain ⟨⟨rest, digits⟩, -⟩ :=
        exists_digitSpans name ((head :: tail).dropWhile Char.isAlpha)
      have further := further_readFunction found
      have lengths := congrArg List.length parts
      rw [digits, List.length_append, List.length_append, List.length_append,
        List.length_cons] at lengths
      obtain rfl : rest = [] := List.length_eq_zero_iff.mp (by omega)
      rw [List.append_nil] at digits
      refine writes_readFunction isName found ?_
      rw [← digits, parts]

theorem writes_rootSign
    {sign : Char}
    {index : Float}
    (listed : (sign, index) ∈ [('√', 2.0), ('∛', 3.0), ('∜', 4.0)]) :
    Writes [sign] (.root index) :=
  ⟨[], sign, rfl, .inl ⟨rfl, listed⟩⟩

theorem writes_readSign
    {position : Nat}
    {sign : Char}
    {reading : Reading}
    (found : readSign position sign = .ok reading) :
    reading.lexeme.Writes [sign] := by
  unfold readSign at found
  dsimp only at found
  split at found
  next => cases found; trivial
  next =>
    split at found <;> cases found
    -- In the order of the alphabet: two constants, three roots, and what carries nothing.
    · exact .tail _ (.head _)
    · exact .tail _ (.tail _ (.head _))
    · exact writes_rootSign (.head _)
    · exact writes_rootSign (.tail _ (.head _))
    · exact writes_rootSign (.tail _ (.tail _ (.head _)))
    all_goals trivial

/-- A span that is a lexeme writes what the lexeme carries. -/
theorem ofSpan?_writes
    {span : List Char}
    {lexeme : Lexeme}
    {text : String}
    (isLexeme : ofSpan? span = some (lexeme, text)) :
    lexeme.Writes span := by
  cases span with
  | nil => cases isLexeme
  | cons head tail =>
      dsimp only [ofSpan?] at isLexeme
      split at isLexeme
      next reading found =>
        split at isLexeme
        next whole =>
          cases isLexeme
          unfold read at found
          dsimp only at found
          split at found
          next numeral =>
            cases found
            have nonempty : 0 < (numeralSpan (head :: tail)).length := by
              simpa [List.length_pos_iff] using numeral
            have same : numeralSpan (head :: tail) = head :: tail :=
              (numeralSpan_isPrefix _).eq_of_length (by
                dsimp only at whole
                rw [List.length_cons]
                omega)
            exact congrArg numeralValue same
          next =>
            split at found
            next raised => exact writes_readSuperscript raised found whole
            next =>
              split at found
              next letter => exact writes_readWord letter found whole
              next =>
                have single := further_readSign found
                rw [whole, List.length_eq_zero_iff] at single
                rw [single]
                exact writes_readSign found
        next => cases isLexeme
      next => cases isLexeme

/-- The doubles that a lexeme carries. A power is not among them, which stays an integer. -/
def payloads : Lexeme → List Float
  | .number value | .constant value | .superscript value | .root value => [value]
  | .function _ _ base => base.toList
  | _ => []

theorem isFinite_of_isRaised {run : List Char} {value : Float} (raised : IsRaised run value) :
    IsFinite value := by
  obtain ⟨-, fits, rfl⟩ := raised
  exact fits

theorem isFinite_of_rootSign
    {sign : Char}
    {index : Float}
    (listed : (sign, index) ∈ [('√', 2.0), ('∛', 3.0), ('∜', 4.0)]) :
    IsFinite index := by
  simp only [List.mem_cons, Prod.mk.injEq, List.not_mem_nil, or_false] at listed
  rcases listed with ⟨-, rfl⟩ | ⟨-, rfl⟩ | ⟨-, rfl⟩ <;> exact rfl

/-- The base of a logarithm is a number, which lowered digits may write too large. -/
theorem isFinite_or_isInf_of_signOf
    {value : Float}
    (positive : signOf (parts value) = some .positive) :
    IsFinite value ∨ value.isInf = true := by
  show (parts value).isFinite = true ∨ (parts value).isInf = true
  cases same : parts value with
  | notANumber => rw [same] at positive; cases positive
  | infinity => exact .inr rfl
  | zero | finite => exact .inl rfl

/-- What a fit lexeme carries is finite, but for the base of a logarithm. -/
theorem finite_payloads
    {span : List Char}
    {lexeme : Lexeme}
    (writes : lexeme.Writes span)
    (inRange : lexeme.InRange) :
    (∀ payload ∈ lexeme.payloads, IsFinite payload) ∨
      ∃ (power : Option Nat) (base : Float),
        lexeme = .function .log power (some base) ∧ base.isInf = true := by
  cases lexeme with
  | number value | constant value => exact .inl (List.forall_mem_singleton.mpr inRange)
  | superscript exponent =>
      exact .inl (List.forall_mem_singleton.mpr (isFinite_of_isRaised writes))
  | root index =>
      obtain ⟨run, sign, -, ⟨-, listed⟩ | ⟨-, raised⟩⟩ := writes
      · exact .inl (List.forall_mem_singleton.mpr (isFinite_of_rootSign listed))
      · exact .inl (List.forall_mem_singleton.mpr (isFinite_of_isRaised raised))
  | function name power base =>
      obtain ⟨letters, lowered, raised, -, -, onlyLog, -, -, -, rfl⟩ := writes
      split
      next => exact .inl (List.forall_mem_nil _)
      next nonempty =>
        obtain rfl := onlyLog.resolve_left fun nothing => nonempty (List.isEmpty_iff.mpr nothing)
        rcases isFinite_or_isInf_of_signOf
          (signOf_floatOfDecimal (digitIndices subscriptDigits lowered)) with finite | infinite
        · exact .inl (List.forall_mem_singleton.mpr finite)
        · exact .inr ⟨power, _, rfl, infinite⟩
  | operator | factorial | leftParenthesis | rightParenthesis | bar =>
      exact .inl (List.forall_mem_nil _)

end Lexeme

/-! ## Texts with a value -/

/-- The lexemes of a formula with a value are fit. -/
theorem TokenLine.fits
    {functions : Elementary}
    {Fit : Lexeme → Prop}
    (needs : (arithmetic functions).Needs Fit)
    {line : TokenLine}
    {value : Float}
    (same : line.read (arithmetic functions) = .ok value) :
    ∀ token ∈ line.tokens, Fit token.lexeme := by
  rcases line.read_decides with
    ⟨tree, derived, -, reads⟩ | ⟨before, stuck, fault, -, -, fails⟩
  · rw [← derived]
    exact tree.fits needs ⟨value, (reads Float (arithmetic functions)).symm.trans same⟩
  · obtain ⟨found, failed, -⟩ := fails Float (arithmetic functions)
    cases failed.symm.trans same

/-- In a text with a value, each token carries what its span writes. Numbers, constants,
exponents and indices are finite doubles, and powers are in the range of doubles. Only the base
of a logarithm may be infinite: its digits may write a number that no double holds. -/
theorem evaluate_payloads
    (functions : Elementary)
    {text : String}
    {value : Float}
    (evaluated : evaluate functions text = .ok value) :
    ∃ (line : TokenLine) (pieces : List SpannedToken),
      tokenize text = .ok line ∧
        pieces.map SpannedToken.token = line.tokens ∧
        Covers 0 text.toList pieces ∧
        ∀ piece ∈ pieces,
          piece.token.lexeme.Writes piece.span ∧
            piece.token.lexeme.InRange ∧
            ((∀ payload ∈ piece.token.lexeme.payloads, IsFinite payload) ∨
              ∃ (power : Option Nat) (base : Float),
                piece.token.lexeme = .function .log power (some base) ∧ base.isInf = true) := by
  obtain ⟨line, tokenized, read⟩ := exists_of_bind_eq_ok evaluated
  obtain ⟨pieces, same, covers⟩ := scan_covers (scan_of_tokenize tokenized).1
  have inRange := line.fits (arithmetic_needs functions) read
  rw [← same] at inRange
  refine ⟨line, pieces, tokenized, same, covers, fun piece member => ?_⟩
  have writes := Lexeme.ofSpan?_writes (covers.lexeme piece member)
  have fits := inRange piece.token (List.mem_map_of_mem member)
  exact ⟨writes, fits, Lexeme.finite_payloads writes fits⟩

/-- A sum with a constant, a number, an exponent, an index and a base: each is what its span
writes. The library has the right powers and logarithms for it. -/
theorem evaluate_payloads_sample :
    ∃ (value : Float) (line : TokenLine) (pieces : List SpannedToken),
      evaluate roundedLibrary "π·2.5²+³√27-log₂²(8)" = .ok value ∧
        tokenize "π·2.5²+³√27-log₂²(8)" = .ok line ∧
        pieces.map SpannedToken.token = line.tokens ∧
        Covers 0 "π·2.5²+³√27-log₂²(8)".toList pieces ∧
        ∀ piece ∈ pieces,
          piece.token.lexeme.Writes piece.span ∧
            piece.token.lexeme.InRange ∧
            ((∀ payload ∈ piece.token.lexeme.payloads, IsFinite payload) ∨
              ∃ (power : Option Nat) (base : Float),
                piece.token.lexeme = .function .log power (some base) ∧ base.isInf = true) := by
  have hasValue : (evaluate roundedLibrary "π·2.5²+³√27-log₂²(8)").toBool = true := by
    decide +kernel
  cases evaluated : evaluate roundedLibrary "π·2.5²+³√27-log₂²(8)" with
  | error fault => rw [evaluated] at hasValue; cases hasValue
  | ok value =>
      obtain ⟨line, pieces, holds⟩ := evaluate_payloads roundedLibrary evaluated
      exact ⟨value, line, pieces, rfl, holds⟩

/-! ## An infinite base -/

/-- Nothing refuses an infinite base: where its logarithm is infinite, any logarithm to it is
zero. -/
theorem Arithmetic.logarithm_of_isInf
    {functions : Elementary}
    {base argument dividend divisor : Float}
    (infinite : base.isInf = true)
    (positive : signOf (parts base) = some .positive)
    (argumentPositive : ¬ argument ≤ 0.0)
    (ofArgument : functions.ln argument = .ok dividend)
    (finite : IsFinite dividend)
    (ofBase : functions.ln base = .ok divisor)
    (divisorInfinite : divisor.isInf = true) :
    ∃ value : Float,
      logarithm functions .log (some base) argument = .ok value ∧
        ∃ sign, parts value = .zero sign := by
  refine ⟨dividend / divisor, ?_, parts_div_infinite finite divisorInfinite⟩
  have fit : ¬ (decide (base ≤ 0.0) || base == 1.0) = true := by
    rw [beq_eq_false_of_isInf infinite rfl, Bool.or_false, decide_eq_true_iff]
    exact not_le_zero_of_isInf infinite positive
  have divides : ¬ (divisor == 0.0) = true := by
    rw [beq_eq_false_of_isInf divisorInfinite isFinite_zero]
    exact Bool.false_ne_true
  unfold logarithm
  rw [if_neg argumentPositive]
  dsimp only
  rw [if_neg fit, ofArgument, ofBase]
  exact if_neg divides

/-- A library whose logarithm is right at one, at two and at infinity. -/
def logarithmLibrary : Elementary where
  __ := sampleLibrary
  ln argument :=
    .ok (if argument == 1.0 then 0.0 else if argument.isInf then argument else 0.6931471805599453)

theorem logarithmLibrary_documented : logarithmLibrary.Documented where
  sin := sampleLibrary_documented.sin
  cos := sampleLibrary_documented.cos
  tan := sampleLibrary_documented.tan
  log10 := sampleLibrary_documented.log10
  root := sampleLibrary_documented.root
  ln _ _ _ := ⟨_, rfl⟩
  lnZero argument value answered zero := by
    have same : (if argument == 1.0 then 0.0
        else if argument.isInf then argument else 0.6931471805599453) = value :=
      Except.ok.inj answered
    by_contra other
    rw [if_neg other] at same
    split at same
    next infinite =>
      rw [← same, beq_eq_false_of_isInf infinite isFinite_zero] at zero
      cases zero
    next =>
      rw [← same] at zero
      exact absurd zero (by decide +kernel)

/-- A logarithm of two whose base has 310 digits. -/
def overlargeCharacters : List Char :=
  ['l', 'o', 'g', '₁'] ++ List.replicate 309 '₀' ++ ['(', '2', ')']

/-- A base that is too large for a double is not refused: the text has the value zero, and a
token that carries infinity. -/
theorem evaluate_overlargeBase :
    logarithmLibrary.Documented ∧
      evaluate logarithmLibrary (String.ofList overlargeCharacters) = .ok 0.0 ∧
      ∃ line : TokenLine,
        tokenize (String.ofList overlargeCharacters) = .ok line ∧
          ∃ token ∈ line.tokens, ∃ payload ∈ token.lexeme.payloads, ¬ IsFinite payload := by
  have checked : (match scan true 0 overlargeCharacters with
      | .ok tokens =>
          decide ((TokenLine.read (arithmetic logarithmLibrary) ⟨tokens, 316⟩).toOption = some 0.0)
            && tokens.any fun token => token.lexeme.payloads.any fun payload => !payload.isFinite
      | .error _ => false) = true := by
    decide +kernel
  have visible : allBlank overlargeCharacters = false := by rfl
  have length : (String.ofList overlargeCharacters).length = 316 := by
    rw [String.length_ofList, overlargeCharacters, List.length_append, List.length_append,
      List.length_replicate]
    rfl
  cases scanned : scan true 0 overlargeCharacters with
  | error fault => rw [scanned] at checked; cases checked
  | ok tokens =>
      simp only [scanned, Bool.and_eq_true, decide_eq_true_eq] at checked
      obtain ⟨worth, infinite⟩ := checked
      have tokenized : tokenize (String.ofList overlargeCharacters) = .ok ⟨tokens, 316⟩ := by
        unfold tokenize
        rw [String.toList_ofList, visible, scanned, length]
        rfl
      obtain ⟨token, member, carries⟩ := List.any_eq_true.mp infinite
      obtain ⟨payload, carried, notFinite⟩ := List.any_eq_true.mp carries
      refine ⟨logarithmLibrary_documented, ?_, _, tokenized, token, member, payload, carried, ?_⟩
      · rw [evaluate, tokenized]
        exact eq_ok_of_toOption worth
      · simpa [IsFinite] using notFinite

end FormulaGrid
