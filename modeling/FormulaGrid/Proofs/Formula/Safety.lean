import FormulaGrid.Proofs.Formula.Contract
import FormulaGrid.Proofs.Formula.Lexemes

/-!
Contract: evaluation is closed and finite.

Owns:
- what the reading of usable tokens yields (`TokenLine.yields_read`);
- a text with short superscripts has a finite value, or a fault of one of the families
  of formulas (`evaluate_finite_or_typed`).

The invariant is that every intermediate value is finite. It is kept by each construct
(`arithmetic_keeps`), starts from the tokens (`yields_tokenize`), and goes through every
tree by induction (`Phrase.yields`); a reading that is stuck fails with a fault of the
grammar or with the fault of such a tree (`TokenLine.yields_of_keeps`).
-/

namespace FormulaGrid

/-- The value of usable tokens is finite, or their fault is a typed one. -/
theorem TokenLine.yields_read
    {functions : Elementary}
    (documented : functions.Documented)
    (line : TokenLine)
    (usable : ∀ token ∈ line.tokens, token.lexeme.Usable) :
    Yields IsFinite IsFormulaFault (line.read (arithmetic functions)) :=
  line.yields_of_keeps (arithmetic_keeps documented) (fun cause => ⟨cause, rfl⟩) usable

/-- The value of a text with short superscripts is finite, or its fault a typed one. -/
theorem yields_evaluate
    {functions : Elementary}
    (documented : functions.Documented)
    {text : String}
    (short : ShortSuperscripts text.toList) :
    Yields IsFinite IsFormulaFault (evaluate functions text) :=
  (yields_tokenize short).bind fun line usable => line.yields_read documented usable

/-- The families that the faults of formulas belong to. -/
theorem FormulaFault.family_cases (cause : FormulaFault) :
    cause.family ∈ [Family.parse, .invalidExpression, .numericOverflow, .divisionByZero] ∧
      Family.expression ∈ cause.family.lineage := by
  have wider : ∀ family ∈
      [Family.parse, .invalidExpression, .numericOverflow, .divisionByZero],
      Family.expression ∈ family.lineage := by
    decide
  have member : cause.family ∈
      [Family.parse, .invalidExpression, .numericOverflow, .divisionByZero] := by
    cases cause <;> simp [family]
  exact ⟨member, wider cause.family member⟩

/-- Evaluation is closed and finite. A text none of whose superscripts has more than
308 digits evaluates to a finite double, or to a fault of the formula: of its shape, of
its meaning, of its range, or a division by zero. -/
theorem evaluate_finite_or_typed
    (functions : Elementary)
    (documented : functions.Documented)
    (text : String)
    (short : ShortSuperscripts text.toList) :
    (∃ value : Float, evaluate functions text = .ok value ∧ value.isFinite = true) ∨
      ∃ cause : FormulaFault,
        evaluate functions text = .error (.formula cause) ∧
          cause.family ∈
            [Family.parse, .invalidExpression, .numericOverflow, .divisionByZero] ∧
          Family.expression ∈ cause.family.lineage := by
  have yields := yields_evaluate documented short
  cases evaluated : evaluate functions text with
  | ok value =>
      rw [evaluated] at yields
      exact .inl ⟨value, rfl, yields⟩
  | error fault =>
      rw [evaluated] at yields
      obtain ⟨cause, rfl⟩ := yields
      exact .inr ⟨cause, rfl, cause.family_cases⟩

/-! ## Libraries for sample texts -/

/-- A library that agrees with the machine on the angle zero and on the logarithms and
the powers of one. Elsewhere it answers a number that need not be the right one. -/
def sampleLibrary : Elementary where
  sin _ := .ok 0.0
  cos _ := .ok 1.0
  tan _ := .ok 0.0
  exp _ := .ok 1.0
  ln argument := .ok (if argument == 1.0 then 0.0 else 1.0)
  log2 _ := .ok 0.0
  log10 _ := .ok 0.0
  pow _ _ := .ok 1.0

theorem sampleLibrary_documented : sampleLibrary.Documented where
  sin _ _ := ⟨_, rfl⟩
  cos _ _ := ⟨_, rfl⟩
  tan _ _ := ⟨_, rfl⟩
  log10 _ _ _ := ⟨_, rfl⟩
  ln _ _ _ := ⟨_, rfl⟩
  lnZero argument value answered zero := by
    have same : (if argument == 1.0 then 0.0 else 1.0) = value := Except.ok.inj answered
    by_contra other
    rw [if_neg other] at same
    rw [← same] at zero
    exact absurd zero (by decide +kernel)
  root _ _ _ _ _ _ := ⟨_, rfl⟩

/-- A library with the values of the usual one at the arguments of the formulas for one, and at
first and second powers. -/
def roundedLibrary : Elementary where
  sin argument := .ok (if argument == circleConstant / 5.0 then 0.5877852522924731 else 1.0)
  cos argument := .ok (if argument == circleConstant / 5.0 then 0.8090169943749475 else 1.0)
  tan _ := .ok 0.9999999999999999
  exp _ := .ok 1.0
  ln argument :=
    .ok (if argument == 1.0 then 0.0
      else if argument == 2.0 then 0.6931471805599453
      else if argument == 8.0 then 2.0794415416798357
      else 1.0)
  log2 _ := .ok 3.0
  log10 _ := .ok 1.0
  pow base exponent :=
    .ok (if exponent == 1.0 then base
      else if exponent == 2.0 then base * base
      else if base == 27.0 then 3.0
      else 1.0)

/-- A text with a root, a factorial, a superscript, functions and a quotient. -/
def sampleText : String :=
  "sin(0)+cos(0)!/√16-log(1)·1⁵"

/-- The text evaluates to a finite double or to a fault of the formula. -/
theorem evaluate_sampleText :
    sampleLibrary.Documented ∧
      ShortSuperscripts sampleText.toList ∧
      ((∃ value : Float, evaluate sampleLibrary sampleText = .ok value ∧
          value.isFinite = true) ∨
        ∃ cause : FormulaFault,
          evaluate sampleLibrary sampleText = .error (.formula cause) ∧
            cause.family ∈
              [Family.parse, .invalidExpression, .numericOverflow, .divisionByZero] ∧
            Family.expression ∈ cause.family.lineage) := by
  have short : ShortSuperscripts sampleText.toList := .of_length_le (by decide)
  exact ⟨sampleLibrary_documented, short,
    evaluate_finite_or_typed sampleLibrary sampleLibrary_documented sampleText short⟩

end FormulaGrid
