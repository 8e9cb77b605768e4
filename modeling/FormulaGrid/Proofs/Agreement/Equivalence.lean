import FormulaGrid.Proofs.Agreement
import FormulaGrid.Proofs.Formula.Safety
import FormulaGrid.Proofs.Formula.Values
import FormulaGrid.Proofs.Number.Distance

/-!
Contract: the comparison of two formulas is one relation with the comparison of a formula and a
number.

Owns:
- the texts that evaluation answers for (`Answered`);
- the relation that a tolerance draws between two outcomes of evaluation (`Number.covers`): it is
  symmetric, holds of a finite value and itself, grows with the tolerance, and holds of no two
  values with an infinite distance;
- both comparisons test this relation (`equivalent_eq_covers`, `verify_eq_covers`), and so they
  cohere (`equivalent_coherent`).

A formula is compared with itself at no distance because its value is finite, and for no other
reason: an infinity would be off from itself by no number.
-/

namespace FormulaGrid

/-- Evaluation gives the text a value, or a typed reason why it has none. -/
abbrev Answered (functions : Elementary) (text : String) : Prop :=
  Yields (fun _ => True) IsFormulaFault (evaluate functions text)

theorem Answered.cases
    {functions : Elementary}
    {text : String}
    (answered : Answered functions text) :
    (∃ value : Float, evaluate functions text = .ok value) ∨
      ∃ cause : FormulaFault, evaluate functions text = .error (.formula cause) := by
  unfold Answered at answered
  cases evaluated : evaluate functions text with
  | ok value => exact .inl ⟨value, rfl⟩
  | error fault =>
      rw [evaluated] at answered
      obtain ⟨cause, rfl⟩ := answered
      exact .inr ⟨cause, rfl⟩

/-- Under a documented library every text with short superscripts is answered for. -/
theorem answered_of_documented
    {functions : Elementary}
    (documented : functions.Documented)
    {text : String}
    (short : ShortSuperscripts text.toList) :
    Answered functions text :=
  (yields_evaluate documented short).imp fun _ _ => trivial

/-- Of a text that evaluation answers for it is told whether it has a value. -/
theorem Answered.isValid_eq
    {functions : Elementary}
    {text : String}
    (answered : Answered functions text) :
    isValid functions text = .ok (evaluate functions text).toBool := by
  unfold isValid attempt
  rcases answered.cases with ⟨value, evaluated⟩ | ⟨cause, evaluated⟩ <;> rw [evaluated] <;> rfl

namespace Number

/-- Both outcomes are values, and these are off from each other by less than the tolerance. -/
def covers (tolerance : Number) : Except Fault Float → Except Fault Float → Bool
  | .ok left, .ok right => tolerance.exceeds (left - right).abs
  | .ok _, .error _ => false
  | .error _, _ => false

section

variable {tolerance : Number}

theorem covers_comm (left right : Except Fault Float) :
    tolerance.covers left right = tolerance.covers right left := by
  cases left with
  | error => cases right <;> rfl
  | ok left =>
      cases right with
      | error => rfl
      | ok right => exact congrArg tolerance.exceeds (abs_sub_comm left right)

theorem covers_of_fault
    {left right : Except Fault Float}
    {fault : Fault}
    (failed : left = .error fault ∨ right = .error fault) :
    tolerance.covers left right = false := by
  rcases failed with rfl | rfl
  · rfl
  · cases left <;> rfl

theorem covers_of_atMost
    {wider : Number}
    {left right : Except Fault Float}
    (atMost : tolerance.AtMost wider)
    (covered : tolerance.covers left right = true) :
    wider.covers left right = true := by
  cases left with
  | error => cases covered
  | ok left =>
      cases right with
      | error => cases covered
      | ok right => exact exceeds_mono atMost covered

/-- A finite value is covered together with itself by every tolerance. -/
theorem IsTolerance.covers_self
    (usable : tolerance.IsTolerance)
    {outcome : Except Fault Float}
    (finite : ∀ value : Float, outcome = .ok value → value.isFinite = true) :
    tolerance.covers outcome outcome = outcome.toBool := by
  cases outcome with
  | error => rfl
  | ok value =>
      show tolerance.exceeds (value - value).abs = true
      rw [abs_sub_self_eq (finite value rfl)]
      exact usable.exceeds_zero

/-- No tolerance covers two values whose difference leaves the range of doubles. -/
theorem IsTolerance.not_covers_of_isInf
    (usable : tolerance.IsTolerance)
    {left right : Float}
    (infinite : (left - right).isInf = true) :
    tolerance.covers (.ok left) (.ok right) = false := by
  obtain ⟨units, count⟩ := usable.2.exists_units
  exact not_exceeds_abs_of_isInf count infinite

end

end Number

section

variable {functions : Elementary} {first second : String} {tolerance : Number}

/-- The direct comparison of two formulas tests the relation. -/
theorem equivalent_eq_covers
    (firstAnswered : Answered functions first)
    (secondAnswered : Answered functions second)
    (usable : tolerance.IsTolerance) :
    equivalent functions first second tolerance =
      .ok (tolerance.covers (evaluate functions first) (evaluate functions second)) := by
  unfold equivalent attempt
  rw [(requireTolerance_iff tolerance).mpr usable]
  rcases firstAnswered.cases with ⟨left, ofFirst⟩ | ⟨cause, ofFirst⟩
  · rcases secondAnswered.cases with ⟨right, ofSecond⟩ | ⟨cause, ofSecond⟩ <;>
      rw [ofFirst, ofSecond] <;> rfl
  · rw [ofFirst]
    rfl

/-- So does the comparison with a number, by way of a verdict. -/
theorem verify_eq_covers
    (answered : Answered functions first)
    (usable : tolerance.IsTolerance)
    (value : Float) :
    verify functions first (.float value) tolerance =
      .ok (tolerance.covers (evaluate functions first) (.ok value)) := by
  have converted : (Number.float value).toFloat? = some value := rfl
  unfold verify
  rcases answered.cases with ⟨left, evaluated⟩ | ⟨cause, evaluated⟩
  · rw [check_of_value usable converted evaluated, evaluated]
    rfl
  · rw [check_of_fault usable evaluated, evaluated]
    rfl

end

/-- The comparison of two formulas coheres with that of a formula and a number. Of texts that
evaluation answers for, and tolerances of which the second is at least the first, it has an answer,
which is the same the other way round. It is no where either text has no value, and where the second
has one it is that of verifying the first against it. A yes stays one under the larger tolerance, a
text is equivalent to itself if it has a value at all, and values whose difference overflows are not
equivalent. -/
theorem equivalent_coherent
    (functions : Elementary)
    (first second : String)
    (narrower wider : Number)
    (firstAnswered : Answered functions first)
    (secondAnswered : Answered functions second)
    (usable : narrower.IsTolerance)
    (wideUsable : wider.IsTolerance)
    (atMost : narrower.AtMost wider) :
    (∃ answer : Bool,
      equivalent functions first second narrower = .ok answer ∧
        equivalent functions second first narrower = .ok answer) ∧
    (∀ fault : Fault,
      evaluate functions first = .error fault ∨ evaluate functions second = .error fault →
        equivalent functions first second narrower = .ok false) ∧
    (∀ value : Float,
      evaluate functions second = .ok value →
        equivalent functions first second narrower =
          verify functions first (.float value) narrower) ∧
    (equivalent functions first second narrower = .ok true →
      equivalent functions first second wider = .ok true) ∧
    equivalent functions first first narrower = isValid functions first ∧
    (∀ left right : Float,
      evaluate functions first = .ok left →
      evaluate functions second = .ok right →
      (left - right).isInf = true →
        equivalent functions first second narrower = .ok false) := by
  have compared := equivalent_eq_covers firstAnswered secondAnswered usable
  refine ⟨⟨_, compared, ?symmetric⟩, ?faulty, ?verified, ?monotone, ?reflexive, ?overflow⟩
  case symmetric =>
    rw [equivalent_eq_covers secondAnswered firstAnswered usable, Number.covers_comm]
  case faulty =>
    intro fault failed
    rw [compared, Number.covers_of_fault failed]
  case verified =>
    intro value evaluated
    rw [compared, verify_eq_covers firstAnswered usable value, evaluated]
  case monotone =>
    intro holds
    have covered := Except.ok.inj (compared.symm.trans holds)
    rw [equivalent_eq_covers firstAnswered secondAnswered wideUsable,
      Number.covers_of_atMost atMost covered]
  case reflexive =>
    rw [equivalent_eq_covers firstAnswered firstAnswered usable, firstAnswered.isValid_eq,
      usable.covers_self fun _ => isFinite_of_evaluate]
  case overflow =>
    intro left right ofFirst ofSecond infinite
    rw [compared, ofFirst, ofSecond, usable.not_covers_of_isInf infinite]

/-- Twenty times the factorial of 170 has a value, and so has its opposite, but their difference
overflows. -/
theorem exists_overflowing_values :
    ∃ left right : Float,
      evaluate sampleLibrary "170!·20" = .ok left ∧
        evaluate sampleLibrary "-170!·20" = .ok right ∧
        (left - right).isInf = true := by
  have overflows : ((evaluate sampleLibrary "170!·20").toOption.bind fun left =>
      (evaluate sampleLibrary "-170!·20").toOption.map fun right =>
        (left - right).isInf) = some true := by
    decide +kernel
  obtain ⟨left, ofFirst, behind⟩ := Option.bind_eq_some_iff.mp overflows
  obtain ⟨right, ofSecond, infinite⟩ := Option.map_eq_some_iff.mp behind
  exact ⟨left, right, eq_ok_of_toOption ofFirst, eq_ok_of_toOption ofSecond, infinite⟩

/-- Half of two and one are equivalent from both sides, under the usual tolerance and under a half.
An open bracket is not equivalent to one, and neither are the values whose difference overflows. -/
theorem equivalent_coherent_samples :
    Answered sampleLibrary "2/2" ∧
      Answered sampleLibrary "1" ∧
      defaultTolerance.IsTolerance ∧
      (Number.float 0.5).IsTolerance ∧
      defaultTolerance.AtMost (.float 0.5) ∧
      equivalent sampleLibrary "2/2" "1" defaultTolerance = .ok true ∧
      equivalent sampleLibrary "1" "2/2" defaultTolerance = .ok true ∧
      verify sampleLibrary "2/2" (.float 1.0) defaultTolerance = .ok true ∧
      equivalent sampleLibrary "2/2" "1" (.float 0.5) = .ok true ∧
      isValid sampleLibrary "2/2" = .ok true ∧
      equivalent sampleLibrary "2/2" "2/2" defaultTolerance = .ok true ∧
      equivalent sampleLibrary "(1" "1" defaultTolerance = .ok false ∧
      equivalent sampleLibrary "170!·20" "-170!·20" defaultTolerance = .ok false := by
  have answered (text : String) (short : text.toList.length ≤ 308) : Answered sampleLibrary text :=
    answered_of_documented sampleLibrary_documented (.of_length_le short)
  have ofQuotient := answered "2/2" (by decide)
  have ofOne := answered "1" (by decide)
  have usable := isTolerance_defaultTolerance
  have wideUsable : (Number.float 0.5).IsTolerance :=
    (requireTolerance_iff _).mp (eq_ok_of_toOption (by decide +kernel))
  have atMost : defaultTolerance.AtMost (.float 0.5) := ⟨_, _, rfl, rfl, by decide +kernel⟩
  have one : evaluate sampleLibrary "1" = .ok 1.0 := eq_ok_of_toOption (by decide +kernel)
  have holds : equivalent sampleLibrary "2/2" "1" defaultTolerance = .ok true :=
    eq_ok_of_toOption (by decide +kernel)
  have valid : isValid sampleLibrary "2/2" = .ok true := eq_ok_of_toOption (by decide +kernel)
  obtain ⟨⟨answer, given, reversed⟩, -, verified, wider, reflexive, -⟩ :=
    equivalent_coherent sampleLibrary "2/2" "1" defaultTolerance (.float 0.5) ofQuotient ofOne
      usable wideUsable atMost
  obtain ⟨-, faulty, -⟩ :=
    equivalent_coherent sampleLibrary "(1" "1" defaultTolerance (.float 0.5)
      (answered "(1" (by decide)) ofOne usable wideUsable atMost
  obtain ⟨-, -, -, -, -, overflow⟩ :=
    equivalent_coherent sampleLibrary "170!·20" "-170!·20" defaultTolerance (.float 0.5)
      (answered "170!·20" (by decide)) (answered "-170!·20" (by decide)) usable wideUsable atMost
  obtain ⟨left, right, ofFirst, ofSecond, infinite⟩ := exists_overflowing_values
  have noValue : (evaluate sampleLibrary "(1").toOption = none := by decide +kernel
  have same : answer = true := Except.ok.inj (given.symm.trans holds)
  refine ⟨ofQuotient, ofOne, usable, wideUsable, atMost, holds, same ▸ reversed,
    (verified 1.0 one).symm.trans holds, wider holds, valid, reflexive.trans valid, ?_,
    overflow left right ofFirst ofSecond infinite⟩
  cases evaluated : evaluate sampleLibrary "(1" with
  | ok value => rw [evaluated] at noValue; cases noValue
  | error fault => exact faulty fault (.inl evaluated)

end FormulaGrid
