import FormulaGrid.Number.Root
import FormulaGrid.Variant.Literal

/-!
Contract: the families of variants of a target.

Owns:
- the candidates that a family proposes (`Candidate`), unverified;
- the steps of a search (`Steps`): each costs one attempt, and most but not all
  propose a candidate;
- the steps of each family for a target (`Pattern.steps`).

The steps are given by their number and by what each of them proposes, so that a
search that breaks off early has looked at no more of them than it paid for.
-/

namespace FormulaGrid.Variant

/-- The families, in the order in which a search goes through them. -/
inductive Pattern where
  | parametric
  | factorialRatio
  | neutral
  | product
  | sum
deriving DecidableEq, Repr

namespace Pattern

def label : Pattern → String
  | parametric => "parametric"
  | factorialRatio => "factorial_ratio"
  | neutral => "neutral"
  | product => "product"
  | sum => "sum"

def all : List Pattern :=
  [parametric, factorialRatio, neutral, product, sum]

end Pattern

/-- A notation that a family proposes. -/
structure Candidate where
  text : String
  pattern : Pattern
deriving DecidableEq, Repr

/-- The steps of a search: how many there are, and what each proposes. -/
structure Steps where
  count : Nat
  proposal : Nat → Option Candidate

namespace Steps

def none : Steps :=
  ⟨0, fun _ => Option.none⟩

def ofTexts (pattern : Pattern) (texts : List String) : Steps :=
  ⟨texts.length, fun index => texts[index]?.map fun text => ⟨text, pattern⟩⟩

/-- The steps of one search after those of another. -/
def append (first second : Steps) : Steps :=
  ⟨first.count + second.count, fun index =>
    if index < first.count then
      first.proposal index
    else
      second.proposal (index - first.count)⟩

end Steps

/-- Factorial ratios are proposed up to this target. -/
def factorialRatioBound : Int := 20

/-- Five forms of a target, each with one operation or none. -/
def parametricSteps (target : Number) : Except Fault Steps := do
  let literal ← literal target
  let operand ← operand target
  return .ofTexts .parametric
    [literal,
     operand ++ "-1+1",
     operand ++ "*2/2",
     "√(" ++ operand ++ "²)",
     operand ++ "^1"]

/-- The factorial of a small positive integer over that of its predecessor. -/
def factorialRatioSteps (bound : Int) (target : Number) : Except Fault Steps := do
  match ← wholeValue? target with
  | some whole =>
      if 1 ≤ whole && whole ≤ bound then
        return .ofTexts .factorialRatio
          [Numeral.integer whole ++ "!/" ++ Numeral.integer (whole - 1) ++ "!"]
      else
        return .none
  | none => return .none

/-- The target under operations that leave it as it is. -/
def neutralSteps (target : Number) : Except Fault Steps := do
  let literal ← literal target
  let operand ← operand target
  let forms :=
    [operand ++ "+0",
     operand ++ "*1",
     operand ++ "/1",
     "(" ++ literal ++ ")",
     operand ++ "*π/π",
     operand ++ "*e/e"]
  let bars := if target.isNegative then [] else ["|" ++ literal ++ "|"]
  return .ofTexts .neutral (forms ++ bars)

/-- The smallest magnitude that has a factor besides one and itself. -/
def leastComposite : Nat := 4

/-- The product that step `index` proposes: a factor counted up from two, if it
divides the target, and the other factor with the target's sign. -/
def productProposal (whole : Int) (index : Nat) : Option Candidate :=
  let factor := index + 2
  if whole.natAbs % factor == 0 then
    some ⟨Numeral.natural factor ++ "*" ++ integerOperand (whole / (factor : Int)), .product⟩
  else
    none

/-- Products of two integers; the first factor counts up to the square root, and
factors that do not divide the target cost a step as well. -/
def productSteps (target : Number) : Except Fault Steps := do
  match ← wholeValue? target with
  | some whole =>
      if whole.natAbs < leastComposite then
        return .none
      else
        return ⟨wholeRoot whole.natAbs - 1, productProposal whole⟩
  | none => return .none

/-- The sum that step `index` proposes: a summand counted up from one, and what
is missing to the target. -/
def sumProposal (whole : Int) (index : Nat) : Option Candidate :=
  let summand := index + 1
  some ⟨Numeral.natural summand ++ "+" ++ integerOperand (whole - (summand : Int)), .sum⟩

/-- How many sums are proposed for an integer: up to its half, or, below two, up
to its magnitude but at least one. -/
def sumCount (whole : Int) : Nat :=
  if 2 ≤ whole then whole.toNat / 2 else max 1 (-whole).toNat

def sumSteps (target : Number) : Except Fault Steps := do
  match ← wholeValue? target with
  | some whole => return ⟨sumCount whole, sumProposal whole⟩
  | none => return .none

/-- The steps of a family for a target. The bound is that of the factorial
ratios. -/
def Pattern.steps (bound : Int) (target : Number) : Pattern → Except Fault Steps
  | parametric => parametricSteps target
  | factorialRatio => factorialRatioSteps bound target
  | neutral => neutralSteps target
  | product => productSteps target
  | sum => sumSteps target

/-- The steps of all the given families, one family after the other. -/
def stepsOf (bound : Int) (target : Number) : List Pattern → Except Fault Steps
  | [] => .ok .none
  | pattern :: others => do
      let first ← pattern.steps bound target
      let second ← stepsOf bound target others
      return first.append second

end FormulaGrid.Variant
