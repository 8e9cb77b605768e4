import FormulaGrid.Catalog

/-!
Contract: the standard catalog.

Owns:
- the entries of its three pools, each with a value that does not come from its
  text (`unityEntries`, `zeroEntries`, `advancedEntries`);
- the catalog made of them (`standardCatalog`).

The values are computed by hand-written terms, so that they can be held against
the values of the texts.
-/

namespace FormulaGrid

/-- An entry whose value needs no elementary function. -/
def plainEntry
    (kind : Kind)
    (text : String)
    (value : Float)
    (note : Option String := none)
    (isCellText : IsCellText text := by decide) :
    Expression :=
  ⟨text, kind, note, fun _ => .ok value, isCellText⟩

/-- An entry whose value is computed from elementary functions. -/
def computedEntry
    (kind : Kind)
    (text : String)
    (value : Elementary → Except Refusal Float)
    (note : Option String := none)
    (isCellText : IsCellText text := by decide) :
    Expression :=
  ⟨text, kind, note, fun functions => (value functions).mapError Refusal.fault, isCellText⟩

/-- Plain arithmetic that equals one. -/
def unityEntries : List Expression :=
  [plainEntry .unity "√1" (Float.sqrt 1.0),
   plainEntry .unity "0!" (Float.ofNat (productUpTo 0)) (some "empty product"),
   plainEntry .unity "|−1|" (Float.abs (-1.0)),
   plainEntry .unity "7^0" (Float.ofNat (Nat.pow 7 0))
     (some "any non-zero number to the power 0"),
   plainEntry .unity "(2+2)/4" ((2.0 + 2.0) / 4.0),
   plainEntry .unity "1/1" (1.0 / 1.0),
   plainEntry .unity "2-1" (2.0 - 1.0),
   plainEntry .unity "√4/2" (Float.sqrt 4.0 / 2.0),
   plainEntry .unity "(3-1)/2" ((3.0 - 1.0) / 2.0),
   plainEntry .unity "√9/3" (Float.sqrt 9.0 / 3.0),
   plainEntry .unity "0.25*4" (0.25 * 4.0),
   plainEntry .unity "0.1*10" (0.1 * 10.0),
   plainEntry .unity "√16/4" (Float.sqrt 16.0 / 4.0),
   plainEntry .unity "√25/5" (Float.sqrt 25.0 / 5.0),
   plainEntry .unity "(6-4)/2" ((6.0 - 4.0) / 2.0),
   plainEntry .unity "√36/6" (Float.sqrt 36.0 / 6.0)]

/-- Formulas that equal zero. -/
def zeroEntries : List Expression :=
  [computedEntry .zero "sin(0)" fun functions => functions.sin 0.0,
   computedEntry .zero "ln(1)" fun functions => functions.ln 1.0,
   plainEntry .zero "1-1" (1.0 - 1.0),
   plainEntry .zero "0*1000" (0.0 * 1000.0) (some "zero times anything"),
   plainEntry .zero "0/42" (0.0 / 42.0),
   computedEntry .zero "tan(0)" fun functions => functions.tan 0.0,
   computedEntry .zero "sin(π)" fun functions => functions.sin circleConstant,
   computedEntry .zero "log(1)" fun functions => functions.log10 1.0,
   computedEntry .zero "e^0-1" fun functions =>
     return (← functions.pow naturalBase 0.0) - 1.0,
   plainEntry .zero "0^1" (Float.ofNat (Nat.pow 0 1)),
   plainEntry .zero "√0" (Float.sqrt 0.0),
   plainEntry .zero "5-5" (5.0 - 5.0),
   plainEntry .zero "0!-1" (Float.ofNat (productUpTo 0) - 1.0),
   computedEntry .zero "cos(π/2)" fun functions => functions.cos (circleConstant / 2.0)]

/-- Identities of elementary functions and constants that equal one. -/
def advancedEntries : List Expression :=
  [computedEntry .advanced "sin²(π/5)+cos²(π/5)"
     (fun functions => do
       let sine ← functions.pow (← functions.sin (circleConstant / 5.0)) 2.0
       let cosine ← functions.pow (← functions.cos (circleConstant / 5.0)) 2.0
       return sine + cosine)
     (some "Pythagorean identity"),
   computedEntry .advanced "e^(ln(1))" (fun functions => do functions.exp (← functions.ln 1.0))
     (some "exponential undoes ln"),
   computedEntry .advanced "ln(e)" fun functions => functions.ln naturalBase,
   computedEntry .advanced "cos(0)" fun functions => functions.cos 0.0,
   computedEntry .advanced "tan(π/4)" fun functions => functions.tan (circleConstant / 4.0),
   computedEntry .advanced "sin(π/2)" fun functions => functions.sin (circleConstant / 2.0),
   computedEntry .advanced "cos(2*π)" (fun functions => functions.cos (2.0 * circleConstant))
     (some "full turn"),
   computedEntry .advanced "log(10)" fun functions => functions.log10 10.0,
   computedEntry .advanced "log₂(8)/3" fun functions => return (← functions.log2 8.0) / 3.0,
   computedEntry .advanced "∛27/3" fun functions =>
     return (← functions.pow 27.0 (1.0 / 3.0)) / 3.0,
   computedEntry .advanced "φ^2-φ"
     (fun functions => return (← functions.pow goldenRatio 2.0) - goldenRatio)
     (some "golden ratio satisfies φ² = φ + 1"),
   plainEntry .advanced "2!-1!"
     (Float.ofNat (productUpTo 2) - Float.ofNat (productUpTo 1))]

/-- The standard catalog. -/
def standardCatalog : Catalog :=
  ⟨unityEntries, zeroEntries, advancedEntries, by decide⟩

end FormulaGrid
