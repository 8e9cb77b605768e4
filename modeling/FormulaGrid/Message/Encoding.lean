import FormulaGrid.Grid.Basic
import FormulaGrid.Message.Bits
import FormulaGrid.Variant.Search

/-!
Contract: texts written as grids.

Owns:
- the settings of an encoding (`EncodingOptions`);
- the cells that bits are written in (`cellsOfBits`);
- the grid of a text (`encode`).

A zero bit is written as the zero cell. The one bits take the expressions of a
pool for one in turn and start over when the pool is used up, so that successive
ones differ whenever the pool has two expressions.
-/

namespace FormulaGrid

/-- How a text is encoded. Without a pool size the pool is as large as that of
the catalog. -/
structure EncodingOptions where
  width : Nat
  includeAdvanced : Bool
  poolSize : Option Nat
  tolerance : Number
  width_pos : 0 < width
  poolSize_pos : ∀ size ∈ poolSize, 0 < size

namespace EncodingOptions

/-- A pool size must be positive. -/
def requirePoolSize :
    Option Int → Except Fault { size : Option Nat // ∀ count ∈ size, 0 < count }
  | none => .ok ⟨none, nofun⟩
  | some size =>
      if large : 0 < size then
        .ok ⟨some size.toNat, fun _ same => Option.some.inj same ▸ Int.lt_toNat.mpr large⟩
      else
        .error (Fault.codec (.unfitPoolSize size)).reported

/-- Options with a width, which must be positive, and the rest. -/
def make
    (width : Int := defaultWidth)
    (includeAdvanced : Bool := false)
    (poolSize : Option Int := none)
    (tolerance : Number := defaultTolerance) :
    Except Fault EncodingOptions :=
  if wide : 0 < width then do
    let size ← requirePoolSize poolSize
    return ⟨width.toNat, includeAdvanced, size.val, tolerance, Int.lt_toNat.mpr wide,
      size.property⟩
  else
    .error (Fault.codec (.unfitWidth width)).reported

/-- How many expressions the pool holds. -/
def resolvedPoolSize (options : EncodingOptions) : Nat :=
  options.poolSize.getD
    (standardCatalog.poolForTarget (.int 1) options.includeAdvanced).length

end EncodingOptions

/-- The cells of bits, of which the given number of ones came before. -/
def cellsOfBits (pool : List Expression) (ones : Nat) : List Char → List String
  | [] => []
  | bit :: others =>
      if bit == '1' then
        let cell :=
          match pool[ones % pool.length]? with
          | some expression => expression.text
          | none => zeroCell
        cell :: cellsOfBits pool (ones + 1) others
      else
        zeroCell :: cellsOfBits pool ones others

/-- The grid of a text. -/
def encode
    (functions : Elementary)
    (text : String)
    (options : EncodingOptions) :
    Except Fault Grid := do
  let bits ← bitsOfText text
  let pool ←
    Variant.synthesize functions (.int 1)
      { count := options.resolvedPoolSize
        tolerance := options.tolerance
        includeAdvanced := options.includeAdvanced }
  let cells := cellsOfBits pool.expressions 0 bits.toList
  Grid.ofCells (cells.map Datum.text) options.width

/-- What an encoding is asked for: a width and a pool, or options in full. -/
inductive EncodingSettings where
  | plain (width : Int) (includeAdvanced : Bool)
  | full (options : EncodingOptions)

/-- The grid of a value that should be a text. The value is looked at before the
settings. -/
def encodeDatum
    (functions : Elementary)
    (text : Datum)
    (settings : EncodingSettings) :
    Except Fault Grid :=
  match text with
  | .text text => do
      let options ←
        match settings with
        | .plain width includeAdvanced => EncodingOptions.make width includeAdvanced
        | .full options => pure options
      encode functions text options
  | other => .error (.codec (.textOfKind other.kindName))

end FormulaGrid
