import FormulaGrid.Catalog.Standard

/-!
Contract: the signature of a name, a sequence of expressions drawn for it.

Owns:
- the seed of a name (`nameSeed`) and the sequence of states that it starts
  (`nextState`, `states`);
- the signature of a name (`signature`).

The states follow a linear congruential rule, so equal names have equal
signatures everywhere. An expression may be drawn more than once.
-/

namespace FormulaGrid

/-- Multiplier of the congruential rule. -/
def stateMultiplier : Nat := 9301

/-- Increment of the congruential rule. -/
def stateIncrement : Nat := 49297

/-- Modulus of the congruential rule. -/
def stateModulus : Nat := 233280

/-- The length of a signature when none is given. -/
def defaultSignatureSize : Nat := 16

/-- The seed of a name: the sum of the codes of its characters. -/
def nameSeed (name : String) : Nat :=
  name.toList.foldl (fun total character => total + character.toNat) 0

/-- The state that follows a state. -/
def nextState (state : Nat) : Nat :=
  (state * stateMultiplier + stateIncrement) % stateModulus

/-- The states that follow a state, as many as asked for. -/
def states (state : Nat) : Nat → List Nat
  | 0 => []
  | count + 1 => nextState state :: states (nextState state) count

/-- The expression of a pool that a state picks. -/
def pick (pool : List Expression) (state : Nat) : Option Expression :=
  pool[state % pool.length]?

/-- Draw a number of expressions from a pool. -/
def draw (pool : List Expression) (name : String) (size : Nat) : List Expression :=
  (states (nameSeed name) size).filterMap (pick pool)

/-- The signature of a name: expressions drawn from a pool, or from the standard
pool for one. The name is looked at first, then the size, then the pool. -/
def signature
    (name : Datum)
    (size : Int)
    (pool : Option (List Expression)) :
    Except Fault (List Expression) :=
  match name with
  | .text name =>
      let pool := pool.getD standardCatalog.identityPool
      if size < 0 then
        .error (Fault.argument (.negativeSize size)).reported
      else if pool.isEmpty then
        .error (.argument .emptyPool)
      else
        .ok (draw pool name size.toNat)
  | other => .error (.kind (.name other.kindName))

end FormulaGrid
