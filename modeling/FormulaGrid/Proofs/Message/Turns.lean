import FormulaGrid.Proofs.Message.Encoding
import FormulaGrid.Proofs.Variant.Refinement
import Mathlib.Data.Int.CardIntervalMod

/-!
Contract: the ones of a text take the expressions of the pool in turn.

Owns:
- the cell that a bit is written in (`getElem?_cellsOfBits`): the turn depends on the number of
  ones before the bit (`onesBefore`) alone;
- how often an expression is used (`count_cellsOfBits`);
- so as many successive ones as the pool is large are written differently, and no expression is
  used more than once more than another (`encode_takes_turns`).

The pool has different expressions, none of which is the zero cell. That is known from the
search; nothing in the encoding looks at it.
-/

namespace FormulaGrid

theorem bitOfText_eq_zero_iff (text : String) : bitOfText text = '0' ↔ text = zeroCell := by
  unfold bitOfText
  split
  next zero => exact iff_of_true rfl zero
  next nonzero => exact iff_of_false (by decide) nonzero

/-- How many of the bits before a position are ones. -/
def onesBefore (bits : List Char) (position : Nat) : Nat :=
  (bits.take position).count '1'

section

variable {pool : List Expression}

/-- Of different expressions each one stands in one place. -/
theorem text_eq_iff_of_nodup
    (distinct : (Expression.texts pool).Nodup)
    {place otherPlace : Nat}
    {expression other : Expression}
    (inPlace : pool[place]? = some expression)
    (inOtherPlace : pool[otherPlace]? = some other) :
    expression.text = other.text ↔ place = otherPlace := by
  have within : place < (Expression.texts pool).length := by
    rw [Expression.texts, List.length_map]
    exact (List.getElem?_eq_some_iff.mp inPlace).1
  rw [← List.getElem?_inj within distinct, Expression.texts, List.getElem?_map, List.getElem?_map,
    inPlace, inOtherPlace]
  exact Option.some_inj.symm

variable (nonempty : 0 < pool.length)

include nonempty

/-- A one is written in the expression whose turn it is. -/
theorem exists_turn (ones : Nat) :
    ∃ expression : Expression,
      pool[ones % pool.length]? = some expression ∧
        ∀ others : List Char,
          cellsOfBits pool ones ('1' :: others) =
            expression.text :: cellsOfBits pool (ones + 1) others := by
  have turn : ones % pool.length < pool.length := Nat.mod_lt _ nonempty
  refine ⟨pool[ones % pool.length], List.getElem?_eq_getElem turn, fun others => ?_⟩
  rw [cellsOfBits, if_pos (beq_self_eq_true _), List.getElem?_eq_getElem turn]

/-- A zero is written in the zero cell, and a one in the expression whose turn it is: the turn
goes on with every one, across zeros, and starts over behind the last expression. -/
theorem getElem?_cellsOfBits
    {bits : List Char}
    (areBits : AreBits bits)
    (ones position : Nat) :
    (cellsOfBits pool ones bits)[position]? =
      bits[position]?.bind fun bit =>
        if bit = '1' then
          pool[(ones + onesBefore bits position) % pool.length]?.map Expression.text
        else
          some zeroCell := by
  induction bits generalizing ones position with
  | nil => rfl
  | cons bit others inductionHypothesis =>
      obtain ⟨isBit, behind⟩ := List.forall_mem_cons.mp areBits
      rcases isBit with rfl | rfl
      · cases position with
        | zero => rfl
        | succ position => exact inductionHypothesis behind ones position
      · obtain ⟨expression, inPool, cells⟩ := exists_turn nonempty ones
        rw [cells]
        cases position with
        | zero =>
            show some expression.text = pool[ones % pool.length]?.map Expression.text
            rw [inPool]
            rfl
        | succ position =>
            have next : onesBefore ('1' :: others) (position + 1) =
                onesBefore others position + 1 :=
              List.count_cons_self
            rw [next, ← Nat.add_assoc, Nat.add_right_comm]
            exact inductionHypothesis behind (ones + 1) position

/-- The expression in a place of the pool is used once for each turn that is its own. -/
theorem count_cellsOfBits
    (distinct : (Expression.texts pool).Nodup)
    {place : Nat}
    {expression : Expression}
    (inPlace : pool[place]? = some expression)
    (ones : Nat)
    {bits : List Char}
    (areBits : AreBits bits) :
    (cellsOfBits pool ones bits).count expression.text =
      Nat.count (fun turn => ones + turn ≡ place [MOD pool.length]) (bits.count '1') := by
  induction bits generalizing ones with
  | nil => rfl
  | cons bit others inductionHypothesis =>
      obtain ⟨isBit, behind⟩ := List.forall_mem_cons.mp areBits
      rcases isBit with rfl | rfl
      · have zero : zeroCell ≠ expression.text := expression.isCellText.2.2.symm
        show (zeroCell :: cellsOfBits pool ones others).count _ = _
        rw [List.count_cons_of_ne zero, inductionHypothesis ones behind]
        rfl
      · obtain ⟨next, inPool, cells⟩ := exists_turn nonempty ones
        have own : next.text = expression.text ↔ ones + 0 ≡ place [MOD pool.length] := by
          have small := Nat.mod_eq_of_lt (List.getElem?_eq_some_iff.mp inPlace).1
          rw [text_eq_iff_of_nodup distinct inPool inPlace, Nat.ModEq, small]
          rfl
        rw [cells, List.count_cons, List.count_cons_self, Nat.count_succ',
          inductionHypothesis (ones + 1) behind]
        simp only [beq_iff_eq, own, Nat.add_assoc, Nat.add_comm 1]

/-- So no expression is used more than once more than another. -/
theorem count_cellsOfBits_le
    (distinct : (Expression.texts pool).Nodup)
    {left right : Expression}
    (leftInPool : left ∈ pool)
    (rightInPool : right ∈ pool)
    {bits : List Char}
    (areBits : AreBits bits) :
    (cellsOfBits pool 0 bits).count left.text ≤ (cellsOfBits pool 0 bits).count right.text + 1 := by
  obtain ⟨leftPlace, inLeft⟩ := List.mem_iff_getElem?.mp leftInPool
  obtain ⟨rightPlace, inRight⟩ := List.mem_iff_getElem?.mp rightInPool
  rw [count_cellsOfBits nonempty distinct inLeft 0 areBits,
    count_cellsOfBits nonempty distinct inRight 0 areBits]
  simp only [Nat.zero_add]
  -- Every turn comes up in each full round, and at most once more.
  rw [Nat.count_modEq_card _ nonempty, Nat.count_modEq_card _ nonempty]
  split <;> split <;> omega

/-- Ones whose turns are less than a round apart are written differently. -/
theorem getElem?_cellsOfBits_ne
    (distinct : (Expression.texts pool).Nodup)
    {bits : List Char}
    (areBits : AreBits bits)
    {first second : Nat}
    (firstOne : bits[first]? = some '1')
    (secondOne : bits[second]? = some '1')
    (later : onesBefore bits first < onesBefore bits second)
    (within : onesBefore bits second < onesBefore bits first + pool.length) :
    (cellsOfBits pool 0 bits)[first]? ≠ (cellsOfBits pool 0 bits)[second]? := by
  obtain ⟨firstExpression, firstInPool, -⟩ := exists_turn nonempty (onesBefore bits first)
  obtain ⟨secondExpression, secondInPool, -⟩ := exists_turn nonempty (onesBefore bits second)
  rw [getElem?_cellsOfBits nonempty areBits, getElem?_cellsOfBits nonempty areBits, firstOne,
    secondOne, Option.bind_some, Option.bind_some, if_pos rfl, if_pos rfl, Nat.zero_add,
    Nat.zero_add, firstInPool, secondInPool]
  intro same
  have turns := (text_eq_iff_of_nodup distinct firstInPool secondInPool).mp (Option.some.inj same)
  -- Equal remainders are a whole round apart.
  have round := (Nat.modEq_iff_dvd' later.le).mp turns
  have apart := Nat.le_of_dvd (Nat.sub_pos_of_lt later) round
  omega

end

/-- Encoding writes every bit where it stands, and spreads the pool evenly. A cell is the zero
cell just where the bit is a zero. The one with so many ones before it is written in the
expression whose place in the pool is their number, less all whole rounds. So ones that are less
than a round apart are written differently, among them any two successive ones if the pool has
two expressions; and of two expressions of the pool none is used more than once more than the
other. -/
theorem encode_takes_turns
    (functions : Elementary)
    (text : String)
    (options : EncodingOptions)
    (grid : Grid)
    (encoded : encode functions text options = .ok grid) :
    ∃ (bits : String) (pool : Variant.Synthesis),
      bitsOfText text = .ok bits ∧
        Variant.synthesize functions (.int 1) options.poolRequest = .ok pool ∧
        pool.expressions.length = options.resolvedPoolSize ∧
        grid.cells.length = bits.toList.length ∧
        (∀ position : Nat,
          grid.cells[position]? = some zeroCell ↔ bits.toList[position]? = some '0') ∧
        (∀ position : Nat, bits.toList[position]? = some '1' →
          ∃ expression : Expression,
            pool.expressions[onesBefore bits.toList position % pool.expressions.length]? =
                some expression ∧
              grid.cells[position]? = some expression.text) ∧
        (∀ first second : Nat,
          bits.toList[first]? = some '1' →
          bits.toList[second]? = some '1' →
          onesBefore bits.toList first < onesBefore bits.toList second →
          onesBefore bits.toList second <
            onesBefore bits.toList first + pool.expressions.length →
            grid.cells[first]? ≠ grid.cells[second]?) ∧
        (2 ≤ pool.expressions.length → ∀ first second : Nat,
          bits.toList[first]? = some '1' →
          bits.toList[second]? = some '1' →
          onesBefore bits.toList second = onesBefore bits.toList first + 1 →
            grid.cells[first]? ≠ grid.cells[second]?) ∧
        ∀ left ∈ pool.expressions, ∀ right ∈ pool.expressions,
          grid.cells.count left.text ≤ grid.cells.count right.text + 1 := by
  obtain ⟨pool, searched, narrow, -, cells⟩ := exists_pool_of_encode encoded
  obtain ⟨nonempty, length, distinct⟩ :=
    Variant.distinct_of_synthesize requireTarget_one searched
  have areBits : AreBits (octetsOf text.toList) := areBits_octetsOf _
  have apart := @getElem?_cellsOfBits_ne _ nonempty distinct _ areBits
  refine ⟨_, pool, bitsOfText_narrow narrow, searched, Int.ofNat_inj.mp length, ?_⟩
  rw [String.toList_ofList, cells]
  refine ⟨?count, ?zeros, ?ones, fun first second => apart, ?successive, ?spread⟩
  case count =>
    have bits := congrArg List.length (bits_of_cellsOfBits nonempty 0 areBits)
    rwa [List.length_map] at bits
  case zeros =>
    intro position
    have bits := congrArg (·[position]?) (bits_of_cellsOfBits nonempty 0 areBits)
    rw [List.getElem?_map] at bits
    rw [← bits, Option.map_eq_some_iff]
    simp only [bitOfText_eq_zero_iff, exists_eq_right]
  case ones =>
    intro position isOne
    obtain ⟨expression, inPool, -⟩ :=
      exists_turn nonempty (onesBefore (octetsOf text.toList) position)
    refine ⟨expression, inPool, ?_⟩
    rw [getElem?_cellsOfBits nonempty areBits, isOne, Option.bind_some, if_pos rfl, Nat.zero_add,
      inPool]
    rfl
  case successive =>
    intro large first second firstOne secondOne next
    exact apart firstOne secondOne (by omega) (by omega)
  case spread =>
    intro left leftInPool right rightInPool
    exact count_cellsOfBits_le nonempty distinct leftInPool rightInPool areBits

/-- The third one of the sample message stands behind two others, at position 16. It is written
in the third expression of the pool, and not as the one in front of it. -/
theorem encode_takes_turns_sampleMessage :
    ∃ (options : EncodingOptions) (grid : Grid) (pool : Variant.Synthesis),
      encode sampleLibrary sampleMessage options = .ok grid ∧
        Variant.synthesize sampleLibrary (.int 1) options.poolRequest = .ok pool ∧
        grid.cells[0]? = some zeroCell ∧
        (∃ expression : Expression,
          pool.expressions[2 % pool.expressions.length]? = some expression ∧
            grid.cells[16]? = some expression.text) ∧
        grid.cells[15]? ≠ grid.cells[16]? := by
  obtain ⟨options, grid, isMade, -, made⟩ := exists_encode_sampleMessage
  obtain ⟨bits, pool, written, searched, length, -, zeros, ones, -, successive, -⟩ :=
    encode_takes_turns sampleLibrary sampleMessage options grid made
  have same : "000000000100000111111111" = bits :=
    Except.ok.inj (bitsOfText_sampleMessage.symm.trans written)
  subst same
  have size : 2 ≤ options.resolvedPoolSize := by
    cases isMade
    decide +kernel
  exact ⟨options, grid, pool, made, searched, (zeros 0).mpr rfl, ones 16 rfl,
    successive (length ▸ size) 15 16 rfl rfl rfl⟩

end FormulaGrid
