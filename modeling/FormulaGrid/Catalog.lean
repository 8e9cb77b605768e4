import FormulaGrid.Expression

/-!
Contract: catalogs of expressions.

Owns:
- a catalog: three pools whose texts are all different (`Catalog`);
- its making (`Catalog.assemble`), its pools, and the look-up of a text or another value.

Since no text occurs twice, a text names at most one entry.
-/

namespace FormulaGrid

/-- The first text that repeats an earlier one, or one of those seen before. -/
def firstRepeated (seen : List String) : List String → Option String
  | [] => none
  | text :: others =>
      if text ∈ seen then some text else firstRepeated (text :: seen) others

/-- If nothing repeats, the texts are all different and none was seen before. -/
theorem distinct_of_firstRepeated_eq_none
    {seen texts : List String}
    (found : firstRepeated seen texts = none) :
    texts.Nodup ∧ ∀ text ∈ texts, text ∉ seen := by
  induction texts generalizing seen with
  | nil => exact ⟨List.nodup_nil, by simp⟩
  | cons text others inductionHypothesis =>
      simp only [firstRepeated] at found
      split at found
      · contradiction
      · next fresh =>
          have ⟨distinct, unseen⟩ := inductionHypothesis found
          refine ⟨List.nodup_cons.mpr ⟨fun member => ?_, distinct⟩, fun other member => ?_⟩
          · exact unseen text member (List.mem_cons_self ..)
          · rcases List.mem_cons.mp member with same | later
            · exact same ▸ fresh
            · exact fun seenBefore => unseen other later (List.mem_cons_of_mem _ seenBefore)

/-- Three pools of expressions with different texts. -/
structure Catalog where
  unity : List Expression
  zero : List Expression
  advanced : List Expression
  distinct : (Expression.texts (unity ++ zero ++ advanced)).Nodup

namespace Catalog

/-- All entries: unity, then zero, then advanced. -/
def entries (catalog : Catalog) : List Expression :=
  catalog.unity ++ catalog.zero ++ catalog.advanced

/-- Make a catalog; a text that occurs twice is a fault. -/
def assemble (unity zero advanced : List Expression) : Except Fault Catalog :=
  match found : firstRepeated [] (Expression.texts (unity ++ zero ++ advanced)) with
  | some text => .error (.duplicateText text)
  | none => .ok ⟨unity, zero, advanced, (distinct_of_firstRepeated_eq_none found).1⟩

def size (catalog : Catalog) : Nat :=
  catalog.entries.length

/-- The pool of a kind; synthesized expressions have none. -/
def pool (catalog : Catalog) : Kind → Except Fault (List Expression)
  | .unity => .ok catalog.unity
  | .zero => .ok catalog.zero
  | .advanced => .ok catalog.advanced
  | .synthesized => .error (.noPool Kind.synthesized.label)

/-- The entries that stand for one: unity, then advanced. -/
def identityPool (catalog : Catalog) : List Expression :=
  catalog.unity ++ catalog.advanced

/-- The entries whose nominal value is exactly the target: only one and zero have
any. -/
def poolForTarget
    (catalog : Catalog)
    (target : Number)
    (includeAdvanced : Bool) :
    List Expression :=
  if target.equalsInt 1 then
    if includeAdvanced then catalog.identityPool else catalog.unity
  else if target.equalsInt 0 then
    catalog.zero
  else
    []

def find? (catalog : Catalog) (text : String) : Option Expression :=
  catalog.entries.find? fun entry => entry.text == text

/-- The entry with the given text, where only a text can have one. -/
def findDatum? (catalog : Catalog) : Datum → Option Expression
  | .text text => catalog.find? text
  | _ => none

/-- The value is the text of an entry. -/
def contains (catalog : Catalog) : Datum → Bool
  | .text text => (catalog.find? text).isSome
  | _ => false

/-- The expression that a text names: the entry with that text, or else the
synthesized expression. -/
def named (catalog : Catalog) (text : String) : Except Fault Expression :=
  match catalog.find? text with
  | some entry => .ok entry
  | none => Expression.synthesize text none

end Catalog

end FormulaGrid
