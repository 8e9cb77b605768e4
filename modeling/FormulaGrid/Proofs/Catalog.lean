import FormulaGrid.Catalog.Standard
import Mathlib.Data.Finset.Card
import Mathlib.Data.List.Nodup

/-!
Contract: what a catalog finds by a text, and which pools make a catalog.

Owns:
- the first text of a list that repeats one before it (`IsFirstRepeat`), which is the one that the
  making of a catalog reports (`assemble_eq_error_iff`);
- the look-up finds an entry just if it is one and has the text (`find?_eq_some_iff`);
- pools with different texts, and no others, make a catalog in which every text names at most one
  entry (`assemble_unambiguous`).

A text may not occur twice in one pool, nor in two. The look-up stops at the first entry with the
text, so it is by this that it finds an entry of the last pool too.
-/

namespace FormulaGrid

/-! ## Repeated texts -/

/-- The text repeats one that stands before it, and no text before it does. -/
def IsFirstRepeat (texts : List String) (text : String) : Prop :=
  ∃ before after : List String,
    texts = before ++ text :: after ∧ text ∈ before ∧ before.Nodup

/-- Some text stands at two places. -/
def OccursTwice (texts : List String) : Prop :=
  ∃ (text : String) (first second : Nat),
    first < second ∧ texts[first]? = some text ∧ texts[second]? = some text

theorem occursTwice_iff (texts : List String) : OccursTwice texts ↔ ¬ texts.Nodup := by
  rw [List.nodup_iff_getElem?_ne_getElem?]
  push Not
  constructor
  · rintro ⟨text, first, second, ordered, atFirst, atSecond⟩
    have within := (List.getElem?_eq_some_iff.mp atSecond).1
    exact ⟨first, second, ordered, within, atFirst.trans atSecond.symm⟩
  · rintro ⟨first, second, ordered, within, same⟩
    have atSecond := List.getElem?_eq_getElem within
    exact ⟨texts[second], first, second, ordered, same.trans atSecond, atSecond⟩

/-- The scan finds the first text that stands before it or was seen before all. -/
theorem firstRepeated_eq_some_iff
    {seen texts : List String}
    {text : String}
    (distinct : seen.Nodup) :
    firstRepeated seen texts = some text ↔
      ∃ before after : List String,
        texts = before ++ text :: after ∧
          text ∈ before.reverse ++ seen ∧
          (before.reverse ++ seen).Nodup := by
  induction texts generalizing seen with
  | nil => simp [firstRepeated]
  | cons first others inductionHypothesis =>
      have passed (tail : List String) :
          (first :: tail).reverse ++ seen = tail.reverse ++ first :: seen := by
        rw [List.reverse_cons, List.append_assoc, List.singleton_append]
      rw [firstRepeated]
      split
      next inSeen =>
        constructor
        · intro same
          cases same
          exact ⟨[], others, rfl, inSeen, distinct⟩
        · rintro ⟨before, after, same, -, different⟩
          cases before with
          | nil => rw [(List.cons.inj same).1]
          | cons head tail =>
              obtain ⟨rfl, -⟩ := List.cons.inj same
              rw [passed] at different
              exact absurd inSeen (List.nodup_cons.mp (List.nodup_append.mp different).2.1).1
      next unseen =>
        rw [inductionHypothesis (List.nodup_cons.mpr ⟨unseen, distinct⟩)]
        constructor
        · rintro ⟨before, after, rfl, repeats, different⟩
          rw [← passed] at repeats different
          exact ⟨first :: before, after, rfl, repeats, different⟩
        · rintro ⟨before, after, same, repeats, different⟩
          cases before with
          | nil =>
              obtain ⟨rfl, -⟩ := List.cons.inj same
              exact absurd repeats unseen
          | cons head tail =>
              obtain ⟨rfl, rfl⟩ := List.cons.inj same
              rw [passed] at repeats different
              exact ⟨tail, after, rfl, repeats, different⟩

/-- Of a list that nothing was seen before, that is the first repeat. -/
theorem firstRepeated_nil_eq_some_iff {texts : List String} {text : String} :
    firstRepeated [] texts = some text ↔ IsFirstRepeat texts text := by
  rw [firstRepeated_eq_some_iff List.nodup_nil]
  simp only [List.append_nil, List.mem_reverse, List.nodup_reverse, IsFirstRepeat]

theorem IsFirstRepeat.not_nodup
    {texts : List String}
    {text : String}
    (repeats : IsFirstRepeat texts text) :
    ¬ texts.Nodup := by
  obtain ⟨before, after, rfl, inBefore, -⟩ := repeats
  intro distinct
  exact (List.nodup_append.mp distinct).2.2 text inBefore text List.mem_cons_self rfl

theorem firstRepeated_nil_eq_none_iff {texts : List String} :
    firstRepeated [] texts = none ↔ texts.Nodup := by
  constructor
  · exact fun found => (distinct_of_firstRepeated_eq_none found).1
  · intro distinct
    cases found : firstRepeated [] texts with
    | none => rfl
    | some text =>
        exact absurd distinct (firstRepeated_nil_eq_some_iff.mp found).not_nodup

namespace Catalog

/-! ## Making a catalog -/

section

variable {unity zero advanced : List Expression}

/-- Making a catalog fails just if a text repeats, with the first one that does. -/
theorem assemble_eq_error_iff {fault : Fault} :
    assemble unity zero advanced = .error fault ↔
      ∃ text : String,
        fault = .duplicateText text ∧
          IsFirstRepeat (Expression.texts (unity ++ zero ++ advanced)) text := by
  unfold assemble
  split
  next text found =>
    have repeats := firstRepeated_nil_eq_some_iff.mp found
    constructor
    · intro same
      exact ⟨text, (Except.error.inj same).symm, repeats⟩
    · rintro ⟨other, rfl, otherRepeats⟩
      rw [← firstRepeated_nil_eq_some_iff, found] at otherRepeats
      rw [Option.some.inj otherRepeats]
  next found =>
    have distinct := firstRepeated_nil_eq_none_iff.mp found
    refine iff_of_false (fun same => nomatch same) ?_
    rintro ⟨text, -, repeats⟩
    exact repeats.not_nodup distinct

/-- A catalog has the entries that it was made of. -/
theorem entries_of_assemble
    {catalog : Catalog}
    (made : assemble unity zero advanced = .ok catalog) :
    catalog.unity = unity ∧ catalog.zero = zero ∧ catalog.advanced = advanced := by
  unfold assemble at made
  split at made
  next => cases made
  next => cases made; exact ⟨rfl, rfl, rfl⟩

theorem exists_assemble_error_iff :
    (∃ fault : Fault, assemble unity zero advanced = .error fault) ↔
      OccursTwice (Expression.texts (unity ++ zero ++ advanced)) := by
  rw [occursTwice_iff]
  constructor
  · rintro ⟨fault, failed⟩
    obtain ⟨text, -, repeats⟩ := assemble_eq_error_iff.mp failed
    exact repeats.not_nodup
  · intro notDistinct
    cases made : assemble unity zero advanced with
    | error fault => exact ⟨fault, rfl⟩
    | ok catalog =>
        obtain ⟨rfl, rfl, rfl⟩ := entries_of_assemble made
        exact absurd catalog.distinct notDistinct

end

/-! ## Looking up -/

section

variable (catalog : Catalog)

/-- An entry is found by a text just if it has the text. -/
theorem find?_eq_some_iff {text : String} {entry : Expression} :
    catalog.find? text = some entry ↔ entry ∈ catalog.entries ∧ entry.text = text := by
  constructor
  · intro found
    have hasText := List.find?_some found
    exact ⟨List.mem_of_find?_eq_some found, beq_iff_eq.mp hasText⟩
  · rintro ⟨isEntry, rfl⟩
    cases found : catalog.find? entry.text with
    | none =>
        have notEntry := List.find?_eq_none.mp found entry isEntry
        exact absurd (beq_iff_eq.mpr rfl) notEntry
    | some other =>
        have isOther : other ∈ catalog.entries := List.mem_of_find?_eq_some found
        have hasText := List.find?_some found
        have same :=
          List.inj_on_of_nodup_map catalog.distinct isOther isEntry (beq_iff_eq.mp hasText)
        rw [same]

theorem findDatum?_eq_some_iff {datum : Datum} {entry : Expression} :
    catalog.findDatum? datum = some entry ↔
      entry ∈ catalog.entries ∧ datum = .text entry.text := by
  cases datum with
  | text text =>
      rw [findDatum?, find?_eq_some_iff, Datum.text.injEq, eq_comm (a := text)]
  | _ => exact iff_of_false (fun same => nomatch same) (fun same => nomatch same.2)

theorem find?_eq_none_iff {text : String} :
    catalog.find? text = none ↔ text ∉ Expression.texts catalog.entries := by
  rw [Option.eq_none_iff_forall_ne_some]
  simp only [ne_eq, find?_eq_some_iff, Expression.texts, List.mem_map, not_exists]

/-- A value is contained just if something is found by it. -/
theorem contains_eq_isSome_findDatum? (datum : Datum) :
    catalog.contains datum = (catalog.findDatum? datum).isSome := by
  cases datum <;> rfl

theorem size_eq_card : catalog.size = (Expression.texts catalog.entries).toFinset.card := by
  have distinct : (Expression.texts catalog.entries).Nodup := catalog.distinct
  rw [List.toFinset_card_of_nodup distinct]
  exact (List.length_map _).symm

end

/-- The pool for a target that equals one has the entries that stand for one. -/
theorem poolForTarget_of_equalsInt_one
    (catalog : Catalog)
    {target : Number}
    (one : target.equalsInt 1 = true) :
    catalog.poolForTarget target true = catalog.identityPool := by
  rw [poolForTarget, if_pos one, if_pos rfl]

/-- Look-ups are unambiguous. Making a catalog of three pools fails just if some text occurs at two
places of them, in one pool or in two, and then with the first text that repeats an earlier one.
Otherwise the catalog has the entries of the pools in their order. Each is found by its own text and
by no other value, what is contained is what is found, the size is the number of different texts,
and the pool for one has the entries that stand for one. -/
theorem assemble_unambiguous (unity zero advanced : List Expression) :
    ((∃ fault : Fault, assemble unity zero advanced = .error fault) ↔
      OccursTwice (Expression.texts (unity ++ zero ++ advanced))) ∧
    (∀ fault : Fault,
      assemble unity zero advanced = .error fault ↔
        ∃ text : String,
          fault = .duplicateText text ∧
            IsFirstRepeat (Expression.texts (unity ++ zero ++ advanced)) text) ∧
    ∀ catalog : Catalog, assemble unity zero advanced = .ok catalog →
      catalog.entries = unity ++ zero ++ advanced ∧
      (∀ entry ∈ unity ++ zero ++ advanced, catalog.find? entry.text = some entry) ∧
      (∀ text : String, text ∉ Expression.texts (unity ++ zero ++ advanced) →
        catalog.find? text = none) ∧
      (∀ (datum : Datum) (entry : Expression),
        catalog.findDatum? datum = some entry ↔
          entry ∈ unity ++ zero ++ advanced ∧ datum = .text entry.text) ∧
      (∀ datum : Datum, catalog.contains datum = (catalog.findDatum? datum).isSome) ∧
      catalog.size = (Expression.texts (unity ++ zero ++ advanced)).toFinset.card ∧
      catalog.identityPool = unity ++ advanced ∧
      ∀ target : Number, target.equalsInt 1 = true →
        catalog.poolForTarget target true = catalog.identityPool := by
  refine ⟨exists_assemble_error_iff, fun _ => assemble_eq_error_iff, fun catalog made => ?_⟩
  obtain ⟨rfl, rfl, rfl⟩ := entries_of_assemble made
  exact ⟨rfl, fun entry isEntry => catalog.find?_eq_some_iff.mpr ⟨isEntry, rfl⟩,
    fun text notText => catalog.find?_eq_none_iff.mpr notText,
    fun _ _ => catalog.findDatum?_eq_some_iff, catalog.contains_eq_isSome_findDatum?,
    catalog.size_eq_card, rfl, fun _ one => catalog.poolForTarget_of_equalsInt_one one⟩

/-- The standard pools make a catalog. Two texts that occur in the first pool and, the other way
round, in the last one make none: the second of them repeats first. -/
theorem assemble_unambiguous_samples :
    (∃ (catalog : Catalog) (entry : Expression),
      assemble unityEntries zeroEntries advancedEntries = .ok catalog ∧
        entry ∈ unityEntries ++ zeroEntries ++ advancedEntries ∧
        entry.text = "2!-1!" ∧
        catalog.find? "2!-1!" = some entry ∧
        "0 !" ∉ Expression.texts (unityEntries ++ zeroEntries ++ advancedEntries) ∧
        catalog.find? "0 !" = none ∧
        (Number.float 1.0).equalsInt 1 = true ∧
        catalog.poolForTarget (.float 1.0) true = unityEntries ++ advancedEntries) ∧
      assemble (unityEntries.take 2) (zeroEntries.take 1) (unityEntries.take 2).reverse =
        .error (.duplicateText "0!") := by
  constructor
  · obtain ⟨fails, -, answers⟩ := assemble_unambiguous unityEntries zeroEntries advancedEntries
    have distinct : (Expression.texts (unityEntries ++ zeroEntries ++ advancedEntries)).Nodup :=
      standardCatalog.distinct
    have absent : "0 !" ∉ Expression.texts (unityEntries ++ zeroEntries ++ advancedEntries) := by
      decide
    have isText : "2!-1!" ∈ Expression.texts (unityEntries ++ zeroEntries ++ advancedEntries) := by
      decide
    have one : (Number.float 1.0).equalsInt 1 = true := by decide +kernel
    obtain ⟨entry, isEntry, hasText⟩ := List.mem_map.mp isText
    cases made : assemble unityEntries zeroEntries advancedEntries with
    | error fault => exact absurd distinct ((occursTwice_iff _).mp (fails.mp ⟨fault, made⟩))
    | ok catalog =>
        obtain ⟨-, found, notFound, -, -, -, pool, pools⟩ := answers catalog made
        exact ⟨catalog, entry, rfl, isEntry, hasText, hasText ▸ found entry isEntry, absent,
          notFound _ absent, one, (pools _ one).trans pool⟩
  · have repeats : IsFirstRepeat (Expression.texts
        (unityEntries.take 2 ++ zeroEntries.take 1 ++ (unityEntries.take 2).reverse)) "0!" :=
      ⟨["√1", "0!", "sin(0)"], ["√1"], rfl, by decide, by decide⟩
    exact ((assemble_unambiguous _ _ _).2.1 _).mpr ⟨_, rfl, repeats⟩

end Catalog

end FormulaGrid
