import FormulaGrid.Proofs.Formula.Phrase

/-!
Contract: every derivation tree can be rearranged into a greedy one.

Owns:
- what it is for a tree to be rearranged into another (`Phrase.Settles`);
- postfixes that stand behind a greedy phrase can be taken into it
  (`Phrase.takesBehind`);
- every tree has a greedy one with the same tokens and the same depth
  (`Phrase.exists_greedy`).

Only the postfixes behind a root move, so only their place in the order of
operations changes. Postfixes nest nothing, so the depth stays.
-/

namespace FormulaGrid

namespace Phrase

theorem depth_postfixes : (postfixes : Phrase .postfixes) → postfixes.depth = 0
  | noPostfixes => rfl
  | factorial _ others => depth_postfixes others
  | superscript _ _ others => depth_postfixes others

/-- Postfixes behind postfixes are postfixes. -/
theorem exists_joined (behind : Phrase .postfixes) :
    (first : Phrase .postfixes) →
      ∃ joined : Phrase .postfixes, joined.tokens = first.tokens ++ behind.tokens
  | noPostfixes => ⟨behind, rfl⟩
  | factorial mark others => by
      obtain ⟨joined, same⟩ := exists_joined behind others
      exact ⟨factorial mark joined, by rw [tokens, tokens, same, List.cons_append]⟩
  | superscript mark exponent others => by
      obtain ⟨joined, same⟩ := exists_joined behind others
      exact ⟨superscript mark exponent joined, by rw [tokens, tokens, same, List.cons_append]⟩

/-- A greedy tree that derives the given tokens and nests as deep as given. -/
structure Settles {category : Category} (settled : Phrase category)
    (tokens : List Token) (depth : Nat) : Prop where
  greedy : settled.Greedy
  sameTokens : settled.tokens = tokens
  sameDepth : settled.depth = depth

/-- Postfixes behind the phrase can be taken into it, which makes a primary a
postfixed phrase. Other categories have no postfixes behind them. -/
def TakesBehind : {category : Category} → Phrase category → Prop
  | .primary, phrase | .postfixed, phrase =>
      phrase.Greedy →
      ∀ behind : Phrase .postfixes,
        ∃ whole : Phrase .postfixed,
          whole.Settles (phrase.tokens ++ behind.tokens) phrase.depth
  | _, _ => True

/-- A primary that is no root keeps its postfixes outside. -/
theorem takesBehind_of_not_isRoot
    {primary : Phrase .primary}
    (notRoot : ¬ primary.IsRoot) :
    primary.TakesBehind := by
  intro greedy behind
  refine ⟨postfixed primary behind, ⟨greedy, fun isRoot => absurd isRoot notRoot⟩, rfl, ?_⟩
  rw [depth, depth_postfixes, Nat.max_zero]

/-- Postfixes behind a greedy phrase can be taken into it. -/
theorem takesBehind {category : Category} (phrase : Phrase category) :
    phrase.TakesBehind := by
  induction phrase with
  | root mark index radicand radicandTakes =>
      intro greedy behind
      obtain ⟨whole, wholeGreedy, sameTokens, sameDepth⟩ := radicandTakes greedy behind
      refine ⟨postfixed (root mark index whole) noPostfixes, ⟨wholeGreedy, fun _ => rfl⟩, ?_, ?_⟩
      · simp only [tokens, sameTokens, List.append_nil, List.cons_append]
      · simp only [depth, sameDepth, Nat.max_zero]
  | postfixed first others firstTakes =>
      intro greedy behind
      by_cases isRoot : first.IsRoot
      · obtain ⟨whole, settles⟩ := firstTakes greedy.1 behind
        rw [greedy.2 isRoot]
        refine ⟨whole, settles.greedy, ?_, ?_⟩
        · simp only [tokens, settles.sameTokens, List.append_nil]
        · simp only [depth, settles.sameDepth, Nat.max_zero]
      · obtain ⟨joined, same⟩ := exists_joined behind others
        obtain ⟨whole, settles⟩ := takesBehind_of_not_isRoot isRoot greedy.1 joined
        refine ⟨whole, settles.greedy, ?_, ?_⟩
        · rw [settles.sameTokens, same, tokens, List.append_assoc]
        · rw [settles.sameDepth, depth, depth_postfixes, Nat.max_zero]
  | number | constant | group | bars | application => exact takesBehind_of_not_isRoot id
  | _ => trivial

/-- Every tree has a greedy one with the same tokens, which nests as deep. -/
theorem exists_greedy {category : Category} (phrase : Phrase category) :
    ∃ settled : Phrase category, settled.Settles phrase.tokens phrase.depth := by
  induction phrase with
  | sum first others firstSettles othersSettles =>
      obtain ⟨settled, greedy, sameTokens, sameDepth⟩ := firstSettles
      obtain ⟨followers, othersGreedy, sameOthers, othersDepth⟩ := othersSettles
      exact ⟨sum settled followers, ⟨greedy, othersGreedy⟩,
        by rw [tokens, tokens, sameTokens, sameOthers],
        by rw [depth, depth, sameDepth, othersDepth]⟩
  | noTerms => exact ⟨noTerms, trivial, rfl, rfl⟩
  | plus sign term others termSettles othersSettles =>
      obtain ⟨settled, greedy, sameTokens, sameDepth⟩ := termSettles
      obtain ⟨followers, othersGreedy, sameOthers, othersDepth⟩ := othersSettles
      exact ⟨plus sign settled followers, ⟨greedy, othersGreedy⟩,
        by rw [tokens, tokens, sameTokens, sameOthers],
        by rw [depth, depth, sameDepth, othersDepth]⟩
  | minus sign term others termSettles othersSettles =>
      obtain ⟨settled, greedy, sameTokens, sameDepth⟩ := termSettles
      obtain ⟨followers, othersGreedy, sameOthers, othersDepth⟩ := othersSettles
      exact ⟨minus sign settled followers, ⟨greedy, othersGreedy⟩,
        by rw [tokens, tokens, sameTokens, sameOthers],
        by rw [depth, depth, sameDepth, othersDepth]⟩
  | product first others firstSettles othersSettles =>
      obtain ⟨settled, greedy, sameTokens, sameDepth⟩ := firstSettles
      obtain ⟨followers, othersGreedy, sameOthers, othersDepth⟩ := othersSettles
      exact ⟨product settled followers, ⟨greedy, othersGreedy⟩,
        by rw [tokens, tokens, sameTokens, sameOthers],
        by rw [depth, depth, sameDepth, othersDepth]⟩
  | noFactors => exact ⟨noFactors, trivial, rfl, rfl⟩
  | times sign factor others factorSettles othersSettles =>
      obtain ⟨settled, greedy, sameTokens, sameDepth⟩ := factorSettles
      obtain ⟨followers, othersGreedy, sameOthers, othersDepth⟩ := othersSettles
      exact ⟨times sign settled followers, ⟨greedy, othersGreedy⟩,
        by rw [tokens, tokens, sameTokens, sameOthers],
        by rw [depth, depth, sameDepth, othersDepth]⟩
  | dividedBy sign divisor others divisorSettles othersSettles =>
      obtain ⟨settled, greedy, sameTokens, sameDepth⟩ := divisorSettles
      obtain ⟨followers, othersGreedy, sameOthers, othersDepth⟩ := othersSettles
      exact ⟨dividedBy sign settled followers, ⟨greedy, othersGreedy⟩,
        by rw [tokens, tokens, sameTokens, sameOthers],
        by rw [depth, depth, sameDepth, othersDepth]⟩
  | negated sign operand operandSettles =>
      obtain ⟨settled, greedy, sameTokens, sameDepth⟩ := operandSettles
      exact ⟨negated sign settled, greedy, by rw [tokens, tokens, sameTokens],
        by rw [depth, depth, sameDepth]⟩
  | unsigned power powerSettles =>
      obtain ⟨settled, greedy, sameTokens, sameDepth⟩ := powerSettles
      exact ⟨unsigned settled, greedy, sameTokens, sameDepth⟩
  | unraised base baseSettles =>
      obtain ⟨settled, greedy, sameTokens, sameDepth⟩ := baseSettles
      exact ⟨unraised settled, greedy, sameTokens, sameDepth⟩
  | raised base sign exponent baseSettles exponentSettles =>
      obtain ⟨settled, greedy, sameTokens, sameDepth⟩ := baseSettles
      obtain ⟨upper, upperGreedy, sameUpper, upperDepth⟩ := exponentSettles
      exact ⟨raised settled sign upper, ⟨greedy, upperGreedy⟩,
        by rw [tokens, tokens, sameTokens, sameUpper],
        by rw [depth, depth, sameDepth, upperDepth]⟩
  | postfixed first others firstSettles othersSettles =>
      obtain ⟨settled, greedy, sameTokens, sameDepth⟩ := firstSettles
      obtain ⟨whole, settles⟩ := settled.takesBehind greedy others
      refine ⟨whole, settles.greedy, ?_, ?_⟩
      · rw [settles.sameTokens, sameTokens, tokens]
      · rw [settles.sameDepth, sameDepth, depth, depth_postfixes, Nat.max_zero]
  | noPostfixes => exact ⟨noPostfixes, trivial, rfl, rfl⟩
  | factorial mark others => exact ⟨factorial mark others, trivial, rfl, rfl⟩
  | superscript mark exponent others =>
      exact ⟨superscript mark exponent others, trivial, rfl, rfl⟩
  | number mark value => exact ⟨number mark value, trivial, rfl, rfl⟩
  | constant mark value => exact ⟨constant mark value, trivial, rfl, rfl⟩
  | group opening inner closing innerSettles =>
      obtain ⟨settled, greedy, sameTokens, sameDepth⟩ := innerSettles
      exact ⟨group opening settled closing, greedy, by rw [tokens, tokens, sameTokens],
        by rw [depth, depth, sameDepth]⟩
  | bars opening inner closing innerSettles =>
      obtain ⟨settled, greedy, sameTokens, sameDepth⟩ := innerSettles
      exact ⟨bars opening settled closing, greedy, by rw [tokens, tokens, sameTokens],
        by rw [depth, depth, sameDepth]⟩
  | application word name exponent logarithmBase opening argument closing argumentSettles =>
      obtain ⟨settled, greedy, sameTokens, sameDepth⟩ := argumentSettles
      exact ⟨application word name exponent logarithmBase opening settled closing, greedy,
        by rw [tokens, tokens, sameTokens], by rw [depth, depth, sameDepth]⟩
  | root mark index radicand radicandSettles =>
      obtain ⟨settled, greedy, sameTokens, sameDepth⟩ := radicandSettles
      exact ⟨root mark index settled, greedy, by rw [tokens, tokens, sameTokens],
        by rw [depth, depth, sameDepth]⟩

end Phrase

end FormulaGrid
