import PageCensus.Proofs.Tally.Census
import PageCensus.Proofs.Tally.Weight
import PageCensus.Proofs.Text.Joint

/-!
# What counting the words of a text counts

The tally of the words of a text is that of its runs without blanks, each as often as it occurs.  So
it can be told from the two parts of a text, except for the two words that meet where one part ends
and the other begins: if there is no blank between them, each of them was counted once too often,
and the word that they make together once too seldom.

* `CountsRuns`, `countWords_runs` — what is counted, by the layout of the text.
* `Tally.remove` — a tally with one occurrence less.
* `Concatenated`, `counts_concatenated` — what is counted, by the two parts of the text.
-/

set_option autoImplicit false

namespace PageCensus

/-! ## Runs -/

/-- **A tally counts the runs of a text**, of which a layout is given. -/
structure CountsRuns (layout : Layout) (tally : Tally String) : Prop where
  /-- A word is in the tally exactly if it is a run of the text. -/
  mem_iff : ∀ word, word ∈ tally ↔ ∃ item ∈ layout.items, item.word = word.toList
  /-- Its count says how many of the runs it is. -/
  count_eq : ∀ word, tally.count word =
    layout.items.countP fun item => item.word == word.toList
  /-- No word in the tally is empty or holds a blank. -/
  isWord : ∀ word ∈ tally, IsWord word.toList
  /-- The counts add up to the number of runs. -/
  total_eq : tally.total = layout.items.length
  /-- The runs are what is left of the pieces between the stretches of blanks without those that are
  empty. -/
  pieces : (splitAtBlanks layout.text).filter (fun piece => !piece.isEmpty) =
    layout.items.map SpacedWord.word

theorem count_map_ofList (runs : List (List Char)) (word : String) :
    (runs.map String.ofList).count word = runs.count word.toList := by
  have hinjective : Function.Injective String.ofList := fun _ _ => String.ofList_inj.1
  rw [← List.count_map_of_injective runs String.ofList hinjective, String.ofList_toList]

theorem mem_countWords {body word : String} :
    word ∈ countWords body ↔ word.toList ∈ words body.toList := by
  rw [countWords, Tally.mem_ofTokens, mem_map_ofList]

theorem countsRuns_countWords {body : String} {layout : Layout} (h : layout.text = body.toList) :
    CountsRuns layout (countWords body) := by
  have hwords : words body.toList = layout.items.map SpacedWord.word := by
    rw [← h, layout.words_text, Layout.words]
  constructor
  case mem_iff =>
    intro word
    rw [mem_countWords, hwords, List.mem_map]
  case count_eq =>
    intro word
    rw [countWords, Tally.count_ofTokens, count_map_ofList, hwords, List.count, List.countP_map]
    rfl
  case isWord => exact fun word hword => isWord_of_mem_words (mem_countWords.1 hword)
  case total_eq =>
    rw [countWords, Tally.total_ofTokens, List.length_map, hwords, List.length_map]
  case pieces => rw [filter_splitAtBlanks, h, hwords]

/-- **Counting words counts the runs without blanks.**  Every text has one layout, and no other, and
its runs are what is counted. -/
theorem countWords_runs (body : String) :
    ∃ layout : Layout, layout.text = body.toList ∧
      (∀ other : Layout, other.text = body.toList → other = layout) ∧
      CountsRuns layout (countWords body) := by
  obtain ⟨layout, hlayout, hunique⟩ := Layout.existsUnique_layout body.toList
  exact ⟨layout, hlayout, hunique, countsRuns_countWords hlayout⟩

/-! ## One occurrence less -/

namespace Tally

variable {κ : Type} [Token κ]

/-- The tally with one occurrence of `k` less; the last one takes the token with it. -/
def remove (tally : Tally κ) (k : κ) : Tally κ :=
  tally.alter k fun n => if n.getD 0 ≤ 1 then none else n.map (· - 1)

theorem getElem?_remove (tally : Tally κ) (k l : κ) :
    (tally.remove k)[l]? =
      if compare k l = .eq then
        if tally.count k ≤ 1 then none else some (tally.count k - 1)
      else tally[l]? := by
  rw [remove, Std.ExtTreeMap.getElem?_alter]
  split
  · rw [count]
    cases tally[k]? with
    | none => rfl
    | some n => rfl
  · rfl

/-- Removing what was just added changes nothing, as no token is kept with a count of zero. -/
theorem remove_add {tally : Tally κ} {k : κ} (h : tally[k]? ≠ some 0) :
    (tally.add k).remove k = tally := by
  refine Std.ExtTreeMap.ext_getElem? fun l => ?_
  have hself : compare k k = .eq := Std.ReflCmp.compare_self
  rw [getElem?_remove, getElem?_add, count_add, if_pos hself]
  split
  · next hkl =>
    rw [← Std.LawfulEqOrd.eq_of_compare hkl, count]
    cases hk : tally[k]? with
    | none => rfl
    | some n =>
      cases n with
      | zero => exact absurd hk h
      | succ n => simp
  · rfl

theorem getElem?_ofTokens_ne_zero (tokens : List κ) (k : κ) : (ofTokens tokens)[k]? ≠ some 0 :=
  fun h => absurd (one_le_of_getElem?_ofTokens h) (by decide)

theorem ofTokens_concat (tokens : List κ) (k : κ) :
    ofTokens (tokens ++ [k]) = (ofTokens tokens).add k := by
  rw [ofTokens_append, List.foldl_cons, List.foldl_nil]

/-- **In the tally of a list, a token is replaced** by removing it and adding the other one. -/
theorem ofTokens_remove_remove_add (before after : List κ) (k l m : κ) :
    (((ofTokens (before ++ [k] ++ l :: after)).remove k).remove l).add m =
      ofTokens (before ++ m :: after) := by
  have hleft : (before ++ [k] ++ l :: after).Perm (before ++ after ++ [l] ++ [k]) := by
    have hback : (after ++ [l] ++ [k]).Perm ([k] ++ l :: after) :=
      (List.perm_append_singleton k _).trans ((List.perm_append_singleton l after).cons k)
    simpa only [List.append_assoc] using hback.symm.append_left before
  have hright : (before ++ m :: after).Perm (before ++ after ++ [m]) := by
    simpa only [List.append_assoc] using
      (List.perm_append_singleton m after).symm.append_left before
  rw [ofTokens_perm hleft, ofTokens_concat, remove_add (getElem?_ofTokens_ne_zero _ _),
    ofTokens_concat, remove_add (getElem?_ofTokens_ne_zero _ _), ofTokens_perm hright,
    ofTokens_concat]

end Tally

/-! ## Concatenation -/

/-- **What two texts have to do with the text that they make together**, as far as it is counted. -/
structure Concatenated (a b : String) : Prop where
  /-- The characters are those of both. -/
  chars : (countChars a).merge? (countChars b) = some (countChars (a ++ b))
  /-- The words are those of both exactly if the texts are apart. -/
  words_iff : (countWords a).merge? (countWords b) = some (countWords (a ++ b)) ↔
    Apart a.toList b.toList
  /-- Otherwise one occurrence of the last word of the first and one of the first word of the second
  are replaced by one of the word that they make together. -/
  fused : ¬ Apart a.toList b.toList →
    ∃ merged last first, (countWords a).merge? (countWords b) = some merged ∧
      (words a.toList).getLast? = some last ∧ (words b.toList).head? = some first ∧
      countWords (a ++ b) =
        ((merged.remove (.ofList last)).remove (.ofList first)).add (.ofList (last ++ first))
  /-- Between the two texts, any blanks do as well as any others. -/
  exchange : ∀ blanks blanks' : String, blanks ≠ "" → blanks' ≠ "" →
    (∀ c ∈ blanks.toList, isBlank c = true) → (∀ c ∈ blanks'.toList, isBlank c = true) →
      countWords (a ++ blanks ++ b) = countWords (a ++ blanks' ++ b)
  /-- Blanks at the ends of a text do not matter. -/
  surround : ∀ blanks : String, (∀ c ∈ blanks.toList, isBlank c = true) →
    countWords (blanks ++ a) = countWords a ∧ countWords (a ++ blanks) = countWords a

/-- Texts with the same words have the same counts. -/
theorem countWords_congr {a b : String} (h : words a.toList = words b.toList) :
    countWords a = countWords b := by rw [countWords, h, countWords]

theorem merge?_countChars {a b : String} (h : a.length + b.length < countLimit) :
    (countChars a).merge? (countChars b) = some (countChars (a ++ b)) := by
  rw [countChars, countChars, countChars, String.toList_append]
  exact Tally.merge?_ofTokens h

theorem merge?_countWords {a b : String} (h : a.length + b.length < countLimit) :
    (countWords a).merge? (countWords b) =
      some (Tally.ofTokens ((words a.toList ++ words b.toList).map String.ofList)) := by
  have ha := length_words_le a.toList
  have hb := length_words_le b.toList
  rw [String.length_toList] at ha hb
  rw [countWords, countWords, List.map_append]
  refine Tally.merge?_ofTokens ?_
  rw [List.length_map, List.length_map]
  omega

theorem merge?_countWords_iff {a b : String} (h : a.length + b.length < countLimit) :
    (countWords a).merge? (countWords b) = some (countWords (a ++ b)) ↔
      Apart a.toList b.toList := by
  rw [merge?_countWords h, Option.some_inj, countWords, String.toList_append]
  constructor
  · intro htally
    by_contra hapart
    have hlength := length_words_append_of_not_apart hapart
    have htotal := congrArg Tally.total htally
    rw [Tally.total_ofTokens, Tally.total_ofTokens, List.length_map, List.length_map,
      List.length_append] at htotal
    omega
  · intro hapart
    rw [words_append_of_apart hapart]

theorem countWords_append_of_not_apart {a b : String} (h : a.length + b.length < countLimit)
    (hapart : ¬ Apart a.toList b.toList) :
    ∃ merged last first, (countWords a).merge? (countWords b) = some merged ∧
      (words a.toList).getLast? = some last ∧ (words b.toList).head? = some first ∧
      countWords (a ++ b) =
        ((merged.remove (.ofList last)).remove (.ofList first)).add (.ofList (last ++ first)) := by
  obtain ⟨before, last, first, after, ha, hb, hab⟩ := exists_words_append_eq hapart
  refine ⟨_, last, first, merge?_countWords h, ?_, ?_, ?_⟩
  · rw [ha, List.getLast?_append, List.getLast?_singleton, Option.some_or]
  · rw [hb, List.head?_cons]
  · rw [countWords, String.toList_append, hab, ha, hb]
    simp only [List.map_append, List.map_cons, List.map_nil]
    rw [Tally.ofTokens_remove_remove_add]

/-- **Counting and concatenation**, of texts with fewer characters than a count can hold. -/
theorem counts_concatenated {a b : String} (h : a.length + b.length < countLimit) :
    Concatenated a b := by
  constructor
  case chars => exact merge?_countChars h
  case words_iff => exact merge?_countWords_iff h
  case fused => exact countWords_append_of_not_apart h
  case exchange =>
    intro blanks blanks' hne hne' hblank hblank'
    have hwords : ∀ blanks : String, blanks ≠ "" → (∀ c ∈ blanks.toList, isBlank c = true) →
        words (a ++ blanks ++ b).toList = words a.toList ++ words b.toList := by
      intro blanks hne hblank
      rw [String.toList_append, String.toList_append, List.append_assoc]
      exact words_append_blanks (fun hnil => hne (String.toList_eq_nil_iff.1 hnil)) hblank _ _
    exact countWords_congr (by rw [hwords _ hne hblank, hwords _ hne' hblank'])
  case surround =>
    intro blanks hblank
    constructor
    · refine countWords_congr ?_
      rw [String.toList_append, words_blanks_append hblank]
    · refine countWords_congr ?_
      rw [String.toList_append, words_append_blanks_end hblank]

/-- The words that become one, `to` and `or`, have other occurrences in the two texts, and so has
the word that they make. -/
theorem counts_concatenated_of_fused :
    "toor or to".length + "or not to".length < countLimit ∧
      Concatenated "toor or to" "or not to" := by
  have h : "toor or to".length + "or not to".length < countLimit := by decide
  exact ⟨h, counts_concatenated h⟩

end PageCensus
