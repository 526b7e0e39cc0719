import PageCensus.Proofs.Tally.Merge
import PageCensus.Proofs.Text.Words

/-!
# The census of several texts

A run counts each text for itself and merges the result into what it has so far.  This file says
what comes out: the census of all texts at once, `Census.ofTexts`.

* `chars_ofTexts`, `words_ofTexts` — the census of several texts is that of one text, in which they
  stand one after the other; for the words with blanks between them, so that the last word of a
  text and the first of the next do not become one.
* `eq_ofTexts_of_mergeAll?` — if merging comes to an end, this is its result.
* `mergeAll?_ofTexts` — it does as long as the texts have fewer than `countLimit` characters.
-/

set_option autoImplicit false

namespace PageCensus

/-- How many characters several texts have together. -/
def totalLength (texts : List String) : Nat := (texts.map String.length).sum

@[simp] theorem totalLength_cons (text : String) (texts : List String) :
    totalLength (text :: texts) = text.length + totalLength texts := by
  rw [totalLength, List.map_cons, List.sum_cons, totalLength]

theorem totalLength_append (a b : List String) :
    totalLength (a ++ b) = totalLength a + totalLength b := by
  rw [totalLength, List.map_append, List.sum_append, totalLength, totalLength]

theorem totalLength_perm {a b : List String} (h : a.Perm b) : totalLength a = totalLength b :=
  (h.map String.length).sum_nat

theorem length_le_totalLength {text : String} {texts : List String} (h : text ∈ texts) :
    text.length ≤ totalLength texts := by
  obtain ⟨before, after, rfl⟩ := List.append_of_mem h
  rw [totalLength_append, totalLength_cons]
  omega

theorem mem_map_ofList {runs : List (List Char)} {word : String} :
    word ∈ runs.map String.ofList ↔ word.toList ∈ runs := by
  rw [List.mem_map]
  constructor
  · rintro ⟨run, hrun, rfl⟩
    rwa [String.toList_ofList]
  · exact fun h => ⟨word.toList, h, String.ofList_toList⟩

namespace Census

/-- The characters of several texts, in order. -/
def charTokens (texts : List String) : List Char := texts.flatMap String.toList

/-- The words of several texts, in order. -/
def wordTokens (texts : List String) : List String :=
  texts.flatMap fun text => (PageCensus.words text.toList).map String.ofList

/-- The census of several texts, each with its own words. -/
def ofTexts (texts : List String) : Census :=
  ⟨Tally.ofTokens (charTokens texts), Tally.ofTokens (wordTokens texts)⟩

theorem length_charTokens (texts : List String) :
    (charTokens texts).length = totalLength texts := by
  induction texts with
  | nil => rfl
  | cons text texts ih =>
    rw [charTokens] at ih
    rw [charTokens, List.flatMap_cons, List.length_append, ih, String.length_toList,
      totalLength_cons]

theorem length_wordTokens_le (texts : List String) :
    (wordTokens texts).length ≤ totalLength texts := by
  induction texts with
  | nil => exact Nat.le_refl 0
  | cons text texts ih =>
    have hwords := length_words_le text.toList
    rw [wordTokens] at ih
    rw [String.length_toList] at hwords
    rw [wordTokens, List.flatMap_cons, List.length_append, List.length_map, totalLength_cons]
    omega

theorem mem_wordTokens {texts : List String} {word : String} :
    word ∈ wordTokens texts ↔ ∃ text ∈ texts, word.toList ∈ PageCensus.words text.toList := by
  rw [wordTokens, List.mem_flatMap]
  exact exists_congr fun text => and_congr_right fun _ => mem_map_ofList

@[simp] theorem ofTexts_nil : ofTexts [] = empty := rfl

/-- The order of the texts does not matter to their census. -/
theorem ofTexts_perm {a b : List String} (h : a.Perm b) : ofTexts a = ofTexts b := by
  rw [ofTexts, ofTexts, charTokens, charTokens, wordTokens, wordTokens,
    Tally.ofTokens_perm (h.flatMap_right _), Tally.ofTokens_perm (h.flatMap_right _)]

/-! ## Several texts as one -/

/-- The characters of several texts are counted as if they were one text. -/
theorem chars_ofTexts (texts : List String) :
    (ofTexts texts).chars = countChars (String.join texts) := by
  rw [countChars, String.toList_join]
  rfl

/-- **The words of several texts are counted as if they were one text with blanks in between.** -/
theorem words_ofTexts {separator : String} (hne : separator ≠ "")
    (h : ∀ c ∈ separator.toList, isBlank c = true) (texts : List String) :
    (ofTexts texts).words = countWords (separator.intercalate texts) := by
  have hblanks : separator.toList ≠ [] := fun hnil => hne (String.toList_eq_nil_iff.1 hnil)
  rw [countWords, String.toList_intercalate, words_intercalate hblanks h, List.flatMap_map,
    List.map_flatMap]
  rfl

/-- The words that are counted are runs without blanks. -/
theorem isWord_of_mem_words_ofTexts {texts : List String} {word : String}
    (h : word ∈ (ofTexts texts).words) : IsWord word.toList := by
  obtain ⟨text, -, hword⟩ := mem_wordTokens.1 (Tally.mem_ofTokens.1 h)
  exact isWord_of_mem_words hword

/-! ## Merging text after text -/

/-- Merge the census of each text, one after the other, if every sum fits. -/
def mergeAll? (census : Census) (texts : List String) : Option Census :=
  texts.foldlM (fun census text => census.merge? (ofText text)) census

@[simp] theorem mergeAll?_nil (census : Census) : census.mergeAll? [] = some census := rfl

@[simp] theorem mergeAll?_cons (census : Census) (text : String) (texts : List String) :
    census.mergeAll? (text :: texts) =
      (census.merge? (ofText text)).bind fun census => census.mergeAll? texts := by
  rw [mergeAll?, List.foldlM_cons]
  rfl

theorem mergeAll?_append (census : Census) (a b : List String) :
    census.mergeAll? (a ++ b) = (census.mergeAll? a).bind fun census => census.mergeAll? b := by
  rw [mergeAll?, List.foldlM_append]
  rfl

theorem merge?_eq_some {census page sum : Census} :
    census.merge? page = some sum ↔
      census.chars.merge? page.chars = some sum.chars ∧
        census.words.merge? page.words = some sum.words := by
  rw [merge?]
  cases hchars : census.chars.merge? page.chars with
  | none => simp
  | some chars =>
    cases hwords : census.words.merge? page.words with
    | none => simp
    | some words =>
      obtain ⟨chars', words'⟩ := sum
      simp

theorem ofText_eq_ofTexts (text : String) : ofText text = ofTexts [text] := by
  rw [ofTexts, charTokens, wordTokens, List.flatMap_singleton, List.flatMap_singleton]
  rfl

theorem charTokens_append (a b : List String) :
    charTokens (a ++ b) = charTokens a ++ charTokens b := List.flatMap_append

theorem wordTokens_append (a b : List String) :
    wordTokens (a ++ b) = wordTokens a ++ wordTokens b := List.flatMap_append

theorem eq_of_merge?_ofTexts {a b : List String} {sum : Census}
    (h : (ofTexts a).merge? (ofTexts b) = some sum) : sum = ofTexts (a ++ b) := by
  obtain ⟨hchars, hwords⟩ := merge?_eq_some.1 h
  obtain ⟨chars, words⟩ := sum
  rw [ofTexts, charTokens_append, wordTokens_append]
  exact congr (congrArg Census.mk (Tally.eq_of_merge?_ofTokens hchars))
    (Tally.eq_of_merge?_ofTokens hwords)

theorem merge?_ofTexts {a b : List String} (h : totalLength (a ++ b) < countLimit) :
    (ofTexts a).merge? (ofTexts b) = some (ofTexts (a ++ b)) := by
  rw [totalLength_append] at h
  have ha := length_wordTokens_le a
  have hb := length_wordTokens_le b
  rw [merge?_eq_some]
  constructor
  · have hfits : (charTokens a).length + (charTokens b).length < countLimit := by
      rwa [length_charTokens, length_charTokens]
    rw [ofTexts, ofTexts, Tally.merge?_ofTokens hfits, ofTexts, charTokens_append]
  · have hfits : (wordTokens a).length + (wordTokens b).length < countLimit := by omega
    rw [ofTexts, ofTexts, Tally.merge?_ofTokens hfits, ofTexts, wordTokens_append]

/-- **Merging text after text can only give the census of all of them.** -/
theorem eq_ofTexts_of_mergeAll? {a b : List String} {sum : Census}
    (h : (ofTexts a).mergeAll? b = some sum) : sum = ofTexts (a ++ b) := by
  induction b generalizing a with
  | nil =>
    rw [mergeAll?_nil, Option.some_inj] at h
    rw [List.append_nil, h]
  | cons text b ih =>
    rw [mergeAll?_cons, Option.bind_eq_some_iff] at h
    obtain ⟨census, hmerge, hrest⟩ := h
    rw [ofText_eq_ofTexts] at hmerge
    rw [eq_of_merge?_ofTexts hmerge] at hrest
    rw [ih hrest, List.append_assoc, List.singleton_append]

/-- **Merging succeeds as long as no text is too long**: the characters of all texts together are
fewer than a count can hold. -/
theorem mergeAll?_ofTexts {a b : List String} (h : totalLength (a ++ b) < countLimit) :
    (ofTexts a).mergeAll? b = some (ofTexts (a ++ b)) := by
  induction b generalizing a with
  | nil => rw [mergeAll?_nil, List.append_nil]
  | cons text b ih =>
    rw [← List.singleton_append, ← List.append_assoc] at h
    have hfirst : totalLength (a ++ [text]) < countLimit := by
      rw [totalLength_append] at h
      omega
    rw [mergeAll?_cons, ofText_eq_ofTexts, merge?_ofTexts hfirst, Option.bind_some, ih h,
      List.append_assoc, List.singleton_append]

end Census
end PageCensus
