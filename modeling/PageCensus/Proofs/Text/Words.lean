import Mathlib.Algebra.GroupWithZero.Nat
import PageCensus.Text.Words

/-!
# Words are runs without blanks

What `words` gives, apart from how it is found: which texts can be words (`IsWord`), how many of
them a text can hold, where its characters are in them, and that a stretch of blanks between two
texts keeps their words apart.

* `isWord_of_mem_words` — every word is a run: not empty, and without blanks.
* `length_words_le`, `length_words_le_countP` — a text has at most as many words as characters, and
  at most one more than blanks.
* `flatten_words`, `sum_count_words` — every character that is not blank is in exactly one word.
* `words_append_blanks`, `words_intercalate` — texts with blanks between them have the words that
  the texts have one by one.
-/

set_option autoImplicit false

namespace PageCensus

/-- A run that can be a word: there is something in it, and no blank. -/
structure IsWord (word : List Char) : Prop where
  /-- A word is not empty. -/
  ne_nil : word ≠ []
  /-- A word holds no blank. -/
  not_blank : ∀ c ∈ word, isBlank c = false

namespace WordScan

/-- What holds of a scan at any time: the front run holds no blank, though it may be empty, and
the runs behind it are words. -/
structure Clean (scan : WordScan) : Prop where
  /-- No blank gets into the front run. -/
  front : ∀ c ∈ scan.front, isBlank c = false
  /-- The runs behind the front run are words. -/
  rest : ∀ word ∈ scan.rest, IsWord word

theorem Clean.isWord {scan : WordScan} (h : scan.Clean) {word : List Char}
    (hw : word ∈ scan.words) : IsWord word := by
  rw [words] at hw
  split at hw
  · exact h.rest word hw
  · next hfront =>
    rcases List.mem_cons.1 hw with rfl | hw
    · exact ⟨fun hnil => hfront (by rw [hnil]; rfl), h.front⟩
    · exact h.rest word hw

theorem Clean.read {scan : WordScan} (h : scan.Clean) (c : Char) : (scan.read c).Clean := by
  rw [WordScan.read]
  split
  · exact ⟨fun _ hx => absurd hx List.not_mem_nil, fun _ hw => h.isWord hw⟩
  · next hc =>
    refine ⟨fun x hx => ?_, h.rest⟩
    rcases List.mem_cons.1 hx with rfl | hx
    · exact Bool.eq_false_iff.2 hc
    · exact h.front x hx

theorem clean_ofText (text : List Char) : (ofText text).Clean := by
  induction text with
  | nil => exact ⟨fun _ h => absurd h List.not_mem_nil, fun _ h => absurd h List.not_mem_nil⟩
  | cons c text ih => exact ih.read c

theorem length_words_read_le (scan : WordScan) (c : Char) :
    (scan.read c).words.length ≤ scan.words.length + 1 := by
  rw [read]
  split
  · exact Nat.le_succ _
  · show ((c :: scan.front) :: scan.rest).length ≤ _
    rw [List.length_cons, words]
    split
    · exact Nat.le_refl _
    · exact Nat.le_succ _

end WordScan

/-- **Every word is a run without blanks.** -/
theorem isWord_of_mem_words {text word : List Char} (h : word ∈ words text) : IsWord word :=
  (WordScan.clean_ofText text).isWord h

/-- Each character starts at most one word. -/
theorem length_words_le (text : List Char) : (words text).length ≤ text.length := by
  induction text with
  | nil => exact Nat.le_refl 0
  | cons c text ih =>
    have hstep := WordScan.length_words_read_le (WordScan.ofText text) c
    rw [words] at ih
    rw [words, WordScan.ofText_cons, List.length_cons]
    omega

/-! ## Where the characters are -/

namespace WordScan

theorem flatten_words_eq (scan : WordScan) :
    scan.words.flatten = scan.front ++ scan.rest.flatten := by
  rw [words]
  split
  · next hfront => rw [List.isEmpty_iff.1 hfront, List.nil_append]
  · rw [List.flatten_cons]

/-- A character that is read gets into the words, in front of all others, unless it is blank. -/
theorem flatten_words_read (scan : WordScan) (c : Char) :
    (scan.read c).words.flatten = [c].filter (fun c => !isBlank c) ++ scan.words.flatten := by
  rw [flatten_words_eq, read]
  split
  · next hc => simp [hc]
  · next hc => simp [hc, flatten_words_eq]

/-- A word behind the front run has a blank in front of it. -/
theorem length_rest_le (text : List Char) : (ofText text).rest.length ≤ text.countP isBlank := by
  induction text with
  | nil => exact Nat.le_refl 0
  | cons c text ih =>
    rw [ofText_cons, read]
    split
    · next hc =>
      rw [List.countP_cons_of_pos hc]
      show (ofText text).words.length ≤ _
      rw [words]
      split
      · omega
      · rw [List.length_cons]
        omega
    · next hc => rwa [List.countP_cons_of_neg hc]

end WordScan

/-- **Every character that is not blank is in exactly one word**: the words, put together, are the
text without its blanks. -/
theorem flatten_words (text : List Char) :
    (words text).flatten = text.filter fun c => !isBlank c := by
  induction text with
  | nil => rfl
  | cons c text ih =>
    rw [words, WordScan.ofText_cons, WordScan.flatten_words_read, ← words, ih,
      ← List.filter_append, List.singleton_append]

/-- The words hold such a character as often as the text does. -/
theorem sum_count_words {c : Char} (h : isBlank c = false) (text : List Char) :
    ((words text).map (List.count c)).sum = text.count c := by
  rw [← List.count_flatten, flatten_words, List.count_filter (by rw [h]; rfl)]

/-- **Between two words there is a blank**, so a text has at most one word more than blanks. -/
theorem length_words_le_countP (text : List Char) :
    (words text).length ≤ text.countP isBlank + 1 := by
  have hrest := WordScan.length_rest_le text
  rw [words, WordScan.words]
  split
  · omega
  · rw [List.length_cons]
    omega

/-! ## Blanks between texts -/

theorem words_blanks_append {blanks : List Char} (h : ∀ c ∈ blanks, isBlank c = true)
    (text : List Char) : words (blanks ++ text) = words text := by
  induction blanks with
  | nil => rfl
  | cons c blanks ih =>
    rw [List.cons_append, words_cons_blank (h c List.mem_cons_self),
      ih fun x hx => h x (List.mem_cons_of_mem c hx)]

/-- **Blanks keep the words on their two sides apart**, however many they are. -/
theorem words_append_blanks {blanks : List Char} (hne : blanks ≠ [])
    (h : ∀ c ∈ blanks, isBlank c = true) (a b : List Char) :
    words (a ++ (blanks ++ b)) = words a ++ words b := by
  obtain ⟨c, rest, rfl⟩ := List.exists_cons_of_ne_nil hne
  rw [List.cons_append, words_append_blank a _ (h c List.mem_cons_self),
    words_blanks_append fun x hx => h x (List.mem_cons_of_mem c hx)]

/-- **Texts joined by blanks have the words of the texts.** -/
theorem words_intercalate {blanks : List Char} (hne : blanks ≠ [])
    (h : ∀ c ∈ blanks, isBlank c = true) (texts : List (List Char)) :
    words (blanks.intercalate texts) = texts.flatMap words := by
  induction texts with
  | nil => rfl
  | cons text texts ih =>
    rw [List.flatMap_cons, ← ih]
    cases texts with
    | nil => rw [List.intercalate_singleton, List.intercalate_nil, words_nil, List.append_nil]
    | cons next texts =>
      rw [List.intercalate_cons_cons, List.append_assoc, words_append_blanks hne h]

end PageCensus
