import Mathlib.Data.List.TakeWhile
import Mathlib.Logic.ExistsUnique
import PageCensus.Proofs.Text.Words

/-!
# Texts taken apart

A text is a stretch of blanks, which may be empty, and then words, each with the stretch of blanks
behind it, of which only the last may be empty.  Every text can be taken apart like this, and in one
way only; the words in it are those that `words` finds.  So do those who cut a text at its stretches
of blanks and throw away the pieces in which there is nothing.

* `Layout` — a text taken apart; `existsUnique_layout` says that there is one for each text.
* `words_text` — the words of a text are those of its layout.
* `splitAtBlanks`, `filter_splitAtBlanks` — the words are the pieces between the stretches of
  blanks.
-/

set_option autoImplicit false

namespace PageCensus

/-- A word with the blanks behind it. -/
@[ext] structure SpacedWord where
  /-- The word. -/
  word : List Char
  /-- The blanks behind it. -/
  gap : List Char
  /-- The word is a run without blanks. -/
  isWord : IsWord word
  /-- There are only blanks behind it. -/
  gap_blank : ∀ c ∈ gap, isBlank c = true

/-- The text of a word and the blanks behind it. -/
def SpacedWord.text (item : SpacedWord) : List Char := item.word ++ item.gap

/-- A text taken apart into words and the blanks between them. -/
@[ext] structure Layout where
  /-- The blanks at the front. -/
  lead : List Char
  /-- The words, each with the blanks behind it. -/
  items : List SpacedWord
  /-- There are only blanks at the front. -/
  lead_blank : ∀ c ∈ lead, isBlank c = true
  /-- Between two words there is at least one blank. -/
  gap_ne_nil : ∀ item ∈ items.dropLast, item.gap ≠ []

namespace Layout

/-- The text that was taken apart. -/
def text (layout : Layout) : List Char := layout.lead ++ layout.items.flatMap SpacedWord.text

/-- The words of the text. -/
def words (layout : Layout) : List (List Char) := layout.items.map SpacedWord.word

end Layout

/-! ## One layout at most

The blanks at the front of a text are all that come before its first character that is not blank,
and its first word is all that then comes before the next blank. -/

section

variable {p : Char → Bool} {a a' b b' : List Char}

theorem takeWhile_append_of_head? (ha : ∀ c ∈ a, p c = true) (hb : ∀ c ∈ b.head?, p c = false) :
    (a ++ b).takeWhile p = a := by
  have hnil : b.takeWhile p = [] := by
    cases b with
    | nil => rfl
    | cons c b => rw [List.takeWhile_cons_of_neg (by simp [hb c rfl])]
  rw [List.takeWhile_append_of_pos ha, hnil, List.append_nil]

/-- A text is cut in one way only into a front of one class of characters and a rest that does not
begin with that class. -/
theorem append_inj_of_head? (ha : ∀ c ∈ a, p c = true) (ha' : ∀ c ∈ a', p c = true)
    (hb : ∀ c ∈ b.head?, p c = false) (hb' : ∀ c ∈ b'.head?, p c = false)
    (h : a ++ b = a' ++ b') : a = a' ∧ b = b' := by
  have hfront : a = a' := by
    rw [← takeWhile_append_of_head? ha hb, h, takeWhile_append_of_head? ha' hb']
  subst hfront
  exact ⟨rfl, List.append_cancel_left h⟩

end

section

variable {item : SpacedWord} {items items' : List SpacedWord}

/-- Only the last word may have no blank behind it. -/
theorem gap_ne_nil_cons_iff :
    (∀ x ∈ (item :: items).dropLast, x.gap ≠ []) ↔
      (∀ x ∈ items.dropLast, x.gap ≠ []) ∧ (item.gap = [] → items = []) := by
  cases items with
  | nil => simp
  | cons next rest =>
    rw [List.dropLast_cons_cons, List.forall_mem_cons, and_comm]
    simp

/-- Words do not begin with a blank. -/
theorem isBlank_head?_flatMap_text :
    ∀ c ∈ (items.flatMap SpacedWord.text).head?, isBlank c = false := by
  intro c hc
  cases items with
  | nil => cases hc
  | cons item rest =>
    obtain ⟨first, word, hword⟩ := List.exists_cons_of_ne_nil item.isWord.ne_nil
    rw [List.flatMap_cons, SpacedWord.text, hword, List.cons_append, List.cons_append,
      List.head?_cons, Option.mem_some_iff] at hc
    subst hc
    exact item.isWord.not_blank _ (hword ▸ List.mem_cons_self)

/-- Behind a word comes a blank, or nothing. -/
theorem isBlank_head?_gap_append (h : ∀ x ∈ (item :: items).dropLast, x.gap ≠ []) :
    ∀ c ∈ (item.gap ++ items.flatMap SpacedWord.text).head?, isBlank c = true := by
  intro c hc
  cases hgap : item.gap with
  | nil =>
    rw [hgap, (gap_ne_nil_cons_iff.1 h).2 hgap] at hc
    cases hc
  | cons blank gap =>
    rw [hgap, List.cons_append, List.head?_cons, Option.mem_some_iff] at hc
    subst hc
    exact item.gap_blank _ (hgap ▸ List.mem_cons_self)

theorem items_eq_of_flatMap_text_eq (h : ∀ x ∈ items.dropLast, x.gap ≠ [])
    (h' : ∀ x ∈ items'.dropLast, x.gap ≠ [])
    (htext : items.flatMap SpacedWord.text = items'.flatMap SpacedWord.text) : items = items' := by
  have hne : ∀ (item : SpacedWord) (rest : List SpacedWord),
      (item :: rest).flatMap SpacedWord.text ≠ [] := by
    intro item rest hnil
    rw [List.flatMap_cons, SpacedWord.text, List.append_assoc, List.append_eq_nil_iff] at hnil
    exact item.isWord.ne_nil hnil.1
  induction items generalizing items' with
  | nil =>
    cases items' with
    | nil => rfl
    | cons item' rest' => exact absurd htext.symm (hne item' rest')
  | cons item rest ih =>
    cases items' with
    | nil => exact absurd htext (hne item rest)
    | cons item' rest' =>
      rw [List.flatMap_cons, List.flatMap_cons, SpacedWord.text, SpacedWord.text,
        List.append_assoc, List.append_assoc] at htext
      -- the word ends at the first blank, and the blanks behind it at the next word
      obtain ⟨hword, htail⟩ := append_inj_of_head? (p := fun c => !isBlank c)
        (fun c hc => by simp [item.isWord.not_blank c hc])
        (fun c hc => by simp [item'.isWord.not_blank c hc])
        (fun c hc => by simp [isBlank_head?_gap_append h c hc])
        (fun c hc => by simp [isBlank_head?_gap_append h' c hc]) htext
      obtain ⟨hgap, hrest⟩ := append_inj_of_head? item.gap_blank item'.gap_blank
        isBlank_head?_flatMap_text isBlank_head?_flatMap_text htail
      rw [SpacedWord.ext hword hgap,
        ih (gap_ne_nil_cons_iff.1 h).1 (gap_ne_nil_cons_iff.1 h').1 hrest]

end

namespace Layout

/-- **A text has one layout at most.** -/
theorem eq_of_text_eq {layout other : Layout} (h : layout.text = other.text) : layout = other := by
  obtain ⟨hlead, hitems⟩ := append_inj_of_head? layout.lead_blank other.lead_blank
    isBlank_head?_flatMap_text isBlank_head?_flatMap_text h
  exact Layout.ext hlead (items_eq_of_flatMap_text_eq layout.gap_ne_nil other.gap_ne_nil hitems)

/-! ## One layout at least -/

theorem isWord_singleton {c : Char} (h : isBlank c = false) : IsWord [c] :=
  ⟨List.cons_ne_nil c [], by simpa using h⟩

theorem isWord_cons {c : Char} {word : List Char} (hc : isBlank c = false) (h : IsWord word) :
    IsWord (c :: word) :=
  ⟨List.cons_ne_nil c word, List.forall_mem_cons.2 ⟨hc, h.not_blank⟩⟩

/-- One more character in front of a text: a blank joins those at the front, and any other character
joins the first word if that is at the front, or else is a word of its own. -/
theorem exists_text_eq_cons (c : Char) (layout : Layout) :
    ∃ longer : Layout, longer.text = c :: layout.text := by
  obtain ⟨lead, items, hlead, hgap⟩ := layout
  cases hc : isBlank c with
  | true => exact ⟨⟨c :: lead, items, List.forall_mem_cons.2 ⟨hc, hlead⟩, hgap⟩, rfl⟩
  | false =>
    cases lead with
    | cons blank lead =>
      let item : SpacedWord := ⟨[c], blank :: lead, isWord_singleton hc, hlead⟩
      exact ⟨⟨[], item :: items, by simp, gap_ne_nil_cons_iff.2 ⟨hgap, nofun⟩⟩, rfl⟩
    | nil =>
      cases items with
      | nil =>
        exact ⟨⟨[], [⟨[c], [], isWord_singleton hc, by simp⟩], by simp, by simp⟩, rfl⟩
      | cons item rest =>
        let longer : SpacedWord := ⟨c :: item.word, item.gap, isWord_cons hc item.isWord,
          item.gap_blank⟩
        obtain ⟨hrest, hlast⟩ := gap_ne_nil_cons_iff.1 hgap
        exact ⟨⟨[], longer :: rest, by simp, gap_ne_nil_cons_iff.2 ⟨hrest, hlast⟩⟩, rfl⟩

theorem exists_text_eq (text : List Char) : ∃ layout : Layout, layout.text = text := by
  induction text with
  | nil => exact ⟨⟨[], [], by simp, by simp⟩, rfl⟩
  | cons c text ih =>
    obtain ⟨layout, rfl⟩ := ih
    exact exists_text_eq_cons c layout

/-- **Every text has one layout.** -/
theorem existsUnique_layout (text : List Char) : ∃! layout : Layout, layout.text = text := by
  obtain ⟨layout, hlayout⟩ := exists_text_eq text
  exact ⟨layout, hlayout, fun other hother => eq_of_text_eq (hother.trans hlayout.symm)⟩

end Layout

/-! ## The words of a layout -/

/-- A run without blanks is its only word. -/
theorem words_eq_singleton {word : List Char} (h : IsWord word) : words word = [word] := by
  have hflatten : (words word).flatten = word := by
    rw [flatten_words, List.filter_eq_self]
    exact fun c hc => by simp [h.not_blank c hc]
  have hlength : (words word).length ≤ 1 := by
    have hblanks : word.countP isBlank = 0 :=
      List.countP_eq_zero.2 fun c hc => by simp [h.not_blank c hc]
    have hle := length_words_le_countP word
    omega
  cases hwords : words word with
  | nil =>
    rw [hwords] at hflatten
    exact absurd hflatten.symm h.ne_nil
  | cons first rest =>
    rw [hwords, List.length_cons] at hlength
    have hrest : rest = [] := List.eq_nil_of_length_eq_zero (by omega)
    rw [hwords, hrest, List.flatten_singleton] at hflatten
    rw [hrest, hflatten]

theorem words_flatMap_text {items : List SpacedWord} (h : ∀ item ∈ items.dropLast, item.gap ≠ []) :
    words (items.flatMap SpacedWord.text) = items.map SpacedWord.word := by
  induction items with
  | nil => rfl
  | cons item rest ih =>
    obtain ⟨hrest, hlast⟩ := gap_ne_nil_cons_iff.1 h
    rw [List.flatMap_cons, List.map_cons, ← ih hrest, SpacedWord.text, List.append_assoc]
    by_cases hgap : item.gap = []
    · rw [hgap, hlast hgap, List.nil_append, List.flatMap_nil, List.append_nil, words_nil,
        words_eq_singleton item.isWord]
    · rw [words_append_blanks hgap item.gap_blank, words_eq_singleton item.isWord,
        List.singleton_append]

/-- **The words of a text are those of its layout.** -/
theorem Layout.words_text (layout : Layout) : PageCensus.words layout.text = layout.words := by
  rw [text, words_blanks_append layout.lead_blank, words_flatMap_text layout.gap_ne_nil, words]

/-! ## Cutting at blanks -/

/-- The pieces of a text between its stretches of blanks.  A stretch is as long as it can be; where
one is at an end of the text, the piece on its far side is empty. -/
def splitAtBlanks : List Char → List (List Char)
  | [] => [[]]
  | c :: text =>
    if isBlank c then [] :: splitAtBlanks (text.dropWhile isBlank)
    else (splitAtBlanks text).modifyHead (c :: ·)
termination_by text => text.length
decreasing_by
  · exact Nat.lt_succ_of_le (List.length_dropWhile_le isBlank text)
  · exact Nat.lt_succ_self _

theorem words_dropWhile (text : List Char) : words (text.dropWhile isBlank) = words text := by
  have hblanks : ∀ c ∈ text.takeWhile isBlank, isBlank c = true := fun c hc =>
    List.mem_takeWhile_imp hc
  rw [← words_blanks_append hblanks, List.takeWhile_append_dropWhile]

theorem WordScan.filter_front_cons {scan : WordScan} {rest : List (List Char)}
    (h : rest.filter (fun piece => !piece.isEmpty) = scan.rest) :
    (scan.front :: rest).filter (fun piece => !piece.isEmpty) = scan.words := by
  rw [words, List.filter_cons, h]
  cases scan.front <;> rfl

/-- The first piece is the run at the front of the text, and the pieces behind it are the words that
follow, but for empty ones. -/
theorem exists_splitAtBlanks_eq (text : List Char) :
    ∃ rest, splitAtBlanks text = (WordScan.ofText text).front :: rest ∧
      rest.filter (fun piece => !piece.isEmpty) = (WordScan.ofText text).rest := by
  induction text using splitAtBlanks.induct with
  | case1 =>
    rw [splitAtBlanks]
    exact ⟨[], rfl, rfl⟩
  | case2 c text hc ih =>
    obtain ⟨rest, hsplit, hrest⟩ := ih
    rw [splitAtBlanks, if_pos hc, WordScan.ofText_cons, WordScan.read, if_pos hc]
    refine ⟨_, rfl, ?_⟩
    rw [hsplit, WordScan.filter_front_cons hrest]
    exact words_dropWhile text
  | case3 c text hc ih =>
    obtain ⟨rest, hsplit, hrest⟩ := ih
    rw [splitAtBlanks, if_neg hc, hsplit, WordScan.ofText_cons, WordScan.read, if_neg hc]
    exact ⟨rest, rfl, hrest⟩

/-- **The words of a text are its pieces between stretches of blanks**, but for empty ones. -/
theorem filter_splitAtBlanks (text : List Char) :
    (splitAtBlanks text).filter (fun piece => !piece.isEmpty) = words text := by
  obtain ⟨rest, hsplit, hrest⟩ := exists_splitAtBlanks_eq text
  rw [hsplit, WordScan.filter_front_cons hrest, words]

end PageCensus
