import PageCensus.Proofs.Text.Layout

/-!
# Where two texts meet

Two texts, one behind the other, have the words of the first and then those of the second, unless
the first ends and the second begins within a word.  Then the last word of the first and the first
word of the second become one, and all other words stay as they are.

* `Apart` — two texts of which no word reaches across the place where they meet.
* `words_append_of_apart` — the words of such texts stay as they are.
* `exists_words_append_eq`, `length_words_append_of_not_apart` — what becomes of the words of all
  other texts, of which one is lost.
-/

set_option autoImplicit false

namespace PageCensus

/-- Whether there is a blank on one of the two sides of the place where two texts meet, or nothing
at all. -/
def Apart (a b : List Char) : Prop :=
  a = [] ∨ b = [] ∨ (∃ c ∈ a.getLast?, isBlank c = true) ∨ ∃ c ∈ b.head?, isBlank c = true

/-- **The words of texts that are apart stay as they are.** -/
theorem words_append_of_apart {a b : List Char} (h : Apart a b) :
    words (a ++ b) = words a ++ words b := by
  rcases h with rfl | rfl | ⟨c, hlast, hc⟩ | ⟨c, hhead, hc⟩
  · rw [words_nil, List.nil_append, List.nil_append]
  · rw [words_nil, List.append_nil, List.append_nil]
  · obtain ⟨init, rfl⟩ := List.getLast?_eq_some_iff.1 hlast
    rw [List.append_assoc, List.singleton_append, words_append_blank _ _ hc,
      words_append_blank _ _ hc, words_nil, List.append_nil]
  · obtain ⟨rest, rfl⟩ := List.head?_eq_some_iff.1 hhead
    rw [words_append_blank _ _ hc, words_cons_blank hc]

theorem apart_of_getLast? {a : List Char} (h : ∀ c ∈ a.getLast?, isBlank c = true) (b : List Char) :
    Apart a b := by
  cases hlast : a.getLast? with
  | none => exact .inl (List.getLast?_eq_none_iff.1 hlast)
  | some c => exact .inr (.inr (.inl ⟨c, hlast, h c hlast⟩))

theorem apart_of_head? {b : List Char} (h : ∀ c ∈ b.head?, isBlank c = true) (a : List Char) :
    Apart a b := by
  cases hhead : b.head? with
  | none => exact .inr (.inl (List.head?_eq_none_iff.1 hhead))
  | some c => exact .inr (.inr (.inr ⟨c, hhead, h c hhead⟩))

/-- Blanks at the end of a text belong to no word. -/
theorem words_append_blanks_end {blanks : List Char} (h : ∀ c ∈ blanks, isBlank c = true)
    (a : List Char) : words (a ++ blanks) = words a := by
  have hnone : words blanks = [] := by
    rw [← List.append_nil blanks, words_blanks_append h, words_nil]
  have hapart : Apart a blanks := apart_of_head? (fun c hc => h c (List.mem_of_mem_head? hc)) a
  rw [words_append_of_apart hapart, hnone, List.append_nil]

/-! ## Texts that begin or end within a word -/

/-- A text that does not begin with a blank begins with a word, and behind it comes a blank, or
nothing. -/
theorem exists_eq_word_append {text : List Char} (hne : text ≠ [])
    (h : ∀ c ∈ text.head?, isBlank c = false) :
    ∃ first rest, text = first ++ rest ∧ IsWord first ∧ ∀ c ∈ rest.head?, isBlank c = true := by
  refine ⟨text.takeWhile fun c => !isBlank c, text.dropWhile fun c => !isBlank c,
    List.takeWhile_append_dropWhile.symm, ⟨?_, fun c hc => ?_⟩, fun c hc => ?_⟩
  · obtain ⟨c, rest, rfl⟩ := List.exists_cons_of_ne_nil hne
    rw [List.takeWhile_cons_of_pos (by simp [h c rfl])]
    exact List.cons_ne_nil _ _
  · simpa using List.mem_takeWhile_imp hc
  · have hstop := List.head?_dropWhile_not (fun c => !isBlank c) text
    rw [Option.mem_def.1 hc] at hstop
    simpa using hstop

theorem isWord_reverse {word : List Char} (h : IsWord word) : IsWord word.reverse :=
  ⟨fun hnil => h.ne_nil (List.reverse_eq_nil_iff.1 hnil),
    fun c hc => h.not_blank c (List.mem_reverse.1 hc)⟩

theorem isWord_append {a b : List Char} (ha : IsWord a) (hb : IsWord b) : IsWord (a ++ b) :=
  ⟨List.append_ne_nil_of_left_ne_nil ha.ne_nil b,
    List.forall_mem_append.2 ⟨ha.not_blank, hb.not_blank⟩⟩

/-- A text that does not end with a blank ends with a word, and before it comes a blank, or
nothing. -/
theorem exists_eq_append_word {text : List Char} (hne : text ≠ [])
    (h : ∀ c ∈ text.getLast?, isBlank c = false) :
    ∃ init last, text = init ++ last ∧ IsWord last ∧ ∀ c ∈ init.getLast?, isBlank c = true := by
  obtain ⟨first, rest, hsplit, hfirst, hrest⟩ :=
    exists_eq_word_append (fun hnil => hne (List.reverse_eq_nil_iff.1 hnil))
      (List.head?_reverse ▸ h)
  refine ⟨rest.reverse, first.reverse, ?_, isWord_reverse hfirst, ?_⟩
  · rw [← List.reverse_append, ← hsplit, List.reverse_reverse]
  · rwa [List.getLast?_reverse]

/-! ## Texts that are not apart -/

theorem isBlank_of_not_apart {a b : List Char} (h : ¬ Apart a b) :
    (a ≠ [] ∧ ∀ c ∈ a.getLast?, isBlank c = false) ∧
      b ≠ [] ∧ ∀ c ∈ b.head?, isBlank c = false := by
  rw [Apart, not_or, not_or, not_or] at h
  obtain ⟨ha, hb, hlast, hhead⟩ := h
  exact ⟨⟨ha, fun c hc => Bool.eq_false_iff.2 fun hblank => hlast ⟨c, hc, hblank⟩⟩,
    hb, fun c hc => Bool.eq_false_iff.2 fun hblank => hhead ⟨c, hc, hblank⟩⟩

/-- **Of texts that are not apart, the last word of the first and the first word of the second
become one.** -/
theorem exists_words_append_eq {a b : List Char} (h : ¬ Apart a b) :
    ∃ before last first after, words a = before ++ [last] ∧ words b = first :: after ∧
      words (a ++ b) = before ++ (last ++ first) :: after := by
  obtain ⟨⟨hane, hlast⟩, hbne, hhead⟩ := isBlank_of_not_apart h
  obtain ⟨init, last, rfl, hlastWord, hinit⟩ := exists_eq_append_word hane hlast
  obtain ⟨first, rest, rfl, hfirstWord, hrest⟩ := exists_eq_word_append hbne hhead
  have hleft : ∀ text, words (init ++ text) = words init ++ words text := fun text =>
    words_append_of_apart (apart_of_getLast? hinit text)
  have hright : ∀ text, words (text ++ rest) = words text ++ words rest := fun text =>
    words_append_of_apart (apart_of_head? hrest text)
  refine ⟨words init, last, first, words rest, ?_, ?_, ?_⟩
  · rw [hleft, words_eq_singleton hlastWord]
  · rw [hright, words_eq_singleton hfirstWord, List.singleton_append]
  · rw [List.append_assoc, hleft, ← List.append_assoc, hright,
      words_eq_singleton (isWord_append hlastWord hfirstWord), List.singleton_append]

/-- Such texts lose a word. -/
theorem length_words_append_of_not_apart {a b : List Char} (h : ¬ Apart a b) :
    (words (a ++ b)).length + 1 = (words a).length + (words b).length := by
  obtain ⟨before, last, first, after, ha, hb, hab⟩ := exists_words_append_eq h
  rw [ha, hb, hab, List.length_append, List.length_append]
  simp only [List.length_cons, List.length_nil]
  omega

end PageCensus
