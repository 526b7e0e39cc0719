import Mathlib.Data.List.TakeWhile
import PageCensus.Text.Blank

/-!
# Trimming

Trimming a text takes the blanks at its two ends away and nothing else.

* `trimBlank_append`, `trimBlank_append_blanks` — blanks at an end do not matter.
* `exists_eq_append_trimBlank` — what is taken away are blanks.
* `isTrimmed_trimBlank`, `trimBlank_eq_self` — a trimmed text has no blanks at its ends, and texts
  without blanks at their ends stay as they are.
-/

set_option autoImplicit false

namespace PageCensus

/-- Whether a text neither begins nor ends with a blank. -/
structure IsTrimmed (text : List Char) : Prop where
  /-- It does not begin with one. -/
  head? : ∀ c ∈ text.head?, isBlank c = false
  /-- It does not end with one. -/
  getLast? : ∀ c ∈ text.getLast?, isBlank c = false

variable {blanks : List Char}

/-- Blanks in front do not matter. -/
theorem trimBlank_append (h : ∀ c ∈ blanks, isBlank c = true) (text : List Char) :
    trimBlank (blanks ++ text) = trimBlank text := by
  induction blanks with
  | nil => rfl
  | cons c rest ih =>
    obtain ⟨hc, hrest⟩ := List.forall_mem_cons.1 h
    rw [List.cons_append, trimBlank_cons_of_isBlank hc, ih hrest]

/-- A text of blanks alone is trimmed to nothing. -/
theorem trimBlank_blanks (h : ∀ c ∈ blanks, isBlank c = true) : trimBlank blanks = [] := by
  rw [← List.append_nil blanks, trimBlank_append h, trimBlank_nil]

/-- Neither do blanks behind. -/
theorem trimBlank_append_blanks (h : ∀ c ∈ blanks, isBlank c = true) (text : List Char) :
    trimBlank (text ++ blanks) = trimBlank text := by
  induction text with
  | nil => rw [List.nil_append, trimBlank_blanks h, trimBlank_nil]
  | cons c rest ih =>
    by_cases hc : isBlank c = true
    · rw [List.cons_append, trimBlank_cons_of_isBlank hc, trimBlank_cons_of_isBlank hc, ih]
    · have hreverse : ∀ x ∈ blanks.reverse, isBlank x = true :=
        fun x hx => h x (List.mem_reverse.1 hx)
      rw [trimBlank, trimBlank, List.cons_append, List.dropWhile_cons_of_neg hc,
        List.dropWhile_cons_of_neg hc, ← List.cons_append, List.reverse_append,
        List.dropWhile_append_of_pos hreverse]

/-- **What is taken away are blanks.** -/
theorem exists_eq_append_trimBlank (text : List Char) :
    ∃ front back, (∀ c ∈ front, isBlank c = true) ∧ (∀ c ∈ back, isBlank c = true) ∧
      text = front ++ trimBlank text ++ back := by
  refine ⟨text.takeWhile isBlank,
    ((text.dropWhile isBlank).reverse.takeWhile isBlank).reverse,
    fun c => List.mem_takeWhile_imp, fun c hc => List.mem_takeWhile_imp (List.mem_reverse.1 hc), ?_⟩
  rw [List.append_assoc, trimBlank, ← List.reverse_append, List.takeWhile_append_dropWhile,
    List.reverse_reverse, List.takeWhile_append_dropWhile]

/-- What is left are characters of the text. -/
theorem mem_of_mem_trimBlank {text : List Char} {c : Char} (h : c ∈ trimBlank text) : c ∈ text := by
  obtain ⟨front, back, -, -, htext⟩ := exists_eq_append_trimBlank text
  rw [htext, List.mem_append, List.mem_append]
  exact Or.inl (Or.inr h)

/-- What is left of a text begins with no blank. -/
theorem isBlank_of_mem_head?_dropWhile {text : List Char} {c : Char}
    (h : c ∈ (text.dropWhile isBlank).head?) : isBlank c = false := by
  have hstop := List.head?_dropWhile_not isBlank text
  rwa [Option.mem_def.1 h] at hstop

theorem dropWhile_eq_self_of_head? {p : Char → Bool} {text : List Char}
    (h : ∀ c ∈ text.head?, p c = false) : text.dropWhile p = text := by
  cases text with
  | nil => rfl
  | cons c rest => rw [List.dropWhile_cons_of_neg (Bool.eq_false_iff.1 (h c rfl))]

/-- **A trimmed text has no blanks at its ends.** -/
theorem isTrimmed_trimBlank (text : List Char) : IsTrimmed (trimBlank text) where
  head? := by
    intro c hc
    -- the trimmed text is the front of the text without the blanks in front
    have hfront : text.dropWhile isBlank = trimBlank text ++
        ((text.dropWhile isBlank).reverse.takeWhile isBlank).reverse := by
      rw [trimBlank, ← List.reverse_append, List.takeWhile_append_dropWhile, List.reverse_reverse]
    have hhead : c ∈ (text.dropWhile isBlank).head? := by
      rw [hfront, List.head?_append, Option.mem_def.1 hc]
      rfl
    exact isBlank_of_mem_head?_dropWhile hhead
  getLast? := by
    intro c hc
    rw [trimBlank, List.getLast?_reverse] at hc
    exact isBlank_of_mem_head?_dropWhile hc

/-- **A text without blanks at its ends stays as it is.** -/
theorem trimBlank_eq_self {text : List Char} (h : IsTrimmed text) : trimBlank text = text := by
  have hlast : ∀ c ∈ text.reverse.head?, isBlank c = false := by
    rw [List.head?_reverse]
    exact h.getLast?
  rw [trimBlank, dropWhile_eq_self_of_head? h.head?, dropWhile_eq_self_of_head? hlast,
    List.reverse_reverse]

end PageCensus
