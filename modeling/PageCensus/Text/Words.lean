import PageCensus.Text.Blank

/-!
# The words of a text

A word is a maximal run of characters that are not blank.  So no word is empty, none holds a blank,
and two neighbouring words have at least one blank between them.

The words are read off the text from its end: `WordScan` holds the run that touches the front of
what was read so far, which the next character may still extend, and the words after it.  The front
run is the only thing that the text to the left can change, which is what the lemmas on
concatenation rest on.

* `words` — the words of a text, in order.
* `words_cons_blank`, `words_append_blank` — a blank belongs to no word and keeps what stands on
  its two sides apart.
-/

set_option autoImplicit false

namespace PageCensus

/-- What is known after reading a text from its end: the run at its front, empty if the text is
empty or starts with a blank, and the words that follow this run. -/
structure WordScan where
  /-- The run without blanks at the front. -/
  front : List Char
  /-- The words after it. -/
  rest : List (List Char)

namespace WordScan

/-- Nothing was read. -/
def empty : WordScan := ⟨[], []⟩

/-- All words, the front run included unless it is empty. -/
def words (scan : WordScan) : List (List Char) :=
  if scan.front.isEmpty then scan.rest else scan.front :: scan.rest

/-- Read one more character, to the left of all others: a blank ends the front run, every other
character extends it. -/
def read (c : Char) (scan : WordScan) : WordScan :=
  if isBlank c then ⟨[], scan.words⟩ else ⟨c :: scan.front, scan.rest⟩

/-- Read a text from its end. -/
def ofText (text : List Char) : WordScan := text.foldr read empty

@[simp] theorem ofText_nil : ofText [] = empty := rfl

@[simp] theorem ofText_cons (c : Char) (text : List Char) :
    ofText (c :: text) = (ofText text).read c := rfl

@[simp] theorem words_read_of_isBlank {c : Char} {scan : WordScan} (h : isBlank c = true) :
    (scan.read c).words = scan.words := by
  simp [read, words, h]

end WordScan

/-- The words of a text, in order. -/
def words (text : List Char) : List (List Char) := (WordScan.ofText text).words

@[simp] theorem words_nil : words [] = [] := rfl

/-- A blank at the front belongs to no word. -/
@[simp] theorem words_cons_blank {c : Char} {text : List Char} (h : isBlank c = true) :
    words (c :: text) = words text := by
  simp [words, h]

/-- A blank keeps the words on its two sides apart. -/
theorem words_append_blank {c : Char} (a b : List Char) (h : isBlank c = true) :
    words (a ++ c :: b) = words a ++ words b := by
  induction a with
  | nil => simpa using words_cons_blank h
  | cons x a ih =>
    have key : ∀ a, (WordScan.ofText (a ++ c :: b)).front = (WordScan.ofText a).front ∧
        (WordScan.ofText (a ++ c :: b)).rest = (WordScan.ofText a).rest ++ words b := by
      intro a
      induction a with
      | nil => simp [WordScan.read, h, words, WordScan.empty]
      | cons y a ih =>
        by_cases hy : isBlank y = true
        · simp only [List.cons_append, WordScan.ofText_cons, WordScan.read, hy, WordScan.words,
            ih.1, ih.2, if_true, true_and]
          split <;> simp
        · simp [WordScan.read, hy, ih.1, ih.2]
    obtain ⟨hfront, hrest⟩ := key (x :: a)
    simp only [words, WordScan.words, hfront, hrest]
    split <;> simp

/-- The words of a text of single characters and of a text with blanks at both ends. -/
example : words "a b".toList = ["a".toList, "b".toList] ∧
    words "  ab\t\nc ".toList = ["ab".toList, "c".toList] := by decide

end PageCensus
