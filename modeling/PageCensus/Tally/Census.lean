import PageCensus.Tally.Ranking
import PageCensus.Text.Words

/-!
# The census of a text

Two tallies of one text: how often each character occurs, blanks included, and how often each word
occurs.  Neither folds case nor drops punctuation.

* `countChars`, `countWords` — the two tallies.
* `Census`, `Census.ofText` — both together.
-/

set_option autoImplicit false

namespace PageCensus

/-- How often each character occurs in a text. -/
def countChars (body : String) : Tally Char := Tally.ofTokens body.toList

/-- How often each word occurs in a text. -/
def countWords (body : String) : Tally String :=
  Tally.ofTokens ((words body.toList).map String.ofList)

/-- The tallies of the characters and of the words of one or more texts. -/
structure Census where
  /-- How often each character occurs. -/
  chars : Tally Char
  /-- How often each word occurs. -/
  words : Tally String

namespace Census

/-- The census of no text at all. -/
def empty : Census := ⟨∅, ∅⟩

/-- The census of one text. -/
def ofText (body : String) : Census := ⟨countChars body, countWords body⟩

/-- Add the counts of `page` to those of `census`, if every sum fits. -/
def merge? (census page : Census) : Option Census := do
  let chars ← census.chars.merge? page.chars
  let words ← census.words.merge? page.words
  return ⟨chars, words⟩

end Census

/-- Case and punctuation are kept. -/
example : (countWords "Word word, word").toList = [("Word", 1), ("word", 1), ("word,", 1)] := by
  decide

end PageCensus
