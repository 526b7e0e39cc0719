import PageCensus.Proofs.Run.RunScript

/-!
# What a run adds up to

A run reads its pages one by one and skips some of them, but what it has found in the end is what
is in the texts of its pages taken together: no character and no word is lost, counted twice, or
made up where one page ends and the next begins.

* `Aggregates` — what it means to have found just that.
* `run_aggregates` — with output for everything, a run ends well and has.
-/

set_option autoImplicit false

namespace PageCensus

open RunStep

/-- What was found is what is in the texts of the fetched pages. -/
structure Aggregates (pages : List Page) (found : Progress) : Prop where
  /-- Pages count as fetched if they were. -/
  fetched : found.fetched = (fetchedPages pages).length
  /-- Every page was either fetched or skipped. -/
  visited : found.fetched + found.skipped = pages.length
  /-- The characters are counted as in one text made of all texts. -/
  chars : found.census.chars = countChars (String.join (texts pages))
  /-- The words are counted as in one text made of all texts, with any blanks between them. -/
  words : ∀ separator : String, separator ≠ "" → (∀ c ∈ separator.toList, isBlank c = true) →
    found.census.words = countWords (separator.intercalate (texts pages))
  /-- No count of a character is zero. -/
  one_le_chars : ∀ (c : Char) (n : Nat), found.census.chars[c]? = some n → 1 ≤ n
  /-- No count of a word is zero. -/
  one_le_words : ∀ (word : String) (n : Nat), found.census.words[word]? = some n → 1 ≤ n
  /-- The characters are those of the texts. -/
  mem_chars : ∀ c, c ∈ found.census.chars ↔ ∃ text ∈ texts pages, c ∈ text.toList
  /-- The words are those of the texts. -/
  mem_words : ∀ word, word ∈ found.census.words ↔
    ∃ text ∈ texts pages, word.toList ∈ PageCensus.words text.toList

theorem aggregates_foundBy (pages : List Page) : Aggregates pages (foundBy pages) := by
  have hle := length_texts_le pages
  constructor
  case fetched => exact (length_fetchedPages pages).symm
  case visited =>
    show (texts pages).length + (pages.length - (texts pages).length) = pages.length
    omega
  case chars => exact Census.chars_ofTexts _
  case words => exact fun separator hne h => Census.words_ofTexts hne h _
  case one_le_chars => exact fun c n h => Tally.one_le_of_getElem?_ofTokens h
  case one_le_words => exact fun word n h => Tally.one_le_of_getElem?_ofTokens h
  case mem_chars => exact fun c => Tally.mem_ofTokens.trans List.mem_flatMap
  case mem_words => exact fun word => Tally.mem_ofTokens.trans Census.mem_wordTokens

/-- **A run finds what is in the texts of its pages**, as long as they have fewer characters than a
count can hold and its output takes everything; no sum that it forms is too large. -/
theorem run_aggregates {pages : List Page} (h : totalLength (texts pages) < countLimit)
    {world : World} (hroom : world.stdout.room = none) (config : Config) (elapsed : Duration) :
    ∃ summary world', run config pages elapsed world = .ok summary world' ∧
      Aggregates pages summary.progress := by
  have hfits :
      Sink.fits world.stdout.room (Script.size (runScript config pages elapsed)) = true := by
    rw [hroom, Sink.fits_none]
  exact ⟨_, _, run_of_fits (mergeAll?_texts h) hfits, aggregates_foundBy pages⟩

/-- The words on the two sides of a page break stay apart, and a skipped page leaves nothing. -/
theorem run_aggregates_of_page_break :
    let pages : List Page := [⟨"http://a/", .ok "to b"⟩,
      ⟨"b", .error (.invalidUrl "b" .relativeWithoutBase)⟩, ⟨"http://c/", .ok "e or"⟩]
    totalLength (texts pages) < countLimit ∧ (World.start .unlimited .fresh).stdout.room = none ∧
      ∃ summary world', run {} pages ⟨0, 0⟩ (.start .unlimited .fresh) = .ok summary world' ∧
        Aggregates pages summary.progress := by
  intro pages
  have h : totalLength (texts pages) < countLimit := by decide
  have hroom : (World.start .unlimited .fresh).stdout.room = none := rfl
  exact ⟨h, hroom, run_aggregates h hroom {} ⟨0, 0⟩⟩

end PageCensus
