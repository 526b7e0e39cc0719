import Mathlib.Data.List.Perm.Subperm
import PageCensus.Proofs.Run.Transcript

/-!
# The order of the pages

Two runs visit the same pages in two orders.  What they print for the pages follows the order, and
of several longest pages each run keeps the one that comes first in its own; nothing else that they
find, print at the end or leave behind tells the orders apart.

* `OrderIndependent`, `run_orderIndependent` — what the two runs have in common, and where they may
  differ.
* `IsLongestOf.length_eq_of_perm`, `IsLongestOf.two_le_countP_of_perm` — the greatest length is the
  same, and so is the page unless there is a tie.
-/

set_option autoImplicit false

namespace PageCensus

/-! ## The longest page in two orders -/

/-- Two different items that pass a test are two at least. -/
theorem two_le_countP {α : Type} {p : α → Bool} {items : List α} {a b : α} (hne : a ≠ b)
    (ha : a ∈ items) (hb : b ∈ items) (hpa : p a = true) (hpb : p b = true) :
    2 ≤ items.countP p := by
  have hnodup : [a, b].Nodup := by simpa using hne
  have hsubset : [a, b] ⊆ items.filter p := by
    intro c hc
    rw [List.mem_cons, List.mem_singleton] at hc
    rcases hc with rfl | rfl
    · exact List.mem_filter.2 ⟨ha, hpa⟩
    · exact List.mem_filter.2 ⟨hb, hpb⟩
  rw [List.countP_eq_length_filter]
  exact (hnodup.subperm hsubset).length_le

namespace IsLongestOf

variable {pages pages' : List PageText} {longest longest' : LongestPage}

/-- **The greatest length does not depend on the order.** -/
theorem length_eq_of_perm (hperm : pages.Perm pages') (h : IsLongestOf pages longest)
    (h' : IsLongestOf pages' longest') : longest.length = longest'.length := by
  cases h with
  | nothing hnil =>
    cases h' with
    | nothing => rfl
    | first hfirst' =>
      rw [hnil] at hperm
      exact absurd (hperm.mem_iff.2 hfirst'.mem) List.not_mem_nil
  | first hfirst =>
    cases h' with
    | nothing hnil' =>
      rw [hnil'] at hperm
      exact absurd (hperm.mem_iff.1 hfirst.mem) List.not_mem_nil
    | first hfirst' =>
      have hkey := hfirst.key_eq_of_perm hperm hfirst'
      exact hkey

/-- **The longest page depends on the order only if there is a tie.** -/
theorem two_le_countP_of_perm (hperm : pages.Perm pages') (h : IsLongestOf pages longest)
    (h' : IsLongestOf pages' longest') (hne : longest.url ≠ longest'.url) :
    2 ≤ pages.countP fun page => page.body.length = longest.length := by
  have hlength := h.length_eq_of_perm hperm h'
  cases h with
  | nothing hnil =>
    rw [hnil] at hperm
    exact absurd (h'.url_eq_none_iff.2 (List.nil_perm.1 hperm)).symm hne
  | @first page hfirst =>
    cases h' with
    | nothing => cases hlength
    | @first page' hfirst' =>
      have hpages : page ≠ page' := fun heq => hne (by rw [heq])
      exact two_le_countP hpages hfirst.mem (hperm.mem_iff.2 hfirst'.mem) (decide_eq_true rfl)
        (decide_eq_true hlength.symm)

end IsLongestOf

/-! ## Two runs -/

theorem texts_perm {pages pages' : List Page} (h : pages.Perm pages') :
    (texts pages).Perm (texts pages') := h.filterMap _

theorem pageTexts_perm {pages pages' : List Page} (h : pages.Perm pages') :
    (pageTexts pages).Perm (pageTexts pages') := h.filterMap _

/-- **What two runs over the same pages in two orders have in common**, and where they may differ.
Both start in the same world, `before`. -/
structure OrderIndependent (config : Config) (pages pages' : List Page)
    (elapsed elapsed' : Duration) (before : World) (summary summary' : Summary)
    (after after' : World) : Prop where
  /-- They have the same tallies of characters and of words. -/
  census : summary.progress.census = summary'.progress.census
  /-- They have fetched as many pages. -/
  fetched : summary.progress.fetched = summary'.progress.fetched
  /-- They have skipped as many pages. -/
  skipped : summary.progress.skipped = summary'.progress.skipped
  /-- They have written the same files. -/
  filesWritten : summary.filesWritten = summary'.filesWritten
  /-- All files are the same after them. -/
  files : after.files = after'.files
  /-- They have paused as often and as long. -/
  pauses : after.pauses = after'.pauses
  /-- They found the same greatest length. -/
  length : summary.progress.longest.length = summary'.progress.longest.length
  /-- The two lines about all pages, which stand in front of the last line, are the same. -/
  closing : ∃ (chars words : String) (front front' : List String),
    after.stdout.written = before.stdout.written ++ (Sink.linesText (front ++
      ["Global most used chars " ++ chars, "Global most used words " ++ words,
        "Elapsed: " ++ toString elapsed.milliseconds ++ "ms"])).toUTF8 ∧
    after'.stdout.written = before.stdout.written ++ (Sink.linesText (front' ++
      ["Global most used chars " ++ chars, "Global most used words " ++ words,
        "Elapsed: " ++ toString elapsed'.milliseconds ++ "ms"])).toUTF8
  /-- The one keeps the first of the longest pages in its order. -/
  longest : IsLongestOf (pageTexts pages) summary.progress.longest
  /-- So does the other in its own. -/
  longest' : IsLongestOf (pageTexts pages') summary'.progress.longest
  /-- They can only keep pages of different addresses if there is a tie. -/
  tie : summary.progress.longest.url ≠ summary'.progress.longest.url →
    2 ≤ (pageTexts pages).countP fun page => page.body.length = summary.progress.longest.length

/-- In front of its last line a run prints the two lines about all pages. -/
theorem exists_textOf_transcript (config : Config) (pages : List Page) (elapsed : Duration) :
    ∃ front, Segment.textOf (transcript config pages elapsed) = Sink.linesText (front ++
      ["Global most used chars " ++
          Report.list ((Census.ofTexts (texts pages)).chars.top config.top),
        "Global most used words " ++
          Report.list ((Census.ofTexts (texts pages)).words.top config.top),
        "Elapsed: " ++ toString elapsed.milliseconds ++ "ms"]) := by
  refine ⟨(pageTexts pages).flatMap (pageLines config.top) ++
    Report.longestPage (longestOf pages), ?_⟩
  rw [textOf_transcript, closingLines, List.append_assoc]
  rfl

/-- **The order of the pages does not matter** but to what is printed for each of them and to ties,
as long as the output takes everything and the lengths of all pages together fit into 64 bits with a
sign. -/
theorem run_orderIndependent {pages pages' : List Page} (hperm : pages.Perm pages')
    (h : totalLength (texts pages) < 1 <<< 63) {world : World} (hroom : world.stdout.room = none)
    (config : Config) (elapsed elapsed' : Duration) :
    ∃ summary after summary' after', run config pages elapsed world = .ok summary after ∧
      run config pages' elapsed' world = .ok summary' after' ∧
      OrderIndependent config pages pages' elapsed elapsed' world summary summary' after
        after' := by
  have htexts := texts_perm hperm
  have hcensus : Census.ofTexts (texts pages) = Census.ofTexts (texts pages') :=
    Census.ofTexts_perm htexts
  have hlength' : totalLength (texts pages') < 1 <<< 63 := by rwa [← totalLength_perm htexts]
  have hlongest := isLongestOf_longestOf h
  have hlongest' := isLongestOf_longestOf hlength'
  refine ⟨_, _, _, _, run_of_room_none (lt_countLimit_of_lt h) hroom config elapsed,
    run_of_room_none (lt_countLimit_of_lt hlength') hroom config elapsed', ?_⟩
  constructor
  case census => exact hcensus
  case fetched => exact htexts.length_eq
  case skipped =>
    show pages.length - (texts pages).length = pages'.length - (texts pages').length
    rw [hperm.length_eq, htexts.length_eq]
  case filesWritten => rw [hcensus]
  case files => rw [hcensus]
  case pauses => rw [htexts.length_eq]
  case length => exact hlongest.length_eq_of_perm (pageTexts_perm hperm) hlongest'
  case closing =>
    obtain ⟨front, hfront⟩ := exists_textOf_transcript config pages elapsed
    obtain ⟨front', hfront'⟩ := exists_textOf_transcript config pages' elapsed'
    rw [← hcensus] at hfront'
    exact ⟨_, _, front, front', by rw [hfront], by rw [hfront']⟩
  case longest => exact hlongest
  case longest' => exact hlongest'
  case tie => exact hlongest.two_le_countP_of_perm (pageTexts_perm hperm) hlongest'

/-- A list of pages and its reverse, with a tie between two of them and a skipped page. -/
theorem run_orderIndependent_of_tie :
    let pages : List Page := [⟨"http://a/", .ok "to be"⟩,
      ⟨"b", .error (.invalidUrl "b" .relativeWithoutBase)⟩, ⟨"http://c/", .ok "or not"⟩,
      ⟨"http://d/", .ok "be not"⟩]
    pages.Perm pages.reverse ∧ totalLength (texts pages) < 1 <<< 63 ∧
      (World.start .unlimited .fresh).stdout.room = none ∧
      ∃ summary after summary' after',
        run {} pages ⟨0, 0⟩ (.start .unlimited .fresh) = .ok summary after ∧
        run {} pages.reverse ⟨1, 0⟩ (.start .unlimited .fresh) = .ok summary' after' ∧
        OrderIndependent {} pages pages.reverse ⟨0, 0⟩ ⟨1, 0⟩ (.start .unlimited .fresh) summary
          summary' after after' := by
  intro pages
  have hperm : pages.Perm pages.reverse := (List.reverse_perm pages).symm
  have h : totalLength (texts pages) < 1 <<< 63 := by decide
  have hroom : (World.start .unlimited .fresh).stdout.room = none := rfl
  exact ⟨hperm, h, hroom, run_orderIndependent hperm h hroom {} ⟨0, 0⟩ ⟨1, 0⟩⟩

end PageCensus
