import Mathlib.Data.List.Forall2
import PageCensus.Proofs.LongestPage
import PageCensus.Proofs.Run.Complete
import PageCensus.Proofs.Tally.Ranking
import PageCensus.Proofs.Tally.Weight

/-!
# The transcript of a run

What a run with output for everything prints, line by line, told from the addresses and the texts of
the fetched pages.  Nothing in it refers to how a run goes through its pages: the lines for a page
depend on that page alone, and those at the end on all pages together.

* `pageTexts` — the fetched pages, with their texts.
* `IsPageReport` — what the five lines for a page are.
* `IsLongestOf` — what it means to be the longest of several pages.
* `Transcribed`, `run_transcribed` — what a run prints, and what it has to say about the longest
  page and leaves as pauses; every run with output for everything does so.
-/

set_option autoImplicit false

namespace PageCensus

/-! ## The fetched pages -/

/-- A page that was fetched. -/
structure PageText where
  /-- Its address. -/
  url : String
  /-- Its text. -/
  body : String
deriving DecidableEq, Repr

/-- The fetched pages with their texts, in order. -/
def pageTexts (pages : List Page) : List PageText :=
  pages.filterMap fun page => page.result.toOption.map fun body => ⟨page.url, body⟩

theorem pageTexts_cons_of_error {page : Page} {error : FetchError} (h : page.result = .error error)
    (rest : List Page) : pageTexts (page :: rest) = pageTexts rest := by
  rw [pageTexts, List.filterMap_cons_none (by rw [h]; rfl), pageTexts]

theorem pageTexts_cons_of_ok {page : Page} {body : String} (h : page.result = .ok body)
    (rest : List Page) : pageTexts (page :: rest) = ⟨page.url, body⟩ :: pageTexts rest := by
  rw [pageTexts, List.filterMap_cons_some (by rw [h]; rfl), pageTexts]

theorem map_body_pageTexts (pages : List Page) :
    (pageTexts pages).map PageText.body = texts pages := by
  induction pages with
  | nil => rfl
  | cons page rest ih =>
    cases h : page.result with
    | error error => rw [pageTexts_cons_of_error h, texts_cons_of_error h, ih]
    | ok body => rw [pageTexts_cons_of_ok h, texts_cons_of_ok h, List.map_cons, ih]

theorem length_pageTexts (pages : List Page) : (pageTexts pages).length = (texts pages).length := by
  rw [← map_body_pageTexts, List.length_map]

/-! ## The longest page -/

/-- **What it means to be the longest of several pages.** -/
inductive IsLongestOf (pages : List PageText) : LongestPage → Prop where
  /-- Of no pages there is none. -/
  | nothing (h : pages = []) : IsLongestOf pages ⟨none, -1⟩
  /-- Otherwise it is the first of those with the greatest length. -/
  | first {page : PageText} (h : IsFirstMax (fun page => page.body.length) pages page) :
      IsLongestOf pages ⟨some page.url, page.body.length⟩

theorem IsLongestOf.url_eq_none_iff {pages : List PageText} {longest : LongestPage}
    (h : IsLongestOf pages longest) : longest.url = none ↔ pages = [] := by
  cases h with
  | nothing hnil => exact ⟨fun _ => hnil, fun _ => rfl⟩
  | first hmax =>
    refine ⟨fun hurl => absurd hurl (Option.some_ne_none _), fun hnil => ?_⟩
    have hmem := hmax.mem
    rw [hnil] at hmem
    exact absurd hmem List.not_mem_nil

theorem longestOf_eq_observeAll (pages : List Page) :
    longestOf pages = LongestPage.initial.observeAll
      ((pageTexts pages).map fun page => (page.url, page.body.length)) := by
  have hfold : ∀ longest : LongestPage, pages.foldl LongestPage.afterPage longest =
      longest.observeAll ((pageTexts pages).map fun page => (page.url, page.body.length)) := by
    induction pages with
    | nil => exact fun _ => rfl
    | cons page rest ih =>
      intro longest
      rw [List.foldl_cons, ih]
      cases h : page.result with
      | error error => rw [pageTexts_cons_of_error h, LongestPage.afterPage_of_error h]
      | ok body =>
        rw [pageTexts_cons_of_ok h, LongestPage.afterPage_of_ok h]
        rfl
  exact hfold .initial

/-- Lengths that fit into 64 bits with a sign are few enough for the counts. -/
theorem lt_countLimit_of_lt {n : Nat} (h : n < 1 <<< 63) : n < countLimit :=
  Nat.lt_trans h (by decide)

/-- **A run keeps the longest page**, as long as all lengths fit into 64 bits with a sign. -/
theorem isLongestOf_longestOf {pages : List Page} (h : totalLength (texts pages) < 1 <<< 63) :
    IsLongestOf (pageTexts pages) (longestOf pages) := by
  have hsigned : ∀ page ∈ pageTexts pages, signed64 page.body.length = page.body.length := by
    intro page hpage
    have hbody : page.body ∈ texts pages := map_body_pageTexts pages ▸ List.mem_map_of_mem hpage
    exact signed64_of_lt (Nat.lt_of_le_of_lt (length_le_totalLength hbody) h)
  have hkept := LongestPage.kept_observeAll
    ((pageTexts pages).map fun page => (page.url, page.body.length))
  rw [longestOf_eq_observeAll]
  generalize LongestPage.initial.observeAll _ = longest at hkept ⊢
  cases hkept with
  | nothing hnone =>
    refine .nothing (List.eq_nil_iff_forall_not_mem.2 fun page hpage => ?_)
    have hnegative := hnone _ (List.mem_map_of_mem hpage)
    rw [hsigned page hpage] at hnegative
    omega
  | first hmax hsign =>
    obtain ⟨page, rfl, hfirst⟩ := hmax.exists_of_map
    rw [hsigned page hfirst.mem]
    exact .first (hfirst.congr hsigned)

/-! ## The lines -/

/-- **The lines for a page**: its address, and for its characters and its words how many different
ones there are and the first entries of their ranking. -/
def IsPageReport (top : Nat) (page : PageText) (lines : List String) : Prop :=
  let chars := page.body.toList
  let words := (PageCensus.words page.body.toList).map String.ofList
  ∃ rankedChars rankedWords,
    IsTokenRanking chars rankedChars ∧ IsTokenRanking words rankedWords ∧
    lines = ["Running " ++ page.url,
      "Number of unique chars: " ++ toString chars.dedup.length,
      "Most used chars " ++ Report.list (rankedChars.take top),
      "Number of unique words: " ++ toString words.dedup.length,
      "Most used words " ++ Report.list (rankedWords.take top)]

/-- The lines that are printed for a page. -/
def pageLines (top : Nat) (page : PageText) : List String :=
  Report.running page.url ++ Report.pageSummary (Census.ofText page.body) top

theorem isPageReport_pageLines (top : Nat) (page : PageText) :
    IsPageReport top page (pageLines top page) := by
  refine ⟨_, _, Tally.isTokenRanking_ranked _, Tally.isTokenRanking_ranked _, ?_⟩
  rw [← Tally.size_ofTokens, ← Tally.size_ofTokens]
  rfl

/-- The lines at the end of the report. -/
def closingLines (config : Config) (pages : List Page) (elapsed : Duration) : List String :=
  Report.longestPage (longestOf pages) ++
    (Report.globalSummary (Census.ofTexts (texts pages)) config.top ++ Report.elapsed elapsed)

theorem textOf_flatMap_pageSegments (config : Config) (pages : List Page) :
    Segment.textOf (pages.flatMap (pageSegments config)) =
      Sink.linesText ((pageTexts pages).flatMap (pageLines config.top)) := by
  induction pages with
  | nil => rfl
  | cons page rest ih =>
    rw [List.flatMap_cons, Segment.textOf_append, ih, pageSegments]
    cases h : page.result with
    | error error => simp only [pageTexts_cons_of_error h, Segment.textOf_nil, String.empty_append]
    | ok body =>
      simp only [pageTexts_cons_of_ok h, List.flatMap_cons, pageLines, Sink.linesText_append,
        Segment.textOf_cons, Segment.textOf_nil, Segment.text_ofLines, String.append_empty]

/-- **The report of a run, line by line.** -/
theorem textOf_transcript (config : Config) (pages : List Page) (elapsed : Duration) :
    Segment.textOf (transcript config pages elapsed) =
      Sink.linesText ((pageTexts pages).flatMap (pageLines config.top) ++
        closingLines config pages elapsed) := by
  simp only [transcript, frontSegments, closingLines, Segment.textOf_append,
    textOf_flatMap_pageSegments, Segment.textOf_cons, Segment.textOf_nil, Segment.text_ofLines,
    Sink.linesText_append, String.append_empty, String.append_assoc]

/-! ## The transcript -/

/-- **What a run prints and tells**, with the world `before` it and `after` it. -/
structure Transcribed (config : Config) (pages : List Page) (elapsed : Duration) (before : World)
    (summary : Summary) (after : World) : Prop where
  /-- The lines for each fetched page are printed in the order of the pages; behind them the longest
  page, the first entries of the rankings of all characters and all words, and the time. -/
  stdout : ∃ reports rankedChars rankedWords,
    List.Forall₂ (IsPageReport config.top) (pageTexts pages) reports ∧
    IsTokenRanking (Census.charTokens (texts pages)) rankedChars ∧
    IsTokenRanking (Census.wordTokens (texts pages)) rankedWords ∧
    after.stdout.written = before.stdout.written ++ (Sink.linesText (reports.flatten ++
      ["Longest page " ++ summary.progress.longest.url.getD "none",
        "Global most used chars " ++ Report.list (rankedChars.take config.top),
        "Global most used words " ++ Report.list (rankedWords.take config.top),
        "Elapsed: " ++ toString elapsed.milliseconds ++ "ms"])).toUTF8
  /-- The tallies of the summary are those of all texts. -/
  census : summary.progress.census = Census.ofTexts (texts pages)
  /-- The longest page of the summary, which is also the one that is printed, is the first of the
  longest ones. -/
  longest : IsLongestOf (pageTexts pages) summary.progress.longest
  /-- There is none, and `none` is printed in its place, exactly if nothing was fetched. -/
  url_eq_none_iff : summary.progress.longest.url = none ↔ pageTexts pages = []
  /-- Its length is the total of its own tally of characters. -/
  length_eq_total : ∀ page, IsFirstMax (fun page => page.body.length) (pageTexts pages) page →
    summary.progress.longest.length = (countChars page.body).total
  /-- There is a pause for each fetched page, and no other. -/
  pauses : after.pauses = before.pauses ++ List.replicate (pageTexts pages).length config.delay

/-- **A run prints its transcript**, as long as its output takes everything and the lengths of its
pages fit into 64 bits with a sign, for which it is enough that those of all pages together do. -/
theorem run_transcribed {pages : List Page} (h : totalLength (texts pages) < 1 <<< 63)
    {world : World} (hroom : world.stdout.room = none) (config : Config) (elapsed : Duration) :
    ∃ summary world', run config pages elapsed world = .ok summary world' ∧
      Transcribed config pages elapsed world summary world' := by
  have hlongest := isLongestOf_longestOf h
  refine ⟨_, _, run_of_room_none (lt_countLimit_of_lt h) hroom config elapsed, ?_⟩
  constructor
  case stdout =>
    refine ⟨(pageTexts pages).map (pageLines config.top), _, _, ?_,
      Tally.isTokenRanking_ranked _, Tally.isTokenRanking_ranked _, ?_⟩
    · rw [List.forall₂_map_right_iff, List.forall₂_same]
      exact fun page _ => isPageReport_pageLines config.top page
    · rw [textOf_transcript, List.flatMap_def]
      rfl
  case census => rfl
  case longest => exact hlongest
  case url_eq_none_iff => exact hlongest.url_eq_none_iff
  case length_eq_total =>
    intro page hpage
    rw [countChars, Tally.total_ofTokens, String.length_toList]
    show (longestOf pages).length = page.body.length
    generalize longestOf pages = longest at hlongest
    cases hlongest with
    | nothing hnil =>
      have hmem := hpage.mem
      rw [hnil] at hmem
      exact absurd hmem List.not_mem_nil
    | first hfirst => exact hfirst.key_eq_of_perm (.refl _) hpage
  case pauses => rw [length_pageTexts]

/-- Two pages share the greatest length, and a skipped page and a shorter one stand between them. -/
theorem run_transcribed_of_tie :
    let pages : List Page := [⟨"http://a/", .ok "to be\n"⟩,
      ⟨"b", .error (.invalidUrl "b" .relativeWithoutBase)⟩, ⟨"http://c/", .ok ""⟩,
      ⟨"http://d/", .ok "or not"⟩]
    totalLength (texts pages) < 1 <<< 63 ∧ (World.start .unlimited .fresh).stdout.room = none ∧
      ∃ summary world', run {} pages ⟨0, 0⟩ (.start .unlimited .fresh) = .ok summary world' ∧
        Transcribed {} pages ⟨0, 0⟩ (.start .unlimited .fresh) summary world' := by
  intro pages
  have h : totalLength (texts pages) < 1 <<< 63 := by decide
  have hroom : (World.start .unlimited .fresh).stdout.room = none := rfl
  exact ⟨h, hroom, run_transcribed h hroom {} ⟨0, 0⟩⟩

end PageCensus
