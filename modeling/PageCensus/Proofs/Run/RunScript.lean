import PageCensus.Proofs.CountFile.Write
import PageCensus.Proofs.Tally.Census

/-!
# The script of a run

As long as no count outgrows its 64 bits, a run is the performance of a script that can be written
down from the pages alone: neither the files nor the output have a say in what is to be printed,
reported and saved, only in how far the script gets and in whether a file can be saved.

* `runScript` — the script of a run.
* `run_eq` — a run performs its script.
* `mergeAll?_of_run` — a run that ends well has merged all its texts, so it, too, was the
  performance of its script.
-/

set_option autoImplicit false

namespace PageCensus

open RunStep

/-! ## What the pages come to -/

/-- The pages that were fetched. -/
def fetchedPages (pages : List Page) : List Page := pages.filter fun page => page.result.isOk

/-- The texts of the pages that were fetched. -/
def texts (pages : List Page) : List String := pages.filterMap fun page => page.result.toOption

/-- How many pages were not fetched. -/
def skipped (pages : List Page) : Nat := pages.length - (texts pages).length

/-- The longest page after one more page, which may have been skipped. -/
def LongestPage.afterPage (longest : LongestPage) (page : Page) : LongestPage :=
  match page.result with
  | .ok body => longest.observe page.url body.length
  | .error _ => longest

/-- The longest page of several. -/
def longestOf (pages : List Page) : LongestPage := pages.foldl LongestPage.afterPage .initial

/-! ## The script -/

section

variable (config : Config)

/-- What is reported if a page is the longest so far. -/
def lengthScript (longest : LongestPage) (url : String) (length : Nat) : List Action :=
  if longest.isBeatenBy length then
    [.report (.longestPageFound url (longest.observe url length).length)]
  else []

/-- What is done for a page that was fetched. -/
def pageScript (longest : LongestPage) (url body : String) : List Action :=
  let page := Census.ofText body
  [.print .progress (Report.running url), .report (.pageCounted page.chars.size page.words.size),
    .print .pageSummary (Report.pageSummary page config.top)] ++
    (lengthScript longest url body.length ++ [.wait config.delay])

/-- What is done for a page. -/
def visitScript (longest : LongestPage) (page : Page) : List Action :=
  match page.result with
  | .error error => [.report (.pageSkipped page.url error)]
  | .ok body => pageScript config longest page.url body

/-- What is done for the pages, one after the other. -/
def visitsScript : LongestPage → List Page → List Action
  | _, [] => []
  | longest, page :: rest => visitScript config longest page ++
      visitsScript (longest.afterPage page) rest

/-- The path of the file with the counts of characters. -/
def charsPath : String := joinPath config.outputDirectory CountFile.charsName

/-- The path of the file with the counts of words. -/
def wordsPath : String := joinPath config.outputDirectory CountFile.wordsName

/-- Saving a tally. -/
def saveAction {κ : Type} [Token κ] (path : String) (tally : Tally κ) : Action :=
  .save path (CountFile.render tally) tally.size

/-- The part of the report behind the pages and before the files. -/
def summaryScript (longest : LongestPage) (census : Census) : List Action :=
  [.print .longestPage (Report.longestPage longest),
    .print .globalSummary (Report.globalSummary census config.top)]

/-- The files that are saved. -/
def filesScript (census : Census) : List Action :=
  [saveAction (charsPath config) census.chars, saveAction (wordsPath config) census.words]

/-- What is done behind the files. -/
def endScript (pages : List Page) (elapsed : Duration) : List Action :=
  [.print .elapsed (Report.elapsed elapsed),
    .report (.runCompleted (texts pages).length (skipped pages))]

/-- What is done up to the files. -/
def reportScript (pages : List Page) : List Action :=
  .report (.runStarted pages.length) :: (visitsScript config .initial pages ++
    summaryScript config (longestOf pages) (Census.ofTexts (texts pages)))

/-- **The script of a run.** -/
def runScript (pages : List Page) (elapsed : Duration) : List Action :=
  reportScript config pages ++ (filesScript config (Census.ofTexts (texts pages)) ++
    endScript pages elapsed)

/-- What a run is known to have found when it ends. -/
def foundBy (pages : List Page) : Progress where
  census := .ofTexts (texts pages)
  longest := longestOf pages
  fetched := (texts pages).length
  skipped := skipped pages

end

section

variable {config : Config} {longest : LongestPage} {page : Page} {error : FetchError}
  {body : String}

theorem LongestPage.afterPage_of_error (h : page.result = .error error) :
    longest.afterPage page = longest := by rw [afterPage, h]

theorem LongestPage.afterPage_of_ok (h : page.result = .ok body) :
    longest.afterPage page = longest.observe page.url body.length := by rw [afterPage, h]

/-- A page that was not fetched is reported, and that is all. -/
theorem visitScript_of_error (h : page.result = .error error) :
    visitScript config longest page = [.report (.pageSkipped page.url error)] := by
  rw [visitScript, h]

theorem visitScript_of_ok (h : page.result = .ok body) :
    visitScript config longest page = pageScript config longest page.url body := by
  rw [visitScript, h]

/-- At most a longest page is reported while lengths are compared. -/
theorem exists_of_mem_lengthScript {url : String} {length : Nat} {action : Action}
    (h : action ∈ lengthScript longest url length) :
    ∃ found, action = .report (.longestPageFound url found) := by
  rw [lengthScript] at h
  split at h
  · exact ⟨_, List.mem_singleton.1 h⟩
  · exact absurd h List.not_mem_nil

/-- For a page that was fetched, lines are printed, its counts and perhaps its length are reported,
and a pause is made. -/
theorem of_mem_pageScript {url : String} {action : Action}
    (h : action ∈ pageScript config longest url body) :
    (∃ stage lines, action = .print stage lines) ∨
      (∃ chars words, action = .report (.pageCounted chars words)) ∨
      (∃ found, action = .report (.longestPageFound url found)) ∨ action = .wait config.delay := by
  rw [pageScript] at h
  simp only [List.mem_append, List.mem_cons, List.not_mem_nil, or_false] at h
  rcases h with (rfl | rfl | rfl) | hlength | rfl
  · exact .inl ⟨_, _, rfl⟩
  · exact .inr (.inl ⟨_, _, rfl⟩)
  · exact .inl ⟨_, _, rfl⟩
  · exact .inr (.inr (.inl (exists_of_mem_lengthScript hlength)))
  · exact .inr (.inr (.inr rfl))

end

/-! ## A run performs its script -/

namespace Action

theorem perform_print (stage : Stage) (lines : List String) :
    (print stage lines).perform =
      (do
        RunStep.print stage lines
        return []) := rfl

theorem perform_report (event : Event) :
    (report event).perform =
      (do
        emit event
        return []) := rfl

theorem perform_wait (milliseconds : Nat) :
    (wait milliseconds).perform =
      (do
        pause milliseconds
        return []) := rfl

end Action

theorem performAll_nil : performAll [] = (pure [] : RunStep (List String)) := rfl

theorem performAll_cons (action : Action) (rest : List Action) :
    performAll (action :: rest) =
      (do
        let saved ← action.perform
        let others ← performAll rest
        return saved ++ others) := rfl

theorem performAll_append (a b : List Action) :
    performAll (a ++ b) =
      (do
        let saved ← performAll a
        let others ← performAll b
        return saved ++ others) := by
  induction a with
  | nil => simp only [List.nil_append, performAll_nil, pure_bind, bind_pure]
  | cons action rest ih =>
    simp only [List.cons_append, performAll_cons, ih, bind_assoc, pure_bind, List.append_assoc]

theorem saveTally_eq {κ : Type} [Token κ] (path : String) (tally : Tally κ) :
    saveTally path tally = (saveAction path tally).perform := by
  funext world
  cases h : world.files.save path (CountFile.render tally) with
  | ok fs =>
    rw [saveTally, bind_of_ok (writeTally_of_ok h), saveAction, Action.perform_save_of_ok h]
    rfl
  | error fault =>
    rw [saveTally, bind_of_ok (writeTally_of_error h), saveAction,
      Action.perform_save_of_error h]
    rfl

variable {config : Config}

theorem observeLength_eq (longest : LongestPage) (url : String) (length : Nat) :
    observeLength longest url length =
      (do
        let _ ← performAll (lengthScript longest url length)
        return longest.observe url length) := by
  rw [observeLength, lengthScript]
  split
  · simp [performAll_cons, performAll_nil, Action.perform_report]
  · simp [performAll_nil]

theorem visitFetched_eq {progress : Progress} {url body : String} {census : Census}
    (h : progress.census.merge? (.ofText body) = some census) :
    visitFetched config progress url body =
      (do
        let _ ← performAll (pageScript config progress.longest url body)
        return { progress with
          census, longest := progress.longest.observe url body.length,
          fetched := progress.fetched + 1 }) := by
  have hadd : addCensus progress.census (.ofText body) = pure census := by rw [addCensus, h]
  simp only [visitFetched, hadd, observeLength_eq, pageScript, performAll_append, performAll_cons,
    performAll_nil, Action.perform_print, Action.perform_report,
    Action.perform_wait, bind_assoc, pure_bind]

@[simp] theorem texts_nil : texts [] = [] := rfl

theorem texts_cons_of_error {page : Page} {error : FetchError} (h : page.result = .error error)
    (rest : List Page) : texts (page :: rest) = texts rest := by
  rw [texts, List.filterMap_cons_none (by rw [h]; rfl), texts]

theorem texts_cons_of_ok {page : Page} {body : String} (h : page.result = .ok body)
    (rest : List Page) : texts (page :: rest) = body :: texts rest := by
  rw [texts, List.filterMap_cons_some (by rw [h]; rfl), texts]

theorem texts_cons (page : Page) (rest : List Page) :
    texts (page :: rest) = texts [page] ++ texts rest :=
  List.filterMap_append (l := [page])

theorem fetchedPages_cons_of_error {page : Page} {error : FetchError}
    (h : page.result = .error error) (rest : List Page) :
    fetchedPages (page :: rest) = fetchedPages rest := by
  rw [fetchedPages, List.filter_cons_of_neg (by rw [h]; exact Bool.false_ne_true), fetchedPages]

theorem fetchedPages_cons_of_ok {page : Page} {body : String} (h : page.result = .ok body)
    (rest : List Page) : fetchedPages (page :: rest) = page :: fetchedPages rest := by
  rw [fetchedPages, List.filter_cons_of_pos (by rw [h]; rfl), fetchedPages]

theorem length_fetchedPages (pages : List Page) :
    (fetchedPages pages).length = (texts pages).length := by
  induction pages with
  | nil => rfl
  | cons page rest ih =>
    cases h : page.result with
    | error error => rw [fetchedPages_cons_of_error h, texts_cons_of_error h, ih]
    | ok body =>
      rw [fetchedPages_cons_of_ok h, texts_cons_of_ok h, List.length_cons, List.length_cons, ih]

theorem length_texts_le (pages : List Page) : (texts pages).length ≤ pages.length :=
  List.length_filterMap_le _ _

/-- **Visiting pages performs their script**, as long as the counts fit. -/
theorem visitAll_eq {pages : List Page} {progress : Progress} {census : Census}
    (h : progress.census.mergeAll? (texts pages) = some census) :
    visitAll config progress pages =
      (do
        let _ ← performAll (visitsScript config progress.longest pages)
        return ⟨census, pages.foldl LongestPage.afterPage progress.longest,
          progress.fetched + (texts pages).length, progress.skipped + skipped pages⟩) := by
  induction pages generalizing progress with
  | nil =>
    rw [texts_nil, Census.mergeAll?_nil, Option.some_inj] at h
    rw [← h]
    rfl
  | cons page rest ih =>
    have hle := length_texts_le rest
    rw [visitAll, List.foldlM_cons, visitsScript, performAll_append, visit, visitScript,
      List.foldl_cons, LongestPage.afterPage]
    cases hpage : page.result with
    | error error =>
      have hskipped : skipped (page :: rest) = 1 + skipped rest := by
        rw [skipped, texts_cons_of_error hpage, List.length_cons, skipped]
        omega
      rw [texts_cons_of_error hpage] at h
      have hrest : visitAll config { progress with skipped := progress.skipped + 1 } rest = _ :=
        ih h
      rw [visitAll] at hrest
      simp only [hrest, bind_assoc, pure_bind, performAll_cons, performAll_nil,
        Action.perform_report, texts_cons_of_error hpage, hskipped, Nat.add_assoc]
    | ok body =>
      have hskipped : skipped (page :: rest) = skipped rest := by
        rw [skipped, texts_cons_of_ok hpage, List.length_cons, List.length_cons, skipped]
        omega
      rw [texts_cons_of_ok hpage, Census.mergeAll?_cons, Option.bind_eq_some_iff] at h
      obtain ⟨next, hmerge, hnext⟩ := h
      have hrest : visitAll config { progress with
          census := next, longest := progress.longest.observe page.url body.length,
          fetched := progress.fetched + 1 } rest = _ := ih hnext
      rw [visitAll] at hrest
      simp only [visitFetched_eq hmerge, hrest, bind_assoc, pure_bind, texts_cons_of_ok hpage,
        hskipped, List.length_cons, Nat.add_assoc, Nat.add_comm 1]

/-- Whether an action saves a file. -/
def Action.saves : Action → Bool
  | save .. => true
  | _ => false

/-- A script that saves no file has no paths to tell. -/
theorem performAll_of_not_saves {script : List Action}
    (h : ∀ action ∈ script, action.saves = false) :
    performAll script =
      (do
        let _ ← performAll script
        return []) := by
  induction script with
  | nil => rfl
  | cons action rest ih =>
    have hrest := ih fun a ha => h a (List.mem_cons_of_mem _ ha)
    have haction : action.perform = (do let _ ← action.perform; return []) := by
      cases action with
      | save => exact absurd (h _ List.mem_cons_self) (by simp [Action.saves])
      | print => simp only [Action.perform_print, bind_assoc, pure_bind]
      | report => simp only [Action.perform_report, bind_assoc, pure_bind]
      | wait => simp only [Action.perform_wait, bind_assoc, pure_bind]
    rw [performAll_cons, haction, hrest]
    simp only [bind_assoc, pure_bind, List.append_nil]

/-- No file is saved while the pages are visited. -/
theorem saves_of_mem_visitsScript {pages : List Page} {longest : LongestPage} {action : Action}
    (h : action ∈ visitsScript config longest pages) : action.saves = false := by
  induction pages generalizing longest with
  | nil => exact absurd h List.not_mem_nil
  | cons page rest ih =>
    rw [visitsScript, List.mem_append] at h
    refine h.elim (fun hvisit => ?_) fun hrest => ih hrest
    cases hpage : page.result with
    | error error =>
      rw [visitScript_of_error hpage] at hvisit
      rw [List.mem_singleton.1 hvisit]
      rfl
    | ok body =>
      rw [visitScript_of_ok hpage] at hvisit
      obtain ⟨_, _, rfl⟩ | ⟨_, _, rfl⟩ | ⟨_, rfl⟩ | rfl := of_mem_pageScript hvisit <;> rfl

/-- **A run performs its script**, as long as the counts fit. -/
theorem run_eq {pages : List Page}
    (h : Census.empty.mergeAll? (texts pages) = some (.ofTexts (texts pages)))
    (elapsed : Duration) :
    run config pages elapsed =
      (do
        let saved ← performAll (runScript config pages elapsed)
        return ⟨foundBy pages, saved, elapsed⟩) := by
  have hvisits : visitAll config .start pages = _ := visitAll_eq h
  have hsaved : performAll (visitsScript config .initial pages) = _ :=
    performAll_of_not_saves fun _ => saves_of_mem_visitsScript
  simp only [Progress.start, Nat.zero_add] at hvisits
  rw [runScript, reportScript, List.cons_append, performAll_cons, performAll_append,
    performAll_append, hsaved, run]
  simp only [Progress.start, hvisits, saveTally_eq, summaryScript, filesScript, endScript,
    performAll_append, performAll_cons, performAll_nil, Action.perform_print,
    Action.perform_report, bind_assoc, pure_bind, List.nil_append, List.append_nil]
  rfl

/-- **How a run ends**, as long as the counts fit. -/
theorem ending_run {pages : List Page}
    (h : Census.empty.mergeAll? (texts pages) = some (.ofTexts (texts pages)))
    (elapsed : Duration) (world : World) :
    (run config pages elapsed).ending world =
      ⟨match Script.stop? world.stdout.room (runScript config pages elapsed) with
        | none =>
          .ok ⟨foundBy pages, Script.saved world.files (runScript config pages elapsed), elapsed⟩
        | some stage => .error (.output stage world.stdout.fault),
      world.afterAll (runScript config pages elapsed)⟩ := by
  have hperform := performAll_eq (runScript config pages elapsed) world
  rw [run_eq h, ending]
  cases hstop : Script.stop? world.stdout.room (runScript config pages elapsed) with
  | none =>
    rw [hstop] at hperform
    rw [bind_of_ok hperform, Script.reached_eq_self (Script.fits_of_stop?_eq_none hstop)]
    rfl
  | some stage =>
    rw [hstop] at hperform
    rw [bind_of_error hperform]

/-- **A run with room for all of its report ends well**, as long as the counts fit. -/
theorem run_of_fits {pages : List Page} {elapsed : Duration} {world : World}
    (h : Census.empty.mergeAll? (texts pages) = some (.ofTexts (texts pages)))
    (hfits : Sink.fits world.stdout.room (Script.size (runScript config pages elapsed)) = true) :
    run config pages elapsed world =
      .ok ⟨foundBy pages, Script.saved world.files (runScript config pages elapsed), elapsed⟩
        (world.afterAll (runScript config pages elapsed)) := by
  have hperform : performAll (runScript config pages elapsed) world =
      .ok (Script.saved world.files (runScript config pages elapsed))
        (world.afterAll (runScript config pages elapsed)) := by
    rw [performAll_eq, Script.stop?_of_fits hfits, Script.reached_eq_self hfits]
  rw [run_eq h, bind_of_ok hperform]
  rfl

/-- Fewer characters than a count can hold are few enough for all counts to fit. -/
theorem mergeAll?_texts {pages : List Page} (h : totalLength (texts pages) < countLimit) :
    Census.empty.mergeAll? (texts pages) = some (.ofTexts (texts pages)) :=
  Census.mergeAll?_ofTexts (a := []) h

/-! ## Runs that end well -/

/-- A page can only be visited if its counts fit. -/
theorem mergeAll?_of_visit {progress next : Progress} {page : Page} {world world' : World}
    (h : visit config progress page world = .ok next world') :
    progress.census.mergeAll? (texts [page]) = some next.census := by
  rw [visit] at h
  cases hpage : page.result with
  | error error =>
    rw [hpage] at h
    obtain ⟨_, _, -, hnext⟩ := of_bind_eq_ok h
    cases hnext
    rw [texts_cons_of_error hpage]
    rfl
  | ok body =>
    simp only [hpage, visitFetched] at h
    obtain ⟨_, _, -, h⟩ := of_bind_eq_ok h
    obtain ⟨_, _, -, h⟩ := of_bind_eq_ok h
    obtain ⟨_, _, -, h⟩ := of_bind_eq_ok h
    obtain ⟨_, _, -, h⟩ := of_bind_eq_ok h
    obtain ⟨census, _, hadd, h⟩ := of_bind_eq_ok h
    obtain ⟨_, _, -, h⟩ := of_bind_eq_ok h
    cases h
    rw [addCensus] at hadd
    rw [texts_cons_of_ok hpage, Census.mergeAll?_cons]
    cases hmerge : progress.census.merge? (.ofText body) with
    | none => rw [hmerge] at hadd; cases hadd
    | some sum => rw [hmerge] at hadd; cases hadd; rfl

theorem mergeAll?_of_visitAll {pages : List Page} {progress last : Progress} {world world' : World}
    (h : visitAll config progress pages world = .ok last world') :
    progress.census.mergeAll? (texts pages) = some last.census := by
  induction pages generalizing progress world with
  | nil => cases h; rfl
  | cons page rest ih =>
    rw [visitAll, List.foldlM_cons] at h
    obtain ⟨next, between, hvisit, hrest⟩ := of_bind_eq_ok h
    have hfirst := mergeAll?_of_visit hvisit
    rw [texts_cons, Census.mergeAll?_append, hfirst, Option.bind_some, ih hrest]

/-- **A run that ends well has merged the texts of all its pages.** -/
theorem mergeAll?_of_run {pages : List Page} {elapsed : Duration} {summary : Summary}
    {world world' : World} (h : run config pages elapsed world = .ok summary world') :
    Census.empty.mergeAll? (texts pages) = some (.ofTexts (texts pages)) := by
  obtain ⟨_, _, -, h⟩ := of_bind_eq_ok h
  obtain ⟨progress, _, hvisits, -⟩ := of_bind_eq_ok h
  have hmerge := mergeAll?_of_visitAll hvisits
  rw [Progress.start, ← Census.ofTexts_nil] at hmerge
  rw [← Census.ofTexts_nil, hmerge, Census.eq_ofTexts_of_mergeAll? hmerge, List.nil_append]

end PageCensus
