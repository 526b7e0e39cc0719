import PageCensus.Proofs.Run.Bounded

/-!
# Pages that were skipped

A page that could not be fetched leaves no trace but in the log.  Two runs are compared, one over
some pages and one over those of them that were fetched: however far their output lets them get,
they print the same bytes, wait for the same time, leave the same files and end in the same way.

* `Event.withoutSkips` — what becomes of an event if the skipped pages are left out from the start.
* `Reworded` — scripts that differ in what they report alone.  Where a script stops, and all that it
  does but for the log, is the same for both (`Reworded.stop?_eq`, `Reworded.reached`).
* `reworded_runScript` — the scripts of the two runs are of this kind.
* `SkipsAside`, `run_skipsAside` — the comparison of the two runs.
-/

set_option autoImplicit false

namespace PageCensus

/-! ## Reports

A report prints nothing, so it takes no room, and it does nothing else but to report its event. -/

namespace Script

theorem text_report_cons (event : Event) (rest : List Action) :
    text (.report event :: rest) = text rest := by
  rw [text_cons]
  exact String.empty_append

theorem stop?_report_cons (room : Option Nat) (event : Event) (rest : List Action) :
    stop? room (.report event :: rest) = stop? room rest := by
  have hsize : (Action.report event).size = 0 := rfl
  rw [stop?, hsize, if_pos (Sink.fits_zero room), Sink.roomLeft_zero]

theorem reached_report_cons (room : Option Nat) (event : Event) (rest : List Action) :
    reached room (.report event :: rest) = .report event :: reached room rest := by
  have hsize : (Action.report event).size = 0 := rfl
  rw [reached_of_fits (Sink.fits_zero room), hsize, Sink.roomLeft_zero]

theorem events_report_cons (fs : FileSystem) (event : Event) (rest : List Action) :
    events fs (.report event :: rest) = event :: events fs rest := rfl

theorem pauses_report_cons (event : Event) (rest : List Action) :
    pauses (.report event :: rest) = pauses rest := rfl

end Script

/-! ## Scripts that differ in what they report -/

/-- Two scripts of which the second is the first with every event reworded or, where nothing is left
of it, not reported. -/
inductive Reworded (edit : Event → Option Event) : List Action → List Action → Prop where
  /-- Nothing is done in either. -/
  | nil : Reworded edit [] []
  /-- An action is the same in both if nothing that it reports changes. -/
  | kept {action : Action} {script script' : List Action}
      (h : ∀ fs, (action.events fs).filterMap edit = action.events fs)
      (rest : Reworded edit script script') :
      Reworded edit (action :: script) (action :: script')
  /-- An event is not reported in the second. -/
  | dropped {event : Event} {script script' : List Action} (h : edit event = none)
      (rest : Reworded edit script script') :
      Reworded edit (.report event :: script) script'
  /-- An event is reported in other words in the second. -/
  | changed {event event' : Event} {script script' : List Action} (h : edit event = some event')
      (rest : Reworded edit script script') :
      Reworded edit (.report event :: script) (.report event' :: script')

namespace Reworded

variable {edit : Event → Option Event} {script script' : List Action}

theorem refl {script : List Action}
    (h : ∀ action ∈ script, ∀ fs, (action.events fs).filterMap edit = action.events fs) :
    Reworded edit script script := by
  induction script with
  | nil => exact .nil
  | cons action rest ih =>
    obtain ⟨hfirst, hrest⟩ := List.forall_mem_cons.1 h
    exact .kept hfirst (ih hrest)

theorem append {more more' : List Action} (h : Reworded edit script script')
    (h' : Reworded edit more more') : Reworded edit (script ++ more) (script' ++ more') := by
  induction h with
  | nil => exact h'
  | kept h _ ih => exact .kept h ih
  | dropped h _ ih => exact .dropped h ih
  | changed h _ ih => exact .changed h ih

/-! ### What stays the same -/

theorem text_eq (h : Reworded edit script script') : Script.text script' = Script.text script := by
  induction h with
  | nil => rfl
  | kept _ _ ih => rw [Script.text_cons, Script.text_cons, ih]
  | dropped _ _ ih => rw [Script.text_report_cons, ih]
  | changed _ _ ih => rw [Script.text_report_cons, Script.text_report_cons, ih]

theorem pauses_eq (h : Reworded edit script script') :
    Script.pauses script' = Script.pauses script := by
  induction h with
  | nil => rfl
  | kept _ _ ih => rw [Script.pauses_cons, Script.pauses_cons, ih]
  | dropped _ _ ih => rw [Script.pauses_report_cons, ih]
  | changed _ _ ih => rw [Script.pauses_report_cons, Script.pauses_report_cons, ih]

theorem files_eq (h : Reworded edit script script') (fs : FileSystem) :
    Script.files fs script' = Script.files fs script := by
  induction h generalizing fs with
  | nil => rfl
  | kept _ _ ih => exact ih _
  | dropped _ _ ih => exact ih fs
  | changed _ _ ih => exact ih fs

theorem saved_eq (h : Reworded edit script script') (fs : FileSystem) :
    Script.saved fs script' = Script.saved fs script := by
  induction h generalizing fs with
  | nil => rfl
  | kept _ _ ih => rw [Script.saved, Script.saved, ih]
  | dropped _ _ ih => exact ih fs
  | changed _ _ ih => exact ih fs

theorem stop?_eq (h : Reworded edit script script') (room : Option Nat) :
    Script.stop? room script' = Script.stop? room script := by
  induction h generalizing room with
  | nil => rfl
  | kept _ _ ih => rw [Script.stop?, Script.stop?, ih]
  | dropped _ _ ih => rw [Script.stop?_report_cons, ih]
  | changed _ _ ih => rw [Script.stop?_report_cons, Script.stop?_report_cons, ih]

/-- The events of the second script are those of the first, reworded. -/
theorem events_eq (h : Reworded edit script script') (fs : FileSystem) :
    Script.events fs script' = (Script.events fs script).filterMap edit := by
  induction h generalizing fs with
  | nil => rfl
  | kept h _ ih => rw [Script.events, Script.events, List.filterMap_append, h, ih]
  | dropped h _ ih => rw [Script.events_report_cons, List.filterMap_cons_none h, ih]
  | changed h _ ih =>
    rw [Script.events_report_cons, Script.events_report_cons, List.filterMap_cons_some h, ih]

/-- **Both scripts get equally far.** -/
theorem reached (h : Reworded edit script script') (room : Option Nat) :
    Reworded edit (Script.reached room script) (Script.reached room script') := by
  induction h generalizing room with
  | nil => exact .nil
  | @kept action _ _ h _ ih =>
    cases hfits : Sink.fits room action.size with
    | true =>
      rw [Script.reached_of_fits hfits, Script.reached_of_fits hfits]
      exact .kept h (ih _)
    | false =>
      rw [Script.reached_of_not_fits hfits, Script.reached_of_not_fits hfits]
      exact .nil
  | dropped h _ ih =>
    rw [Script.reached_report_cons]
    exact .dropped h (ih room)
  | changed h _ ih =>
    rw [Script.reached_report_cons, Script.reached_report_cons]
    exact .changed h (ih room)

/-- **Performed in the same world, both scripts leave the same behind**, but for the log. -/
theorem afterAll_eq (h : Reworded edit script script') (world : World) :
    world.afterAll script' =
      { world.afterAll script with
        log := world.log ++
          (Script.events world.files
            (Script.reached world.stdout.room script)).filterMap edit } := by
  have hreached := h.reached world.stdout.room
  rw [World.afterAll, World.afterAll, h.text_eq, hreached.files_eq, hreached.pauses_eq,
    hreached.events_eq]

end Reworded

/-! ## The scripts of two runs -/

/-- What becomes of an event if a run visits only those pages that were fetched, of which there are
so many: a skipped page is not reported, nor counted. -/
def Event.withoutSkips (fetched : Nat) : Event → Option Event
  | .pageSkipped .. => none
  | .runStarted _ => some (.runStarted fetched)
  | .runCompleted count _ => some (.runCompleted count 0)
  | event => some event

section

variable {config : Config}

theorem texts_fetchedPages (pages : List Page) : texts (fetchedPages pages) = texts pages := by
  induction pages with
  | nil => rfl
  | cons page rest ih =>
    cases h : page.result with
    | error error => rw [fetchedPages_cons_of_error h, texts_cons_of_error h, ih]
    | ok body => rw [fetchedPages_cons_of_ok h, texts_cons_of_ok h, texts_cons_of_ok h, ih]

theorem longestOf_fetchedPages (pages : List Page) :
    longestOf (fetchedPages pages) = longestOf pages := by
  have hfold : ∀ longest : LongestPage,
      (fetchedPages pages).foldl LongestPage.afterPage longest =
        pages.foldl LongestPage.afterPage longest := by
    induction pages with
    | nil => exact fun _ => rfl
    | cons page rest ih =>
      intro longest
      cases h : page.result with
      | error error =>
        rw [fetchedPages_cons_of_error h, List.foldl_cons, LongestPage.afterPage_of_error h, ih]
      | ok body => rw [fetchedPages_cons_of_ok h, List.foldl_cons, List.foldl_cons, ih]
  exact hfold .initial

theorem skipped_fetchedPages (pages : List Page) : skipped (fetchedPages pages) = 0 := by
  rw [skipped, texts_fetchedPages, length_fetchedPages, Nat.sub_self]

/-- The pages that were skipped are those that could not be fetched. -/
theorem skipped_eq_countP (pages : List Page) :
    skipped pages = pages.countP fun page => !page.result.isOk := by
  have hcount := List.length_eq_countP_add_countP (fun page : Page => page.result.isOk) (l := pages)
  rw [skipped, ← length_fetchedPages, fetchedPages, ← List.countP_eq_length_filter]
  simp only [Bool.not_eq_true, Bool.decide_eq_false] at hcount
  omega

/-- Skipped pages add to nothing that a run finds but their number. -/
theorem foundBy_fetchedPages (pages : List Page) :
    foundBy (fetchedPages pages) = { foundBy pages with skipped := 0 } := by
  rw [foundBy, texts_fetchedPages, longestOf_fetchedPages, skipped_fetchedPages, foundBy]

/-- Nothing that is reported of a fetched page speaks of skipped pages. -/
theorem reworded_pageScript (fetched : Nat) (longest : LongestPage) (url body : String) :
    Reworded (Event.withoutSkips fetched) (pageScript config longest url body)
      (pageScript config longest url body) := by
  refine .refl fun action haction fs => ?_
  obtain ⟨_, _, rfl⟩ | ⟨_, _, rfl⟩ | ⟨_, rfl⟩ | rfl := of_mem_pageScript haction <;> rfl

/-- **Visits to skipped pages are reports that are dropped.** -/
theorem reworded_visitsScript (fetched : Nat) (longest : LongestPage) (pages : List Page) :
    Reworded (Event.withoutSkips fetched) (visitsScript config longest pages)
      (visitsScript config longest (fetchedPages pages)) := by
  induction pages generalizing longest with
  | nil => exact .nil
  | cons page rest ih =>
    cases h : page.result with
    | error error =>
      rw [fetchedPages_cons_of_error h, visitsScript, visitScript_of_error h,
        LongestPage.afterPage_of_error h]
      exact .dropped rfl (ih longest)
    | ok body =>
      rw [fetchedPages_cons_of_ok h, visitsScript, visitsScript, visitScript_of_ok h]
      exact (reworded_pageScript fetched longest page.url body).append (ih _)

theorem filterMap_withoutSkips_saveAction {κ : Type} [Token κ] (fetched : Nat) (path : String)
    (tally : Tally κ) (fs : FileSystem) :
    ((saveAction path tally).events fs).filterMap (Event.withoutSkips fetched) =
      (saveAction path tally).events fs := by
  rw [saveAction, Action.events]
  split <;> rfl

/-- **The scripts of the two runs** differ in reports of skipped pages, and in their number. -/
theorem reworded_runScript (pages : List Page) (elapsed : Duration) :
    Reworded (Event.withoutSkips (fetchedPages pages).length) (runScript config pages elapsed)
      (runScript config (fetchedPages pages) elapsed) := by
  have hvisits : Reworded (Event.withoutSkips (fetchedPages pages).length)
      (visitsScript config .initial pages) (visitsScript config .initial (fetchedPages pages)) :=
    reworded_visitsScript _ _ _
  rw [runScript, runScript, reportScript, reportScript, endScript, endScript, texts_fetchedPages,
    longestOf_fetchedPages, skipped_fetchedPages]
  refine .append (.changed rfl (hvisits.append ?_)) (.append ?_ ?_)
  · exact .kept (fun _ => rfl) (.kept (fun _ => rfl) .nil)
  · exact .kept (filterMap_withoutSkips_saveAction _ _ _)
      (.kept (filterMap_withoutSkips_saveAction _ _ _) .nil)
  · exact .kept (fun _ => rfl) (.changed rfl .nil)

end

/-! ## The two runs -/

/-- **How two runs end that differ in skipped pages alone**: `whole` over all pages, and `fetched`
over those that were fetched. -/
structure SkipsAside (pages : List Page) (whole fetched : Ending Summary) : Prop where
  /-- Both print the same bytes, into an output that is then the same. -/
  stdout : fetched.world.stdout = whole.world.stdout
  /-- Both wait as often and as long. -/
  pauses : fetched.world.pauses = whole.world.pauses
  /-- Both leave the same files. -/
  files : fetched.world.files = whole.world.files
  /-- If one ends early, so does the other, for the same reason. -/
  error_iff : ∀ error, fetched.outcome = .error error ↔ whole.outcome = .error error
  /-- If both end well, they have found the same, but for the number of skipped pages, which is that
  of the pages that could not be fetched, and zero where those are left out. -/
  ok : ∀ summary, whole.outcome = .ok summary →
    summary.progress.skipped = (pages.countP fun page => !page.result.isOk) ∧
      fetched.outcome = .ok { summary with progress := { summary.progress with skipped := 0 } }
  /-- The log of the second is that of the first without the skipped pages. -/
  log : fetched.world.log =
    whole.world.log.filterMap (Event.withoutSkips (fetchedPages pages).length)

/-- **Pages that could not be fetched leave no trace but in the log**, wherever among the others
they stand and however much room the output has, as long as the counts fit, for which it is enough
that the texts have fewer characters than a count can hold. -/
theorem run_skipsAside {pages : List Page} (h : totalLength (texts pages) < countLimit)
    (config : Config) (elapsed : Duration) (stdout : Sink) (files : FileSystem) :
    SkipsAside pages ((run config pages elapsed).ending (.start stdout files))
      ((run config (fetchedPages pages) elapsed).ending (.start stdout files)) := by
  have hmerge := mergeAll?_texts h
  have hmerge' : Census.empty.mergeAll? (texts (fetchedPages pages)) =
      some (.ofTexts (texts (fetchedPages pages))) := by
    rw [texts_fetchedPages, hmerge]
  have hscripts : Reworded _ (runScript config pages elapsed) _ := reworded_runScript pages elapsed
  rw [ending_run hmerge, ending_run hmerge', hscripts.stop?_eq, hscripts.saved_eq,
    hscripts.afterAll_eq]
  constructor
  case stdout => rfl
  case pauses => rfl
  case files => rfl
  case error_iff =>
    intro error
    cases Script.stop? (World.start stdout files).stdout.room (runScript config pages elapsed) with
    | none => exact ⟨nofun, nofun⟩
    | some stage => exact Iff.rfl
  case ok =>
    intro summary hsummary
    cases hstop : Script.stop? (World.start stdout files).stdout.room
      (runScript config pages elapsed) with
    | none =>
      rw [hstop] at hsummary
      cases hsummary
      exact ⟨skipped_eq_countP pages, by rw [foundBy_fetchedPages]⟩
    | some stage =>
      rw [hstop] at hsummary
      cases hsummary
  case log =>
    show [] ++ _ = ([] ++ _ : List Event).filterMap _
    rw [List.nil_append, List.nil_append]

/-- Skipped pages at both ends of a list, and output that ends within the summary of the page
between them. -/
theorem run_skipsAside_of_bounded :
    let pages : List Page := [⟨"a", .error (.invalidUrl "a" .relativeWithoutBase)⟩,
      ⟨"http://b/", .ok "to be"⟩, ⟨"c", .error (.invalidUrl "c" .relativeWithoutBase)⟩]
    totalLength (texts pages) < countLimit ∧
      SkipsAside pages ((run {} pages ⟨0, 0⟩).ending (.start (.limited 60 .pipeClosed) .fresh))
        ((run {} (fetchedPages pages) ⟨0, 0⟩).ending
          (.start (.limited 60 .pipeClosed) .fresh)) := by
  intro pages
  have h : totalLength (texts pages) < countLimit := by decide
  exact ⟨h, run_skipsAside h {} ⟨0, 0⟩ (.limited 60 .pipeClosed) .fresh⟩

end PageCensus
