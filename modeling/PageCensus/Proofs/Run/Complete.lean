import PageCensus.Proofs.Run.Bounded

/-!
# Runs with output for everything

A run whose output takes everything performs its script to the end.  What it leaves behind can then
be written down from the pages alone: its whole report, its files, and a pause for each page that
was fetched.

* `run_of_room_none` — such a run in one equation.
-/

set_option autoImplicit false

namespace PageCensus

variable {config : Config}

/-- There is one pause in the script of a page that was fetched. -/
theorem pauses_visitScript_of_ok {page : Page} {body : String} (h : page.result = .ok body)
    (longest : LongestPage) :
    Script.pauses (visitScript config longest page) = [config.delay] := by
  have hreached : Script.pauses (Script.reached none (visitScript config longest page)) = _ :=
    pauses_reached_pageScript h
  rwa [Script.reached_eq_self (Sink.fits_none _), Sink.fits_none, if_pos rfl] at hreached

theorem pauses_visitsScript (longest : LongestPage) (pages : List Page) :
    Script.pauses (visitsScript config longest pages) =
      List.replicate (texts pages).length config.delay := by
  induction pages generalizing longest with
  | nil => rfl
  | cons page rest ih =>
    rw [visitsScript, Script.pauses_append, ih]
    cases hpage : page.result with
    | error error =>
      rw [visitScript_of_error hpage, texts_cons_of_error hpage]
      rfl
    | ok body =>
      rw [pauses_visitScript_of_ok hpage, texts_cons_of_ok hpage, List.length_cons,
        List.replicate_succ, List.singleton_append]

/-- **There is a pause for each page that was fetched**, and no other. -/
theorem pauses_runScript (pages : List Page) (elapsed : Duration) :
    Script.pauses (runScript config pages elapsed) =
      List.replicate (texts pages).length config.delay := by
  rw [runScript, Script.pauses_append,
    Script.pauses_eq_nil fun _ => pauses_of_mem_lastScript, List.append_nil, reportScript,
    Script.pauses_cons, Script.pauses_append,
    Script.pauses_eq_nil fun _ => pauses_of_mem_summaryScript, List.append_nil]
  exact pauses_visitsScript .initial pages

/-- An output without a bound takes all of a text. -/
theorem Sink.offered_of_room_none {sink : Sink} (h : sink.room = none) (text : String) :
    sink.offered text = { sink with written := sink.written ++ text.toUTF8 } := by
  rw [offered, h, Option.getD_none, extract_toUTF8_of_le (Nat.le_refl _)]
  rfl

/-- An output without a bound takes all lines. -/
theorem Sink.writeLines_of_room_none {sink : Sink} (h : sink.room = none) (lines : List String) :
    sink.writeLines lines =
      ({ sink with written := sink.written ++ (linesText lines).toUTF8 }, none) := by
  have hfits : fits sink.room (linesText lines).utf8ByteSize = true := by rw [h, fits_none]
  rw [writeLines_eq_write, write_eq, if_pos hfits, offered_of_room_none h]

/-- **A run with output for everything**, in one equation. -/
theorem run_of_room_none {pages : List Page} (h : totalLength (texts pages) < countLimit)
    {world : World} (hroom : world.stdout.room = none) (config : Config) (elapsed : Duration) :
    run config pages elapsed world =
      .ok ⟨foundBy pages,
          Script.saved world.files (filesScript config (Census.ofTexts (texts pages))), elapsed⟩
        { stdout := { world.stdout with
            written := world.stdout.written ++
              (Segment.textOf (transcript config pages elapsed)).toUTF8 }
          files := Script.files world.files (filesScript config (Census.ofTexts (texts pages)))
          pauses := world.pauses ++ List.replicate (texts pages).length config.delay
          log := world.log ++ Script.events world.files (runScript config pages elapsed) } := by
  have hfits :
      Sink.fits world.stdout.room (Script.size (runScript config pages elapsed)) = true := by
    rw [hroom, Sink.fits_none]
  rw [run_of_fits (mergeAll?_texts h) hfits, saved_runScript, World.afterAll,
    Script.reached_eq_self hfits, Sink.offered_of_room_none hroom, text_runScript, files_runScript,
    pauses_runScript]

end PageCensus
