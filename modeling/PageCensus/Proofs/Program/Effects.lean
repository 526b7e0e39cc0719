import PageCensus.Program
import PageCensus.Proofs.FileSystem.Emptied
import PageCensus.Proofs.Run.Transcript

/-!
# What a command line does without a network

If no page can be fetched, what the program does to its world can be told from its command line
alone.  Most command lines leave the files alone and do not even try to fetch anything; the others
make a run over pages that are all skipped, whose report is known beforehand.

* `Idle` — a program that does not get to a run.
* `CommandEffect` — what a command line does: one case for each thing that it can ask for.
* `SameRequest` — command lines that differ in nothing that matters then.
* `execute_effect` — every command line does what it should, and those that differ in nothing that
  matters do the same.
-/

set_option autoImplicit false

namespace PageCensus

/-! ## The contract -/

/-- Whether a program ends with `outcome` without getting to a run: the outcome is the same whatever
there is to fetch, whatever the setting for the log is and however long it takes, and nothing but
the output has changed. -/
structure Idle (launch : Launch) (before : World) (outcome : Outcome) : Prop where
  /-- Nothing is fetched. -/
  independent : ∀ setting fetch elapsed,
    execute { launch with logSetting := setting } fetch elapsed before = outcome
  /-- No file is created or changed. -/
  files_eq : outcome.world.files = before.files
  /-- There is no pause. -/
  pauses_eq : outcome.world.pauses = before.pauses
  /-- There are no events. -/
  log_eq : outcome.world.log = before.log

/-- The report of a run for which nothing was fetched. -/
def bareReport (elapsed : Duration) : List String :=
  ["Longest page none", "Global most used chars []", "Global most used words []",
    "Elapsed: " ++ toString elapsed.milliseconds ++ "ms"]

/-- **What a command line does** if no page can be fetched. -/
inductive CommandEffect (launch : Launch) (elapsed : Duration) (before : World) :
    Outcome → Prop where
  /-- A command line that makes no sense is refused. -/
  | refused {refusal : Refusal} {outcome : Outcome}
      (hparse : Arguments.parse launch.words = .error (.refused refusal))
      (hidle : Idle launch before outcome) (hcode : outcome.exitCode = 2)
      (hstdout : outcome.world.stdout = before.stdout) :
      CommandEffect launch elapsed before outcome
  /-- The help or the version is given. -/
  | informed {halt : Halt} {outcome : Outcome} (hparse : Arguments.parse launch.words = .error halt)
      (hasked : halt = .help ∨ halt = .version) (hidle : Idle launch before outcome)
      (hcode : outcome.exitCode = 0)
      (hstdout : outcome.world.stdout.written =
        before.stdout.written ++ (halt.text (programName launch.path)).toUTF8) :
      CommandEffect launch elapsed before outcome
  /-- No entries at all are too few, even if none are to be printed. -/
  | zeroTop {arguments : Arguments} {outcome : Outcome}
      (hparse : Arguments.parse launch.words = .ok arguments) (htop : arguments.top = 0)
      (hidle : Idle launch before outcome) (hcode : outcome.exitCode = 1)
      (hstdout : outcome.world.stdout = before.stdout) :
      CommandEffect launch elapsed before outcome
  /-- The addresses are printed, one on a line. -/
  | listed {arguments : Arguments} {outcome : Outcome}
      (hparse : Arguments.parse launch.words = .ok arguments) (htop : 0 < arguments.top)
      (hlist : arguments.listUrls = true) (hidle : Idle launch before outcome)
      (hcode : outcome.exitCode = 0)
      (hstdout : outcome.world.stdout.written =
        before.stdout.written ++ (Sink.linesText UrlList.default).toUTF8) :
      CommandEffect launch elapsed before outcome
  /-- A run is made over pages that are all skipped. -/
  | ran {arguments : Arguments} {outcome : Outcome}
      (hparse : Arguments.parse launch.words = .ok arguments) (htop : 0 < arguments.top)
      (hlist : arguments.listUrls = false) (hcode : outcome.exitCode = 0)
      (hstdout : outcome.world.stdout.written =
        before.stdout.written ++ (Sink.linesText (bareReport elapsed)).toUTF8)
      (hfiles : before.files.Emptied ["allchars.txt", "allwords.txt"] outcome.world.files) :
      CommandEffect launch elapsed before outcome

/-- Whether two command lines ask for the same: both to list the addresses, or both for a run, and
both can be done. -/
def SameRequest (launch launch' : Launch) : Prop :=
  ∃ arguments arguments', Arguments.parse launch.words = .ok arguments ∧
    Arguments.parse launch'.words = .ok arguments' ∧ 0 < arguments.top ∧ 0 < arguments'.top ∧
    arguments.listUrls = arguments'.listUrls

/-- Whether two programs end alike: in the same way, with the same files, and with the same output
but for the time that they took. -/
structure EndAlike (elapsed elapsed' : Duration) (outcome outcome' : Outcome) : Prop where
  /-- They end in the same way. -/
  exitCode_eq : outcome.exitCode = outcome'.exitCode
  /-- They leave the same files. -/
  files_eq : outcome.world.files = outcome'.world.files
  /-- If they took the same time, they print the same. -/
  stdout_eq : elapsed = elapsed' → outcome.world.stdout = outcome'.world.stdout

/-- Whether nothing can be fetched. -/
def FetchesNothing (fetch : String → Except FetchError String) : Prop :=
  ∀ url, ∃ error, fetch url = .error error

/-! ## Tallies of nothing -/

section

variable {κ : Type} [Token κ]

theorem Tally.ranked_empty : (∅ : Tally κ).ranked = [] := by
  rw [← List.length_eq_zero_iff, length_ranked, Std.ExtTreeMap.size_empty]

theorem Tally.top_empty (n : Nat) : (∅ : Tally κ).top n = [] := by
  rw [top, ranked_empty, List.take_nil]

theorem CountFile.render_empty : render (∅ : Tally κ) = "" := by
  rw [render, Tally.ranked_empty]
  rfl

/-- Saving such a tally under a name in the working directory empties the file there. -/
theorem emptied_files_saveAction {name : String} (h : IsFileName name) (fs : FileSystem) :
    fs.Emptied [name] ((saveAction (joinPath "." name) (∅ : Tally κ)).files fs) := by
  rw [saveAction, Action.files, CountFile.render_empty]
  rcases FileSystem.emptied_of_save h fs with ⟨gs, hsave, hempty⟩ | ⟨fault, hsave, hempty⟩
  · rw [hsave]
    exact hempty
  · rw [hsave]
    exact hempty

end

/-! ## Runs for which nothing was fetched -/

section

variable {launch : Launch} {fetch : String → Except FetchError String} {elapsed : Duration}
  {world : World} {arguments : Arguments}

theorem texts_map_of_fetchesNothing (h : FetchesNothing fetch) (urls : List String) :
    texts (urls.map fun url => ⟨url, fetch url⟩) = [] := by
  refine List.filterMap_eq_nil_iff.2 fun page hpage => ?_
  obtain ⟨url, -, rfl⟩ := List.mem_map.1 hpage
  obtain ⟨error, herror⟩ := h url
  rw [herror]
  rfl

theorem pageTexts_eq_nil {pages : List Page} (h : texts pages = []) : pageTexts pages = [] := by
  rw [← List.length_eq_zero_iff, length_pageTexts, h, List.length_nil]

theorem longestOf_of_texts_eq_nil {pages : List Page} (h : texts pages = []) :
    longestOf pages = .initial := by
  rw [longestOf_eq_observeAll, pageTexts_eq_nil h]
  rfl

/-- **The report of a run for which nothing was fetched** does not depend on how many entries are
to be printed. -/
theorem textOf_transcript_of_texts_eq_nil (config : Config) {pages : List Page}
    (h : texts pages = []) (elapsed : Duration) :
    Segment.textOf (transcript config pages elapsed) = Sink.linesText (bareReport elapsed) := by
  rw [textOf_transcript, pageTexts_eq_nil h, closingLines, longestOf_of_texts_eq_nil h, h,
    Census.ofTexts_nil, Report.globalSummary, Census.empty, Tally.top_empty, Tally.top_empty]
  rfl

theorem isFileName_charsName : IsFileName CountFile.charsName := by
  constructor <;> decide

theorem isFileName_wordsName : IsFileName CountFile.wordsName := by
  constructor <;> decide

/-- **Such a run empties its two files.** -/
theorem emptied_files_filesScript (config : Config) (h : config.outputDirectory = ".")
    (fs : FileSystem) :
    fs.Emptied [CountFile.charsName, CountFile.wordsName]
      (Script.files fs (filesScript config .empty)) := by
  rw [filesScript, charsPath, wordsPath, h]
  exact (emptied_files_saveAction isFileName_charsName fs).append
    (emptied_files_saveAction isFileName_wordsName _)

/-! ## Every command line -/

/-- If there are no arguments there is no run. -/
theorem idle_of_halt {halt : Halt} (h : Arguments.parse launch.words = .error halt) :
    Idle launch world (execute launch fetch elapsed world) := by
  refine ⟨fun setting fetch' elapsed' => ?_, ?_, ?_, ?_⟩
  · rw [execute, execute, h]
  all_goals
    rw [execute, h]
    cases halt <;> rfl

/-- No entries at all are refused before anything is done. -/
theorem execute_of_top_eq_zero (h : Arguments.parse launch.words = .ok arguments)
    (htop : arguments.top = 0) :
    execute launch fetch elapsed world =
      ⟨1, "Error: --top must be greater than 0\n", [], world⟩ := by
  simp only [execute, h, executeArguments, Arguments.invalid?, if_pos htop]
  rfl

/-- The addresses are printed without a run. -/
theorem execute_of_listUrls (h : Arguments.parse launch.words = .ok arguments)
    (htop : 0 < arguments.top) (hlist : arguments.listUrls = true)
    (hroom : world.stdout.room = none) :
    execute launch fetch elapsed world = ⟨0, "", [],
      { world with stdout := { world.stdout with
          written := world.stdout.written ++ (Sink.linesText UrlList.default).toUTF8 } }⟩ := by
  simp only [execute, h, executeArguments, Arguments.invalid?, if_neg (Nat.ne_of_gt htop), hlist,
    if_true, printList, Sink.writeLines_of_room_none hroom]

/-- **A run for which nothing was fetched**, with output for everything. -/
theorem execute_of_fetchesNothing (h : Arguments.parse launch.words = .ok arguments)
    (htop : 0 < arguments.top) (hlist : arguments.listUrls = false)
    (hfetch : FetchesNothing fetch) (hroom : world.stdout.room = none) (elapsed : Duration) :
    ∃ shown pauses log, execute launch fetch elapsed world = ⟨0, "", shown,
      { stdout := { world.stdout with
          written := world.stdout.written ++ (Sink.linesText (bareReport elapsed)).toUTF8 }
        files := Script.files world.files (filesScript {} .empty)
        pauses, log }⟩ := by
  have htexts := texts_map_of_fetchesNothing hfetch UrlList.default
  have hcount : totalLength (texts (UrlList.default.map fun url => ⟨url, fetch url⟩)) <
      countLimit := by
    rw [htexts]
    decide
  simp only [execute, h, executeArguments, Arguments.invalid?, if_neg (Nat.ne_of_gt htop), hlist,
    Bool.false_eq_true, if_false, runPages, run_of_room_none hcount hroom,
    textOf_transcript_of_texts_eq_nil _ htexts, htexts, Census.ofTexts_nil]
  exact ⟨_, _, _, rfl⟩

/-- **A command line does what it should.** -/
theorem commandEffect_execute (hfetch : FetchesNothing fetch) (hroom : world.stdout.room = none)
    (launch : Launch) (elapsed : Duration) :
    CommandEffect launch elapsed world (execute launch fetch elapsed world) := by
  cases hparse : Arguments.parse launch.words with
  | error halt =>
    have hidle : Idle launch world (execute launch fetch elapsed world) := idle_of_halt hparse
    have hwrite : ∀ text, (world.stdout.write text).1.written =
        world.stdout.written ++ text.toUTF8 := fun text => by
      rw [Sink.write_eq, Sink.offered_of_room_none hroom]
    cases halt with
    | help =>
      exact .informed hparse (.inl rfl) hidle (by rw [execute, hparse]; rfl)
        (by rw [execute, hparse]; exact hwrite _)
    | version =>
      exact .informed hparse (.inr rfl) hidle (by rw [execute, hparse]; rfl)
        (by rw [execute, hparse]; exact hwrite _)
    | refused =>
      exact .refused hparse hidle (by rw [execute, hparse]; rfl) (by rw [execute, hparse])
  | ok arguments =>
    -- the number of entries is checked first, whatever else is asked for
    rcases Nat.eq_zero_or_pos arguments.top with htop | htop
    · rw [execute_of_top_eq_zero hparse htop]
      exact .zeroTop hparse htop
        ⟨fun _ _ _ => execute_of_top_eq_zero hparse htop, rfl, rfl, rfl⟩ rfl rfl
    cases hlist : arguments.listUrls with
    | true =>
      rw [execute_of_listUrls hparse htop hlist hroom]
      exact .listed hparse htop hlist
        ⟨fun _ _ _ => execute_of_listUrls hparse htop hlist hroom, rfl, rfl, rfl⟩ rfl rfl
    | false =>
      obtain ⟨shown, pauses, log, hrun⟩ :=
        execute_of_fetchesNothing hparse htop hlist hfetch hroom elapsed
      rw [hrun]
      exact .ran hparse htop hlist rfl rfl (emptied_files_filesScript {} rfl world.files)

/-- **Command lines that ask for the same end alike.** -/
theorem endAlike_execute {launch' : Launch} {fetch' : String → Except FetchError String}
    (h : SameRequest launch launch') (hfetch : FetchesNothing fetch)
    (hfetch' : FetchesNothing fetch') (hroom : world.stdout.room = none)
    (elapsed elapsed' : Duration) :
    EndAlike elapsed elapsed' (execute launch fetch elapsed world)
      (execute launch' fetch' elapsed' world) := by
  obtain ⟨arguments, arguments', hparse, hparse', htop, htop', hlists⟩ := h
  cases hlist : arguments.listUrls with
  | true =>
    have hlist' : arguments'.listUrls = true := hlists ▸ hlist
    rw [execute_of_listUrls hparse htop hlist hroom,
      execute_of_listUrls hparse' htop' hlist' hroom]
    exact ⟨rfl, rfl, fun _ => rfl⟩
  | false =>
    have hlist' : arguments'.listUrls = false := hlists ▸ hlist
    obtain ⟨_, _, _, hrun⟩ := execute_of_fetchesNothing hparse htop hlist hfetch hroom elapsed
    obtain ⟨_, _, _, hrun'⟩ :=
      execute_of_fetchesNothing hparse' htop' hlist' hfetch' hroom elapsed'
    rw [hrun, hrun']
    exact ⟨rfl, rfl, fun helapsed => by rw [helapsed]⟩

/-- **Every command line does what it should** if no page can be fetched and the output takes
everything, and those that ask for the same do the same, whatever else they say. -/
theorem execute_effect (hfetch : FetchesNothing fetch) (hroom : world.stdout.room = none)
    (launch : Launch) (elapsed : Duration) :
    CommandEffect launch elapsed world (execute launch fetch elapsed world) ∧
      ∀ launch' fetch' elapsed', SameRequest launch launch' → FetchesNothing fetch' →
        EndAlike elapsed elapsed' (execute launch fetch elapsed world)
          (execute launch' fetch' elapsed' world) :=
  ⟨commandEffect_execute hfetch hroom launch elapsed, fun _ _ elapsed' hrequest hfetch' =>
    endAlike_execute hrequest hfetch hfetch' hroom elapsed elapsed'⟩

/-- One of two command lines has all the options of a run and a setting for the log. -/
theorem execute_effect_of_options :
    let fetch : String → Except FetchError String :=
      fun url => .error (.invalidUrl url .relativeWithoutBase)
    let launch : Launch := ⟨some "pagefreq", ["-vt3", "--delay-ms", "0"], some "debug"⟩
    let launch' : Launch := ⟨none, [], none⟩
    let world := World.start .unlimited .fresh
    FetchesNothing fetch ∧ world.stdout.room = none ∧
      CommandEffect launch ⟨0, 0⟩ world (execute launch fetch ⟨0, 0⟩ world) ∧
      SameRequest launch launch' ∧
      EndAlike ⟨0, 0⟩ ⟨1, 0⟩ (execute launch fetch ⟨0, 0⟩ world)
        (execute launch' fetch ⟨1, 0⟩ world) := by
  intro fetch launch launch' world
  have hfetch : FetchesNothing fetch := fun url => ⟨_, rfl⟩
  have hroom : world.stdout.room = none := rfl
  have hrequest : SameRequest launch launch' :=
    ⟨⟨3, 0, true, false⟩, {}, rfl, rfl, by decide, by decide, rfl⟩
  obtain ⟨heffect, halike⟩ := execute_effect hfetch hroom launch ⟨0, 0⟩
  exact ⟨hfetch, hroom, heffect, hrequest, halike launch' fetch ⟨1, 0⟩ hrequest hfetch⟩

end

end PageCensus
