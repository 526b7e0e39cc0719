import PageCensus.Proofs.Run.Reach

/-!
# Runs with bounded output

A run whose output takes only so many bytes is compared with the same run with room for everything.
The report of the second is its transcript, and wherever the room ends in it, everything the first
run leaves behind is decided by that position: the bytes printed, the outcome, the pauses, the
log and the files (`CutOff`).

* `run_cutOff` — the comparison, for any room.

Since every segment ends with a line feed, none is empty, and a segment that ends exactly where the
room ends is still printed; what follows it up to the next print is performed as well.
-/

set_option autoImplicit false

namespace PageCensus

open RunStep

/-- How many of the fetched pages have their summary within the first `room` bytes of the
report.  The summary of a page ends where the segments of the fetched pages up to it end. -/
def summarisedWithin (config : Config) (room : Nat) (pages : List Page) : Nat :=
  (List.range (fetchedPages pages).length).countP fun i =>
    Segment.totalSize (((fetchedPages pages).take (i + 1)).flatMap (pageSegments config)) ≤ room

/-- **What room for only so many bytes makes of a run.**  `whole` is how the run ends with room for
everything, and `cut` how it ends with `room` bytes, after which the output reports `fault`. -/
structure CutOff (config : Config) (pages : List Page) (elapsed : Duration) (files : FileSystem)
    (room : Nat) (fault : WriteFault) (whole cut : Ending Summary) : Prop where
  /-- With room for everything the run ends well. -/
  whole_ok : ∃ summary, whole.outcome = .ok summary
  /-- With room for everything the transcript is printed. -/
  whole_written : whole.world.stdout.written =
    (Segment.textOf (transcript config pages elapsed)).toUTF8
  /-- The bytes taken are those of the transcript up to the room. -/
  written : cut.world.stdout.written =
    (Segment.textOf (transcript config pages elapsed)).toUTF8.extract 0
      (min room (Segment.totalSize (transcript config pages elapsed)))
  /-- The run ends well exactly if there is room for the whole transcript. -/
  ok_iff : (∃ summary, cut.outcome = .ok summary) ↔
    Segment.totalSize (transcript config pages elapsed) ≤ room
  /-- If it does, nothing about its summary shows that there was a bound. -/
  outcome_eq : Segment.totalSize (transcript config pages elapsed) ≤ room →
    cut.outcome = whole.outcome
  /-- Otherwise it ends with the part of the report that the byte at position `room` belongs to. -/
  outcome_error : room < Segment.totalSize (transcript config pages elapsed) →
    ∃ before segment after, transcript config pages elapsed = before ++ segment :: after ∧
      Segment.totalSize before ≤ room ∧ room < Segment.totalSize before + segment.size ∧
      cut.outcome = .error (.output segment.stage fault)
  /-- There is a pause for each fetched page whose summary ends within the room. -/
  pauses : cut.world.pauses = List.replicate (summarisedWithin config room pages) config.delay
  /-- The log stops early. -/
  log : cut.world.log <+: whole.world.log
  /-- The files are saved if all of the report in front of that place has room; otherwise they are
  left alone. -/
  files : cut.world.files =
    if Segment.totalSize (frontSegments config pages) ≤ room then whole.world.files else files

/-! ## What a script does before it stops -/

namespace Script

theorem pauses_eq_nil {script : List Action} (h : ∀ action ∈ script, action.pauses = []) :
    pauses script = [] := by
  rw [pauses, List.flatMap_eq_nil_iff]
  exact h

/-- Actions without pauses at the end of a script do not matter to its pauses. -/
theorem pauses_reached_append {b : List Action} (h : ∀ action ∈ b, action.pauses = [])
    (room : Option Nat) (a : List Action) :
    pauses (reached room (a ++ b)) = pauses (reached room a) := by
  rw [reached_append]
  split
  · next hfits =>
    rw [pauses_append, reached_eq_self hfits,
      pauses_eq_nil fun action haction => h action ((reached_isPrefix _ _).subset haction),
      List.append_nil]
  · rfl

/-- The log of the part that is reached is the front of the log of the whole script. -/
theorem events_reached_isPrefix (fs : FileSystem) (room : Option Nat) (script : List Action) :
    events fs (reached room script) <+: events fs script := by
  obtain ⟨rest, hrest⟩ := reached_isPrefix room script
  rw [← hrest, events_append, hrest]
  exact List.prefix_append _ _

end Script

/-! ## The pauses of a run -/

variable {config : Config}

/-- A page whose summary does not fit keeps all later ones from being summarised. -/
theorem summarisedWithin_cons {page : Page} {body : String} (h : page.result = .ok body)
    (room : Nat) (rest : List Page) :
    summarisedWithin config room (page :: rest) =
      if Segment.totalSize (pageSegments config page) ≤ room then
        summarisedWithin config (room - Segment.totalSize (pageSegments config page)) rest + 1
      else 0 := by
  have hshift : ∀ i, Segment.totalSize
      (((page :: fetchedPages rest).take (i + 1)).flatMap (pageSegments config)) =
        Segment.totalSize (pageSegments config page) + Segment.totalSize
          (((fetchedPages rest).take i).flatMap (pageSegments config)) := by
    intro i
    rw [List.take_succ_cons, List.flatMap_cons, Segment.totalSize_append]
  rw [summarisedWithin, summarisedWithin, fetchedPages_cons_of_ok h, List.length_cons]
  simp only [hshift]
  split
  · next hfits =>
    rw [List.range_succ_eq_map, List.countP_cons, List.countP_map]
    have hhead : Segment.totalSize (pageSegments config page) + Segment.totalSize
        (((fetchedPages rest).take 0).flatMap (pageSegments config)) ≤ room := hfits
    rw [if_pos (decide_eq_true hhead)]
    refine congrArg (· + 1) (List.countP_congr fun i _ => ?_)
    simp only [Function.comp_apply, decide_eq_true_eq, Nat.succ_eq_add_one]
    omega
  · next hfits =>
    refine List.countP_eq_zero.2 fun i _ hi => hfits ?_
    have hle := of_decide_eq_true hi
    omega

/-- The pause of a page is made exactly if its segments fit. -/
theorem pauses_reached_pageScript {room : Option Nat} {longest : LongestPage} {page : Page}
    {body : String} (h : page.result = .ok body) :
    Script.pauses (Script.reached room (visitScript config longest page)) =
      if Sink.fits room (Segment.totalSize (pageSegments config page)) then [config.delay]
      else [] := by
  -- the script of the page without the pause at its end, which prints nothing
  obtain ⟨front, hscript, hpauses⟩ : ∃ front,
      visitScript config longest page = front ++ [.wait config.delay] ∧
        ∀ action ∈ front, action.pauses = [] := by
    rw [visitScript_of_ok h]
    refine ⟨_, (List.append_assoc _ _ _).symm, fun action haction => ?_⟩
    simp only [List.mem_append, List.mem_cons, List.not_mem_nil, or_false] at haction
    rcases haction with (rfl | rfl | rfl) | hlength
    · rfl
    · rfl
    · rfl
    · obtain ⟨_, rfl⟩ := exists_of_mem_lengthScript hlength
      rfl
  have hfront : Script.size front = Segment.totalSize (pageSegments config page) := by
    rw [← size_visitScript longest, hscript, Script.size_append]
    rfl
  rw [hscript, Script.reached_append, hfront]
  split
  · rw [Script.pauses_append, Script.pauses_eq_nil hpauses, List.nil_append,
      Script.reached_of_fits (Sink.fits_zero _)]
    rfl
  · exact Script.pauses_eq_nil fun action haction =>
      hpauses action ((Script.reached_isPrefix room front).subset haction)

/-- **There is a pause for each page whose summary fits.** -/
theorem pauses_reached_visitsScript (room : Nat) (longest : LongestPage) (pages : List Page) :
    Script.pauses (Script.reached (some room) (visitsScript config longest pages)) =
      List.replicate (summarisedWithin config room pages) config.delay := by
  induction pages generalizing room longest with
  | nil => rfl
  | cons page rest ih =>
    cases hpage : page.result with
    | error error =>
      rw [visitsScript, visitScript_of_error hpage, List.singleton_append,
        Script.reached_of_fits (Sink.fits_zero _), Script.pauses_cons, summarisedWithin,
        fetchedPages_cons_of_error hpage]
      exact ih room _
    | ok body =>
      rw [summarisedWithin_cons hpage, visitsScript, Script.reached_append, size_visitScript]
      have hpause : Script.pauses (Script.reached (some room) (visitScript config longest page)) =
          _ := pauses_reached_pageScript hpage
      by_cases hfits : Segment.totalSize (pageSegments config page) ≤ room
      · have hfits' := Sink.fits_some.2 hfits
        rw [if_pos hfits', Script.reached_eq_self (by rwa [size_visitScript])] at hpause
        rw [if_pos hfits', if_pos hfits, Script.pauses_append, hpause]
        show config.delay :: Script.pauses (Script.reached (some _) _) = _
        rw [ih, List.replicate_succ]
      · have hfits' :
            ¬ Sink.fits (some room) (Segment.totalSize (pageSegments config page)) = true :=
          fun h => hfits (Sink.fits_some.1 h)
        rw [if_neg hfits'] at hpause
        rw [if_neg hfits', if_neg hfits, hpause, List.replicate_zero]

/-! ## The comparison -/

theorem pauses_of_mem_summaryScript {longest : LongestPage} {census : Census} {action : Action}
    (h : action ∈ summaryScript config longest census) : action.pauses = [] := by
  rw [summaryScript] at h
  simp only [List.mem_cons, List.not_mem_nil, or_false] at h
  rcases h with rfl | rfl <;> rfl

theorem pauses_of_mem_lastScript {census : Census} {pages : List Page} {elapsed : Duration}
    {action : Action} (h : action ∈ filesScript config census ++ endScript pages elapsed) :
    action.pauses = [] := by
  rw [filesScript, endScript] at h
  simp only [List.cons_append, List.nil_append, List.mem_cons, List.not_mem_nil, or_false] at h
  rcases h with rfl | rfl | rfl | rfl <;> rfl

/-- The pauses of a run are those of its visits. -/
theorem pauses_reached_runScript (room : Nat) (pages : List Page) (elapsed : Duration) :
    Script.pauses (Script.reached (some room) (runScript config pages elapsed)) =
      List.replicate (summarisedWithin config room pages) config.delay := by
  rw [runScript, Script.pauses_reached_append fun _ => pauses_of_mem_lastScript, reportScript,
    Script.reached_of_fits (Sink.fits_zero _), Script.pauses_cons,
    Script.pauses_reached_append fun _ => pauses_of_mem_summaryScript]
  exact pauses_reached_visitsScript room .initial pages

/-- Up to the room or up to the end of a text is the same as up to the nearer of both. -/
theorem extract_min_utf8ByteSize (text : String) (room : Nat) :
    text.toUTF8.extract 0 (min room text.utf8ByteSize) = text.toUTF8.extract 0 room := by
  rcases Nat.le_total room text.utf8ByteSize with h | h
  · rw [Nat.min_eq_left h]
  · rw [Nat.min_eq_right h, Sink.extract_toUTF8_of_le (Nat.le_refl _),
      Sink.extract_toUTF8_of_le h]

/-- A run is not stopped exactly if there is room for its transcript. -/
theorem stop?_runScript_eq_none_iff {room : Nat} {pages : List Page} {elapsed : Duration} :
    Script.stop? (some room) (runScript config pages elapsed) = none ↔
      Segment.totalSize (transcript config pages elapsed) ≤ room := by
  rw [← size_runScript, ← Sink.fits_some]
  exact ⟨Script.fits_of_stop?_eq_none, Script.stop?_of_fits⟩

/-- Otherwise it is stopped at the segment that the first byte without room belongs to. -/
theorem exists_stop?_runScript {room : Nat} {pages : List Page} {elapsed : Duration}
    (h : room < Segment.totalSize (transcript config pages elapsed)) :
    ∃ before segment after, transcript config pages elapsed = before ++ segment :: after ∧
      Segment.totalSize before ≤ room ∧ room < Segment.totalSize before + segment.size ∧
      Script.stop? (some room) (runScript config pages elapsed) = some segment.stage := by
  cases hstop : Script.stop? (some room) (runScript config pages elapsed) with
  | none => exact absurd h (Nat.not_lt.2 (stop?_runScript_eq_none_iff.1 hstop))
  | some stage =>
    obtain ⟨before, segment, after, hsplit, rfl, hbefore, hover⟩ :=
      Script.exists_of_stop?_eq_some hstop
    rw [segments_runScript] at hsplit
    refine ⟨before, segment, after, hsplit, Sink.fits_some.1 hbefore, ?_, rfl⟩
    exact Nat.lt_of_not_le fun hle => Bool.false_ne_true (hover.symm.trans (Sink.fits_some.2 hle))

/-- **A run with bounded output.**  As long as the counts fit, for which it is enough that the texts
have fewer characters than a count can hold, the position at which the room ends decides how the
run ends. -/
theorem run_cutOff {pages : List Page} (h : totalLength (texts pages) < countLimit)
    (elapsed : Duration) (files : FileSystem) (room : Nat) (fault : WriteFault) :
    CutOff config pages elapsed files room fault
      ((run config pages elapsed).ending (.start .unlimited files))
      ((run config pages elapsed).ending (.start (.limited room fault) files)) := by
  have hmerge := mergeAll?_texts h
  have hwhole : (World.start .unlimited files).stdout.room = none := rfl
  have hcut : (World.start (.limited room fault) files).stdout.room = some room := rfl
  have hnone : Script.stop? none (runScript config pages elapsed) = none := Script.stop?_of_fits rfl
  rw [ending_run hmerge, ending_run hmerge, hwhole, hcut, hnone]
  constructor
  case whole_ok => exact ⟨_, rfl⟩
  case whole_written =>
    show ByteArray.empty ++ (Script.text _).toUTF8.extract 0 _ = _
    rw [text_runScript, ByteArray.empty_append]
    exact Sink.extract_toUTF8_of_le (Nat.le_refl _)
  case written =>
    show ByteArray.empty ++ (Script.text _).toUTF8.extract 0 room = _
    rw [text_runScript, ByteArray.empty_append, Segment.totalSize, extract_min_utf8ByteSize]
  case ok_iff =>
    cases hstop : Script.stop? (some room) (runScript config pages elapsed) with
    | none => exact ⟨fun _ => stop?_runScript_eq_none_iff.1 hstop, fun _ => ⟨_, rfl⟩⟩
    | some stage =>
      constructor
      · rintro ⟨summary, hsummary⟩
        cases hsummary
      · intro hle
        rw [stop?_runScript_eq_none_iff.2 hle] at hstop
        cases hstop
  case outcome_eq =>
    intro hle
    rw [stop?_runScript_eq_none_iff.2 hle]
    rfl
  case outcome_error =>
    intro hlt
    obtain ⟨before, segment, after, hsplit, hbefore, hover, hstop⟩ := exists_stop?_runScript hlt
    refine ⟨before, segment, after, hsplit, hbefore, hover, ?_⟩
    rw [hstop]
    rfl
  case pauses =>
    show [] ++ Script.pauses (Script.reached (some room) _) = _
    rw [List.nil_append, pauses_reached_runScript]
  case log =>
    show [] ++ Script.events files (Script.reached (some room) _) <+:
      [] ++ Script.events files (Script.reached none _)
    rw [List.nil_append, List.nil_append, Script.reached_eq_self (Sink.fits_none _)]
    exact Script.events_reached_isPrefix files (some room) _
  case files =>
    show Script.files files (Script.reached (some room) _) =
      if _ then Script.files files (Script.reached none _) else files
    rw [files_reached_runScript, files_reached_runScript, Sink.fits_none, if_pos rfl]
    simp only [Sink.fits_some]

/-- Two pages with a skipped one between them, and room that ends within the summary of the
second. -/
theorem run_cutOff_of_skipped_between :
    let pages : List Page := [⟨"http://a/", .ok "to be or"⟩,
      ⟨"b", .error (.invalidUrl "b" .relativeWithoutBase)⟩, ⟨"http://c/", .ok "not to be"⟩]
    totalLength (texts pages) < countLimit ∧
      CutOff {} pages ⟨1, 5⟩ .fresh 200 .pipeClosed
        ((run {} pages ⟨1, 5⟩).ending (.start .unlimited .fresh))
        ((run {} pages ⟨1, 5⟩).ending (.start (.limited 200 .pipeClosed) .fresh)) := by
  intro pages
  have h : totalLength (texts pages) < countLimit := by decide
  exact ⟨h, run_cutOff h ⟨1, 5⟩ .fresh 200 .pipeClosed⟩

end PageCensus
