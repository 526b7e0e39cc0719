import PageCensus.Proofs.Run.Segment

/-!
# How far a run gets

Between the part of its report that comes before the files and the part that comes behind them, a
run saves its two files.  Whether it gets there is a matter of the first part alone: if that has
room, the files are saved, even if what comes behind them has not.

* `files_reached_runScript`, `files_runScript` — what a run makes of the files, however far it gets
  and if it gets to its end.
* `stop?_runScript_of_fits`, `stop?_runScript_of_not_fits` — a run that gets to the files is stopped
  at its very last print or not at all, and a run that does not is stopped at another print.
* `saved_runScript` — only the two files are ever saved.
* `of_run_eq_ok` — what is known of a run that ended well.
-/

set_option autoImplicit false

namespace PageCensus

/-! ## Scripts that save nothing -/

namespace Action

theorem files_of_not_saves {action : Action} (h : action.saves = false) (fs : FileSystem) :
    action.files fs = fs := by
  cases action with
  | save => cases h
  | print => rfl
  | report => rfl
  | wait => rfl

theorem saved_of_not_saves {action : Action} (h : action.saves = false) (fs : FileSystem) :
    action.saved fs = [] := by
  cases action with
  | save => cases h
  | print => rfl
  | report => rfl
  | wait => rfl

end Action

namespace Script

theorem files_of_not_saves {script : List Action} (h : ∀ action ∈ script, action.saves = false)
    (fs : FileSystem) : files fs script = fs := by
  induction script with
  | nil => rfl
  | cons action rest ih =>
    obtain ⟨hfirst, hrest⟩ := List.forall_mem_cons.1 h
    rw [files, Action.files_of_not_saves hfirst, ih hrest]

theorem saved_of_not_saves {script : List Action} (h : ∀ action ∈ script, action.saves = false)
    (fs : FileSystem) : saved fs script = [] := by
  induction script with
  | nil => rfl
  | cons action rest ih =>
    obtain ⟨hfirst, hrest⟩ := List.forall_mem_cons.1 h
    rw [saved, Action.saved_of_not_saves hfirst, Action.files_of_not_saves hfirst, ih hrest,
      List.nil_append]

/-- A script in two parts is stopped in the first if that does not fit. -/
theorem stop?_append (room : Option Nat) (a b : List Action) :
    stop? room (a ++ b) =
      if Sink.fits room (size a) then stop? (Sink.roomLeft room (size a)) b else stop? room a := by
  induction a generalizing room with
  | nil => rw [List.nil_append, size_nil, Sink.fits_zero, if_pos rfl, Sink.roomLeft_zero]
  | cons action rest ih =>
    rw [List.cons_append, stop?, stop?, size_cons, Sink.fits_add]
    cases h : Sink.fits room action.size with
    | true => rw [if_pos rfl, if_pos rfl, ih, Bool.true_and, Sink.roomLeft_add]
    | false => rw [if_neg Bool.false_ne_true, if_neg Bool.false_ne_true, Bool.false_and,
        if_neg Bool.false_ne_true]

end Script

/-! ## The files of a run -/

variable {config : Config}

theorem saves_of_mem_reportScript {pages : List Page} {action : Action}
    (h : action ∈ reportScript config pages) : action.saves = false := by
  rw [reportScript, List.mem_cons, List.mem_append] at h
  rcases h with rfl | h | h
  · rfl
  · exact saves_of_mem_visitsScript h
  · rw [summaryScript] at h
    simp only [List.mem_cons, List.not_mem_nil, or_false] at h
    rcases h with rfl | rfl <;> rfl

theorem saves_of_mem_endScript {pages : List Page} {elapsed : Duration} {action : Action}
    (h : action ∈ endScript pages elapsed) : action.saves = false := by
  rw [endScript] at h
  simp only [List.mem_cons, List.not_mem_nil, or_false] at h
  rcases h with rfl | rfl <;> rfl

theorem size_reportScript (pages : List Page) :
    Script.size (reportScript config pages) = Segment.totalSize (frontSegments config pages) := by
  rw [Script.size_eq_totalSize, segments_reportScript]

/-- **The files are saved if the report in front of that place fits**, and left alone otherwise. -/
theorem files_reached_runScript (fs : FileSystem) (room : Option Nat) (pages : List Page)
    (elapsed : Duration) :
    Script.files fs (Script.reached room (runScript config pages elapsed)) =
      if Sink.fits room (Segment.totalSize (frontSegments config pages)) then
        Script.files fs (filesScript config (Census.ofTexts (texts pages)))
      else fs := by
  rw [runScript, Script.reached_append, size_reportScript]
  split
  · -- saving prints nothing, so there is room for it
    have hfiles : Script.size (filesScript config (Census.ofTexts (texts pages))) = 0 := rfl
    rw [Script.files_append, Script.files_of_not_saves fun _ => saves_of_mem_reportScript,
      Script.reached_append, hfiles, Sink.fits_zero, if_pos rfl, Script.files_append,
      Script.files_of_not_saves fun action haction =>
        saves_of_mem_endScript ((Script.reached_isPrefix _ _).subset haction)]
  · exact Script.files_of_not_saves (fun action haction =>
      saves_of_mem_reportScript ((Script.reached_isPrefix _ _).subset haction)) fs

/-- With room for the whole report the files are saved. -/
theorem files_runScript (fs : FileSystem) (pages : List Page) (elapsed : Duration) :
    Script.files fs (runScript config pages elapsed) =
      Script.files fs (filesScript config (Census.ofTexts (texts pages))) := by
  have hfiles : Script.files fs (Script.reached none (runScript config pages elapsed)) = _ :=
    files_reached_runScript fs none pages elapsed
  rwa [Script.reached_eq_self (Sink.fits_none _), Sink.fits_none, if_pos rfl] at hfiles

/-- Nothing else is saved. -/
theorem saved_runScript (fs : FileSystem) (pages : List Page) (elapsed : Duration) :
    Script.saved fs (runScript config pages elapsed) =
      Script.saved fs (filesScript config (Census.ofTexts (texts pages))) := by
  rw [runScript, Script.saved_append, Script.saved_append,
    Script.saved_of_not_saves fun _ => saves_of_mem_reportScript,
    Script.saved_of_not_saves fun _ => saves_of_mem_endScript,
    Script.files_of_not_saves fun _ => saves_of_mem_reportScript, List.nil_append, List.append_nil]

/-- **What a run that ends well leaves behind**: its summary and its files. -/
theorem of_run_eq_ok {pages : List Page} {elapsed : Duration} {summary : Summary}
    {world world' : World} (h : run config pages elapsed world = .ok summary world') :
    summary = ⟨foundBy pages,
        Script.saved world.files (filesScript config (Census.ofTexts (texts pages))), elapsed⟩ ∧
      world'.files =
        Script.files world.files (filesScript config (Census.ofTexts (texts pages))) := by
  have hending : (run config pages elapsed).ending world = _ :=
    ending_run (mergeAll?_of_run h) elapsed world
  rw [RunStep.ending, h] at hending
  obtain ⟨houtcome, hworld⟩ := Ending.mk.inj hending
  cases hstop : Script.stop? world.stdout.room (runScript config pages elapsed) with
  | some stage => rw [hstop] at houtcome; cases houtcome
  | none =>
    have hfits := Script.fits_of_stop?_eq_none hstop
    rw [hstop, saved_runScript] at houtcome
    rw [hworld, World.afterAll, Script.reached_eq_self hfits]
    exact ⟨Except.ok.inj houtcome, files_runScript world.files pages elapsed⟩

/-! ## Where a run is stopped -/

theorem stage_of_mem_frontSegments {pages : List Page} {segment : Segment}
    (h : segment ∈ frontSegments config pages) : segment.stage ≠ .elapsed := by
  rw [frontSegments, List.mem_append, List.mem_flatMap] at h
  rcases h with ⟨page, -, h⟩ | h
  · rw [pageSegments] at h
    split at h
    · simp only [List.mem_cons, List.not_mem_nil, or_false] at h
      rcases h with rfl | rfl <;> simp [Segment.ofLines]
    · exact absurd h List.not_mem_nil
  · simp only [List.mem_cons, List.not_mem_nil, or_false] at h
    rcases h with rfl | rfl <;> simp [Segment.ofLines]

/-- A run that gets to the files can only be stopped where it prints how long it took. -/
theorem stop?_runScript_of_fits {room : Option Nat} {pages : List Page}
    (h : Sink.fits room (Segment.totalSize (frontSegments config pages)) = true)
    (elapsed : Duration) :
    Script.stop? room (runScript config pages elapsed) = none ∨
      Script.stop? room (runScript config pages elapsed) = some .elapsed := by
  rw [runScript, Script.stop?_append, size_reportScript, if_pos h]
  generalize Sink.roomLeft room _ = left
  cases hstop : Script.stop? left (filesScript config (Census.ofTexts (texts pages)) ++
      endScript pages elapsed) with
  | none => exact Or.inl rfl
  | some stage =>
    obtain ⟨before, segment, after, hsplit, hstage, -, -⟩ := Script.exists_of_stop?_eq_some hstop
    have hlast : [Segment.ofLines .elapsed (Report.elapsed elapsed)] = before ++ segment :: after :=
      hsplit
    have hmem : segment ∈ [Segment.ofLines .elapsed (Report.elapsed elapsed)] :=
      hlast ▸ List.mem_append_right before List.mem_cons_self
    rw [← hstage, List.mem_singleton.1 hmem]
    exact Or.inr rfl

/-- A run that does not get to the files is stopped before. -/
theorem stop?_runScript_of_not_fits {room : Option Nat} {pages : List Page}
    (h : Sink.fits room (Segment.totalSize (frontSegments config pages)) = false)
    (elapsed : Duration) :
    ∃ stage, stage ≠ .elapsed ∧
      Script.stop? room (runScript config pages elapsed) = some stage := by
  rw [runScript, Script.stop?_append, size_reportScript, if_neg (Bool.eq_false_iff.1 h)]
  cases hstop : Script.stop? room (reportScript config pages) with
  | none =>
    have hfits := Script.fits_of_stop?_eq_none hstop
    rw [size_reportScript, h] at hfits
    cases hfits
  | some stage =>
    obtain ⟨before, segment, after, hsplit, rfl, -, -⟩ := Script.exists_of_stop?_eq_some hstop
    rw [segments_reportScript] at hsplit
    have hmem : segment ∈ frontSegments config pages :=
      hsplit ▸ List.mem_append_right before List.mem_cons_self
    exact ⟨segment.stage, stage_of_mem_frontSegments hmem, rfl⟩

end PageCensus
