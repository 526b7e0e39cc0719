import PageCensus.Proofs.FileSystem.Save
import PageCensus.Proofs.Run.RunScript

/-!
# The two files of a run

What saving the tallies of a run makes of a file system.  The two files are always at two places,
because the names are different in which their paths end, so neither gets in the way of the other.

* `node?_files_saveAction`, `sameDirectories_files_saveAction` — a tally is saved at one place, and
  no directory is touched.
* `opensAt_charsPath_ne` — the two files are at two places.
* `saved_filesScript` — without devices, those files are written that can be opened.
* `save_eq_ok_of_saved` — if both were written, both could be saved.
-/

set_option autoImplicit false

namespace PageCensus

section

variable {κ : Type} [Token κ] {fs : FileSystem}

/-! ## One file -/

theorem files_saveAction (h : fs.Plain) (path : String) (tally : Tally κ) :
    (saveAction path tally).files fs =
      match fs.opensAt path with
      | some place => fs.put place (CountFile.render tally)
      | none => fs := by
  rw [saveAction, Action.files, FileSystem.save_of_plain h, FileSystem.opensAt]
  cases fs.locate path with
  | error fault => rfl
  | ok place => rfl

theorem saved_saveAction (h : fs.Plain) (path : String) (tally : Tally κ) :
    (saveAction path tally).saved fs = [path].filter fun path => (fs.opensAt path).isSome := by
  rw [saveAction, Action.saved, FileSystem.save_of_plain h]
  simp only [List.filter_cons, List.filter_nil, FileSystem.opensAt]
  cases fs.locate path with
  | error fault => rfl
  | ok place => rfl

/-- Only the place that the path opens changes. -/
theorem node?_files_saveAction (h : fs.Plain) (path : String) (tally : Tally κ) (place : Place) :
    ((saveAction path tally).files fs).node? place =
      if fs.opensAt path = some place then some (.file (CountFile.render tally))
      else fs.node? place := by
  rw [files_saveAction h]
  cases hopen : fs.opensAt path with
  | none => rw [if_neg (by simp)]
  | some found =>
    obtain ⟨-, hnode⟩ := FileSystem.of_opensAt_eq_some hopen
    simp only [FileSystem.node?_put (FileSystem.ne_nil_of_node?_ne_directory hnode),
      Option.some_inj]

theorem plain_files_saveAction (h : fs.Plain) (path : String) (tally : Tally κ) :
    ((saveAction path tally).files fs).Plain := by
  rw [files_saveAction h]
  cases hopen : fs.opensAt path with
  | none => exact h
  | some place =>
    obtain ⟨-, hnode⟩ := FileSystem.of_opensAt_eq_some hopen
    exact h.put (FileSystem.ne_nil_of_node?_ne_directory hnode) _

theorem sameDirectories_files_saveAction (h : fs.Plain) (path : String) (tally : Tally κ) :
    FileSystem.SameDirectories fs ((saveAction path tally).files fs) := by
  rw [files_saveAction h]
  cases hopen : fs.opensAt path with
  | none => exact .refl fs
  | some place => exact FileSystem.sameDirectories_put (FileSystem.of_opensAt_eq_some hopen).2 _

theorem length_saved_saveAction_le (fs : FileSystem) (path : String) (tally : Tally κ) :
    ((saveAction path tally).saved fs).length ≤ 1 := by
  rw [saveAction, Action.saved]
  split
  · exact Nat.le_refl 1
  · exact Nat.zero_le 1

/-- A tally could be saved if its path is told. -/
theorem save_eq_ok_of_saved_ne_nil {path : String} {tally : Tally κ}
    (h : (saveAction path tally).saved fs ≠ []) :
    fs.save path (CountFile.render tally) = .ok ((saveAction path tally).files fs) := by
  rw [saveAction, Action.saved] at h
  rw [saveAction, Action.files]
  cases hsave : fs.save path (CountFile.render tally) with
  | ok gs => rfl
  | error fault =>
    rw [hsave] at h
    exact absurd rfl h

end

/-! ## Both files -/

variable {config : Config} {census : Census} {fs : FileSystem}

/-- The two files of a run are at two places. -/
theorem opensAt_charsPath_ne {place : Place}
    (h : fs.opensAt (charsPath config) = some place) :
    fs.opensAt (wordsPath config) ≠ some place := by
  intro h'
  have hchars := FileSystem.getLast?_of_opensAt_joinPath (by decide) (by decide) h
  have hwords := FileSystem.getLast?_of_opensAt_joinPath (by decide) (by decide) h'
  rw [hchars] at hwords
  exact absurd (Option.some_inj.1 hwords) (by decide)

/-- Without devices, those files are written that can be opened. -/
theorem saved_filesScript (h : fs.Plain) (config : Config) (census : Census) :
    Script.saved fs (filesScript config census) =
      [charsPath config, wordsPath config].filter fun path => (fs.opensAt path).isSome := by
  have hopens := FileSystem.opensAt_congr
    (sameDirectories_files_saveAction h (charsPath config) census.chars)
  show (saveAction _ _).saved fs ++ ((saveAction _ _).saved ((saveAction _ _).files fs) ++ []) = _
  rw [saved_saveAction h, saved_saveAction (plain_files_saveAction h _ _), List.append_nil]
  simp only [← hopens]
  exact (List.filter_append [charsPath config] [wordsPath config]).symm

/-- If both files were written, both could be saved. -/
theorem save_eq_ok_of_saved
    (h : Script.saved fs (filesScript config census) = [charsPath config, wordsPath config]) :
    fs.save (charsPath config) (CountFile.render census.chars) =
        .ok ((saveAction (charsPath config) census.chars).files fs) ∧
      ((saveAction (charsPath config) census.chars).files fs).save (wordsPath config)
          (CountFile.render census.words) =
        .ok (Script.files fs (filesScript config census)) := by
  have hlength : ((saveAction (charsPath config) census.chars).saved fs ++
      ((saveAction (wordsPath config) census.words).saved
        ((saveAction (charsPath config) census.chars).files fs) ++ [])).length = 2 :=
    congrArg List.length h
  rw [List.append_nil, List.length_append] at hlength
  have hchars := length_saved_saveAction_le fs (charsPath config) census.chars
  have hwords := length_saved_saveAction_le
    ((saveAction (charsPath config) census.chars).files fs) (wordsPath config) census.words
  constructor
  · refine save_eq_ok_of_saved_ne_nil fun hnil => ?_
    rw [hnil, List.length_nil] at hlength
    omega
  · refine save_eq_ok_of_saved_ne_nil fun hnil => ?_
    rw [hnil, List.length_nil] at hlength
    omega

end PageCensus
