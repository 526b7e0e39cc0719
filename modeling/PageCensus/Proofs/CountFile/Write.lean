import PageCensus.Proofs.FileSystem.OpenFile
import PageCensus.Proofs.Run.Script

/-!
# Writing a count file

The lines of a count file are written in pieces, and what is in the file in the end is the text that
they make together.

* `write_eq` — a count file is written as if it were saved at once.
* `writeTally_of_ok`, `writeTally_of_error` — so is the file of a run, which reports it.
* `render_eq_empty_iff` — only the file of an empty tally is empty.
-/

set_option autoImplicit false

namespace PageCensus

open RunStep

variable {κ : Type} [Token κ]

namespace CountFile

/-- The pieces of a line are the line. -/
theorem join_linePieces (entry : Entry κ) : String.join (linePieces entry) = line entry := by
  simp only [linePieces, line, String.join_cons, String.join_nil, String.append_empty,
    String.append_assoc]

/-- The pieces of all lines are the text of the file. -/
theorem join_flatMap_linePieces (entries : List (Entry κ)) :
    String.join (entries.flatMap linePieces) = String.join (entries.map line) := by
  induction entries with
  | nil => rfl
  | cons entry rest ih =>
    rw [List.flatMap_cons, String.join_append, join_linePieces, ih, List.map_cons, String.join_cons]

/-- **A count file is written as if it were saved at once.** -/
theorem write_eq (fs : FileSystem) (path : String) (tally : Tally κ) :
    write fs path tally =
      match save fs path tally with
      | .ok gs => (gs, none)
      | .error error => (fs, some error) := by
  rw [write, save]
  cases hcreate : fs.create path with
  | error fault =>
    have hlocate : fs.locate path = .error fault := by
      rw [FileSystem.create] at hcreate
      cases hlocate : fs.locate path with
      | error fault' =>
        rw [hlocate] at hcreate
        rw [← Except.error.inj hcreate]
      | ok place =>
        rw [hlocate] at hcreate
        cases hcreate
    rw [FileSystem.save, hlocate]
    rfl
  | ok file =>
    have hfinish := FileSystem.finish_create hcreate (tally.ranked.flatMap linePieces)
    rw [join_flatMap_linePieces, ← render] at hfinish
    simp only [hfinish]
    cases fs.save path (render tally) with
    | ok gs => rfl
    | error fault => rfl

/-- Every line holds something. -/
theorem line_ne_empty (entry : Entry κ) : line entry ≠ "" := by
  rw [line]
  exact fun h => absurd (String.append_eq_empty_iff.1 h).2 (by decide)

/-- Only the file of an empty tally is empty. -/
theorem render_eq_empty_iff {tally : Tally κ} : render tally = "" ↔ tally = ∅ := by
  have hempty : tally.ranked = [] ↔ tally = ∅ := by
    rw [← List.length_eq_zero_iff, Tally.length_ranked, Std.ExtTreeMap.eq_empty_iff_size_eq_zero]
  rw [← hempty, render]
  cases tally.ranked with
  | nil => exact iff_of_true rfl rfl
  | cons entry rest =>
    rw [List.map_cons, String.join_cons]
    exact iff_of_false (fun h => line_ne_empty entry (String.append_eq_empty_iff.1 h).1)
      (List.cons_ne_nil _ _)

end CountFile

variable {path : String} {tally : Tally κ} {world : World}

/-- A run that can write a file reports it. -/
theorem writeTally_of_ok {fs : FileSystem}
    (h : world.files.save path (CountFile.render tally) = .ok fs) :
    writeTally path tally world = .ok none
      { world with files := fs, log := world.log ++ [.countsSaved path tally.size] } := by
  have hwrite : CountFile.write world.files path tally = (fs, none) := by
    rw [CountFile.write_eq, CountFile.save, h]
    rfl
  rw [writeTally, bind_of_ok (get_eq world), hwrite]
  rfl

/-- A run that cannot write a file leaves everything as it is. -/
theorem writeTally_of_error {fault : FileFault}
    (h : world.files.save path (CountFile.render tally) = .error fault) :
    writeTally path tally world = .ok (some ⟨path, fault⟩) world := by
  have hwrite : CountFile.write world.files path tally = (world.files, some ⟨path, fault⟩) := by
    rw [CountFile.write_eq, CountFile.save, h]
    rfl
  rw [writeTally, bind_of_ok (get_eq world), hwrite]
  rfl

end PageCensus
