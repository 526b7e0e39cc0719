import PageCensus.Proofs.FileSystem.Locate

/-!
# What it takes to open a file

A path is opened by going from name to name through directories that are all there.  This module
says so without following the path: under which conditions a file can be opened, and that there is
no other way.

* `Means`, `Leads` — what a name means in a directory, and where names lead to.
* `Opens` — all that has to be true of a path that can be opened.
* `opensAt_eq_some_iff` — those are the paths that can be opened.
-/

set_option autoImplicit false

namespace PageCensus
namespace FileSystem

/-- What a name means at a place. -/
inductive Means : Place → String → Place → Prop where
  /-- A point is the place itself. -/
  | same (place : Place) : Means place "." place
  /-- Two points are the place above, which at the root is the root. -/
  | up (place : Place) : Means place ".." place.dropLast
  /-- Every other name that is not too long is a place below. -/
  | down (place : Place) {name : String} (hdot : name ≠ ".") (hdots : name ≠ "..")
      (hsize : name.utf8ByteSize ≤ nameLimit) : Means place name (place ++ [name])

/-- Names lead from one directory through directories to another. -/
inductive Leads (fs : FileSystem) : Place → List String → Place → Prop where
  /-- No name leads elsewhere. -/
  | here {place : Place} (h : fs.node? place = some .directory) : Leads fs place [] place
  /-- A name leads on from a directory. -/
  | next {place between target : Place} {name : String} {rest : List String}
      (h : fs.node? place = some .directory) (hname : Means place name between)
      (hrest : Leads fs between rest target) : Leads fs place (name :: rest) target

/-- Where a path starts. -/
def startOf (fs : FileSystem) (path : String) : Place :=
  if (Route.ofPath path).fromRoot then [] else fs.home

/-- **What it takes to open a file** under a path, so that it has this name in this directory. -/
structure Opens (fs : FileSystem) (path : String) (directory : Place) (name : String) : Prop where
  /-- The system can read the path. -/
  nul_not_mem : '\x00' ∉ path.toList
  /-- The path is not too long. -/
  size_lt : path.utf8ByteSize < pathLimit
  /-- The path does not ask for a directory. -/
  slashAtEnd_eq : (Route.ofPath path).slashAtEnd = false
  /-- The path ends with the name. -/
  getLast?_eq : (Route.ofPath path).names.getLast? = some name
  /-- What is before the name leads to the directory. -/
  leads : fs.Leads (fs.startOf path) (Route.ofPath path).names.dropLast directory
  /-- The name does not mean the directory itself. -/
  ne_dot : name ≠ "."
  /-- It does not mean the directory above. -/
  ne_dots : name ≠ ".."
  /-- It is not too long. -/
  size_le : name.utf8ByteSize ≤ nameLimit
  /-- No directory has this name already. -/
  not_directory : fs.node? (directory ++ [name]) ≠ some .directory

variable {fs : FileSystem}

/-- Names lead to a directory. -/
theorem Leads.directory {place target : Place} {names : List String}
    (h : fs.Leads place names target) : fs.node? target = some .directory := by
  induction h with
  | here h => exact h
  | next _ _ _ ih => exact ih

/-! ## Following names -/

theorem step_eq_ok_iff {place next : Place} {name : String} :
    fs.step place name = .ok next ↔ fs.node? place = some .directory ∧ Means place name next := by
  rw [step]
  constructor
  · intro h
    split at h
    · cases h
    next hdir =>
    refine ⟨Decidable.not_not.1 hdir, ?_⟩
    split at h
    · next hdot =>
      rw [hdot, ← Except.ok.inj h]
      exact .same place
    split at h
    · next hdots =>
      rw [hdots, ← Except.ok.inj h]
      exact .up place
    split at h
    · cases h
    next hdot hdots hsize =>
      rw [← Except.ok.inj h]
      exact .down place hdot hdots (Nat.le_of_not_lt hsize)
  · rintro ⟨hdir, hmeans⟩
    rw [if_neg (Decidable.not_not.2 hdir)]
    cases hmeans with
    | same => rfl
    | up => rfl
    | down hdot hdots hsize => rw [if_neg hdot, if_neg hdots, if_neg (Nat.not_lt.2 hsize)]

theorem locateLast_eq_ok_iff {place target : Place} {name : String} {slashAtEnd : Bool} :
    fs.locateLast place name slashAtEnd = .ok target ↔
      (fs.node? place = some .directory ∧ slashAtEnd = false ∧ name ≠ "." ∧ name ≠ ".." ∧
        name.utf8ByteSize ≤ nameLimit) ∧
      target = place ++ [name] ∧ fs.node? target ≠ some .directory := by
  constructor
  · intro h
    refine ⟨?_, of_locateLast_eq_ok h⟩
    rw [locateLast] at h
    split at h
    · cases h
    next hdir =>
    split at h
    · cases h
    next hdots =>
    simp only [Bool.or_eq_true, decide_eq_true_eq, not_or, Bool.not_eq_true] at hdots
    obtain ⟨⟨hslash, hdot⟩, hdots⟩ := hdots
    refine ⟨Decidable.not_not.1 hdir, hslash, hdot, hdots, ?_⟩
    cases hstep : fs.step place name with
    | error fault => rw [hstep] at h; cases h
    | ok next =>
      obtain ⟨-, hmeans⟩ := step_eq_ok_iff.1 hstep
      cases hmeans with
      | same => exact absurd rfl hdot
      | up => exact absurd rfl hdots
      | down _ _ hsize => exact hsize
  · rintro ⟨⟨hdir, hslash, hdot, hdots, hsize⟩, rfl, hnode⟩
    have hstep := step_eq_ok_iff.2 ⟨hdir, Means.down place hdot hdots hsize⟩
    rw [locateLast, if_neg (Decidable.not_not.2 hdir), if_neg (by simp [hslash, hdot, hdots]),
      hstep]
    exact if_neg hnode

/-- **What can be opened along names** is in the directory that they lead to. -/
theorem openAlong_eq_some_iff {start place : Place} {names : List String} {last : String}
    {slashAtEnd : Bool} :
    fs.openAlong start names last slashAtEnd = some place ↔
      ∃ directory, fs.Leads start names directory ∧
        fs.locateLast directory last slashAtEnd = .ok place := by
  induction names generalizing start with
  | nil =>
    have hlast : fs.openAlong start [] last slashAtEnd =
      (fs.locateLast start last slashAtEnd).toOption := rfl
    rw [hlast]
    constructor
    · intro h
      cases hlocate : fs.locateLast start last slashAtEnd with
      | error fault => rw [hlocate] at h; cases h
      | ok found =>
        rw [hlocate] at h
        obtain rfl := Option.some.inj h
        exact ⟨start, .here (locateLast_eq_ok_iff.1 hlocate).1.1, hlocate⟩
    · rintro ⟨directory, hleads, hlocate⟩
      cases hleads with
      | here => rw [hlocate]; rfl
  | cons name rest ih =>
    cases hstep : fs.step start name with
    | error fault =>
      have hnone : fs.openAlong start (name :: rest) last slashAtEnd = none := by
        rw [openAlong, walk, hstep]
        rfl
      rw [hnone]
      refine iff_of_false (Option.some_ne_none place).symm ?_
      rintro ⟨directory, hleads, -⟩
      cases hleads with
      | next hdir hmeans _ =>
        rw [step_eq_ok_iff.2 ⟨hdir, hmeans⟩] at hstep
        cases hstep
    | ok next =>
      rw [openAlong_cons_of_ok hstep, ih]
      refine exists_congr fun directory => and_congr_left fun _ => ?_
      obtain ⟨hdir, hmeans⟩ := step_eq_ok_iff.1 hstep
      constructor
      · exact .next hdir hmeans
      · intro hleads
        cases hleads with
        | next _ hmeans' hrest =>
          have hsame := step_eq_ok_iff.2 ⟨hdir, hmeans'⟩
          rw [hstep] at hsame
          rwa [Except.ok.inj hsame]

/-- **The paths that can be opened**, and the places where they are. -/
theorem opensAt_eq_some_iff {path : String} {place : Place} :
    fs.opensAt path = some place ↔
      ∃ directory name, place = directory ++ [name] ∧ fs.Opens path directory name := by
  rw [opensAt_eq]
  constructor
  · intro h
    split at h
    · cases h
    next hpath =>
    simp only [not_or, Nat.not_le] at hpath
    obtain ⟨last, hlast, hopen⟩ := Option.bind_eq_some_iff.1 h
    obtain ⟨directory, hleads, hlocate⟩ := openAlong_eq_some_iff.1 hopen
    obtain ⟨⟨-, hslash, hdot, hdots, hsize⟩, rfl, hnode⟩ := locateLast_eq_ok_iff.1 hlocate
    exact ⟨directory, last, rfl, ⟨by simpa using hpath.1, hpath.2.2, hslash, hlast, hleads, hdot,
      hdots, hsize, hnode⟩⟩
  · rintro ⟨directory, name, rfl, h⟩
    have hempty : path.isEmpty = false := by
      rw [Bool.eq_false_iff]
      intro hempty
      have hlast := h.getLast?_eq
      have hnames : (Route.ofPath "").names = [] := by decide
      rw [String.isEmpty_iff.1 hempty, hnames] at hlast
      cases hlast
    have hpath :
        ¬ (path.toList.contains '\x00' ∨ path.isEmpty ∨ pathLimit ≤ path.utf8ByteSize) := by
      simp [h.nul_not_mem, hempty, h.size_lt]
    rw [if_neg hpath, h.getLast?_eq, Option.bind_some]
    exact openAlong_eq_some_iff.2 ⟨directory, h.leads, locateLast_eq_ok_iff.2
      ⟨⟨h.leads.directory, h.slashAtEnd_eq, h.ne_dot, h.ne_dots, h.size_le⟩, rfl,
        h.not_directory⟩⟩

end FileSystem
end PageCensus
