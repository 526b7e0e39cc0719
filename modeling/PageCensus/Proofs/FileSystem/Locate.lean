import PageCensus.FileSystem.Basic

/-!
# Which paths can be opened

Whether a file can be opened for writing under a path, and at which place it then is, depends on the
directories alone: every name but the last has to lead to a directory, and the last must not lead to
one.  So a file put where one can be opened changes nothing about what can be opened later, under
whatever path.  (What is said about a path that cannot be opened may change: a name that was missing
before is in the way as a file afterwards.)

* `opensAt` — the place at which a path can be opened.
* `SameDirectories`, `opensAt_congr` — file systems with the same directories open the same paths at
  the same places.
* `sameDirectories_put` — putting a file where a path can be opened keeps the directories.
* `getLast?_of_opensAt_joinPath` — a file opened in a directory is at a place that ends with its
  name.
-/

set_option autoImplicit false

namespace PageCensus
namespace FileSystem

/-- The place at which a path can be opened for writing, if it can be. -/
def opensAt (fs : FileSystem) (path : String) : Option Place := (fs.locate path).toOption

/-- Whether two file systems have the same directories and the same working directory. -/
structure SameDirectories (fs gs : FileSystem) : Prop where
  /-- Paths start at the same place. -/
  home : fs.home = gs.home
  /-- The directories are at the same places. -/
  directory_iff : ∀ place, fs.node? place = some .directory ↔ gs.node? place = some .directory

namespace SameDirectories

variable {fs gs hs : FileSystem}

theorem refl (fs : FileSystem) : SameDirectories fs fs := ⟨rfl, fun _ => Iff.rfl⟩

theorem trans (h : SameDirectories fs gs) (h' : SameDirectories gs hs) : SameDirectories fs hs :=
  ⟨h.home.trans h'.home, fun place => (h.directory_iff place).trans (h'.directory_iff place)⟩

end SameDirectories

/-! ## What a walk depends on -/

variable {fs gs : FileSystem}

theorem step_congr (h : SameDirectories fs gs) (place : Place) (name : String) :
    fs.step place name = gs.step place name := by
  rw [step, step]
  simp only [ne_eq, h.directory_iff]

theorem locateLast_congr (h : SameDirectories fs gs) (place : Place) (name : String)
    (slashAtEnd : Bool) :
    fs.locateLast place name slashAtEnd = gs.locateLast place name slashAtEnd := by
  rw [locateLast, locateLast, step_congr h]
  simp only [ne_eq, h.directory_iff]

/-- Walk along names and open the last one. -/
def openAlong (fs : FileSystem) (place : Place) (names : List String) (last : String)
    (slashAtEnd : Bool) : Option Place :=
  (fs.walk place names >>= fun place => fs.locateLast place last slashAtEnd).toOption

/-- Behind something that is not a directory nothing can be opened. -/
theorem openAlong_eq_none {place : Place} (h : fs.node? place ≠ some .directory)
    (names : List String) (last : String) (slashAtEnd : Bool) :
    fs.openAlong place names last slashAtEnd = none := by
  cases names with
  | nil =>
    have hlast : fs.locateLast place last slashAtEnd = .error .notDirectory := by
      rw [locateLast, if_pos h]
    show (fs.locateLast place last slashAtEnd).toOption = none
    rw [hlast]
    rfl
  | cons name rest =>
    have hstep : fs.step place name = .error .notDirectory := by rw [step, if_pos h]
    rw [openAlong, walk, hstep]
    rfl

theorem openAlong_cons_of_ok {place next : Place} {name : String}
    (h : fs.step place name = .ok next) (rest : List String) (last : String) (slashAtEnd : Bool) :
    fs.openAlong place (name :: rest) last slashAtEnd =
      fs.openAlong next rest last slashAtEnd := by
  have hwalk : fs.walk place (name :: rest) =
      if (fs.node? next).isNone then .error .notFound else fs.walk next rest := by
    rw [walk, h]
    rfl
  rw [openAlong, hwalk]
  split
  · next hnone =>
    -- what is not there is no directory either
    rw [openAlong_eq_none fun hdir => by rw [hdir] at hnone; cases hnone]
    rfl
  · rfl

/-- **What can be opened depends on the directories alone.** -/
theorem openAlong_congr (h : SameDirectories fs gs) (place : Place) (names : List String)
    (last : String) (slashAtEnd : Bool) :
    fs.openAlong place names last slashAtEnd = gs.openAlong place names last slashAtEnd := by
  induction names generalizing place with
  | nil => exact congrArg Except.toOption (locateLast_congr h place last slashAtEnd)
  | cons name rest ih =>
    cases hstep : fs.step place name with
    | error fault =>
      have hstep' : gs.step place name = .error fault := by rw [← step_congr h, hstep]
      rw [openAlong, openAlong, walk, walk, hstep, hstep']
      rfl
    | ok next =>
      have hstep' : gs.step place name = .ok next := by rw [← step_congr h, hstep]
      rw [openAlong_cons_of_ok hstep, openAlong_cons_of_ok hstep', ih]

/-- A path that can be opened has a last name, and is opened along the names before it. -/
theorem opensAt_eq (fs : FileSystem) (path : String) :
    fs.opensAt path =
      if path.toList.contains '\x00' ∨ path.isEmpty ∨ pathLimit ≤ path.utf8ByteSize then none
      else (Route.ofPath path).names.getLast?.bind fun last =>
        fs.openAlong (if (Route.ofPath path).fromRoot then [] else fs.home)
          (Route.ofPath path).names.dropLast last (Route.ofPath path).slashAtEnd := by
  rw [opensAt, locate]
  by_cases hnul : path.toList.contains '\x00' = true
  · rw [if_pos hnul, if_pos (Or.inl hnul)]
    rfl
  by_cases hempty : path.isEmpty = true
  · rw [if_neg hnul, if_pos hempty, if_pos (Or.inr (Or.inl hempty))]
    rfl
  by_cases hlong : pathLimit ≤ path.utf8ByteSize
  · rw [if_neg hnul, if_neg hempty, if_pos hlong, if_pos (Or.inr (Or.inr hlong))]
    rfl
  rw [if_neg hnul, if_neg hempty, if_neg hlong, if_neg (not_or.2 ⟨hnul, not_or.2 ⟨hempty, hlong⟩⟩)]
  cases hlast : (Route.ofPath path).names.getLast? with
  | none => simp only [hlast]; rfl
  | some last => simp only [hlast]; rfl

/-- **File systems with the same directories open the same paths**, at the same places. -/
theorem opensAt_congr (h : SameDirectories fs gs) (path : String) :
    fs.opensAt path = gs.opensAt path := by
  rw [opensAt_eq, opensAt_eq, h.home]
  split
  · rfl
  · exact Option.bind_congr fun last _ => openAlong_congr h _ _ last _

/-! ## Where a path opens -/

/-- The last name is put behind a directory, and what it leads to is not a directory. -/
theorem of_locateLast_eq_ok {place place' : Place} {last : String} {slashAtEnd : Bool}
    (h : fs.locateLast place last slashAtEnd = .ok place') :
    place' = place ++ [last] ∧ fs.node? place' ≠ some .directory := by
  rw [locateLast] at h
  split at h
  · cases h
  split at h
  · cases h
  next hdots =>
  rw [Bool.or_eq_true, Bool.or_eq_true, decide_eq_true_iff, decide_eq_true_iff, not_or, not_or]
    at hdots
  cases hstep : fs.step place last with
  | error fault => rw [hstep] at h; cases h
  | ok next =>
    have hnext : next = place ++ [last] := by
      rw [step, if_neg hdots.1.2, if_neg hdots.2] at hstep
      split at hstep
      · cases hstep
      split at hstep
      · cases hstep
      exact (Except.ok.inj hstep).symm
    have hopen : (if fs.node? next = some .directory then .error .isDirectory else .ok next :
        Except FileFault Place) = .ok place' := by
      rw [hstep] at h
      exact h
    split at hopen
    · cases hopen
    next hdir =>
      rw [← Except.ok.inj hopen]
      exact ⟨hnext, hdir⟩

/-- What can be opened along names is the last name in the directory that the others lead to. -/
theorem of_openAlong_eq_some {start place : Place} {names : List String} {last : String}
    {slashAtEnd : Bool} (h : fs.openAlong start names last slashAtEnd = some place) :
    (∃ directory, place = directory ++ [last]) ∧ fs.node? place ≠ some .directory := by
  rw [openAlong] at h
  cases hwalk : fs.walk start names with
  | error fault => rw [hwalk] at h; cases h
  | ok directory =>
    have hlocate : (fs.locateLast directory last slashAtEnd).toOption = some place := by
      rw [hwalk] at h
      exact h
    cases hlast : fs.locateLast directory last slashAtEnd with
    | error fault => rw [hlast] at hlocate; cases hlocate
    | ok found =>
      rw [hlast] at hlocate
      cases hlocate
      obtain ⟨hplace, hnode⟩ := of_locateLast_eq_ok hlast
      exact ⟨⟨directory, hplace⟩, hnode⟩

/-- **What is opened is what the last name of the path says, and no directory.** -/
theorem of_opensAt_eq_some {path : String} {place : Place} (h : fs.opensAt path = some place) :
    place.getLast? = (Route.ofPath path).names.getLast? ∧ fs.node? place ≠ some .directory := by
  rw [opensAt_eq] at h
  split at h
  · cases h
  obtain ⟨last, hlast, hopen⟩ := Option.bind_eq_some_iff.1 h
  obtain ⟨⟨directory, hplace⟩, hnode⟩ := of_openAlong_eq_some hopen
  rw [hlast, hplace, List.getLast?_append, List.getLast?_singleton, Option.some_or, ← hplace]
  exact ⟨rfl, hnode⟩

/-- A path that ends with a name behind a slash, or is nothing but that name, ends with that
name. -/
theorem getLast?_names_ofPath {path : String} {name : List Char} (hname : name ≠ [])
    (hslash : '/' ∉ name)
    (h : path.toList = name ∨ ∃ front, path.toList = front ++ '/' :: name) :
    (Route.ofPath path).names.getLast? = some (String.ofList name) := by
  have hpiece : pieces (· == '/') name = [name] :=
    pieces_eq_singleton fun c hc => beq_eq_false_iff_ne.2 fun hslash' => hslash (hslash' ▸ hc)
  have hkeep : [name].filter (!·.isEmpty) = [name] := by
    refine List.filter_cons_of_pos ?_
    rw [Bool.not_eq_true', Bool.eq_false_iff, ne_eq, List.isEmpty_iff]
    exact hname
  have hpieces : ∃ before, pieces (· == '/') path.toList = before ++ [name] := by
    rcases h with h | ⟨front, h⟩
    · exact ⟨[], by rw [h, hpiece, List.nil_append]⟩
    · exact ⟨pieces (· == '/') front, by rw [h, pieces_append rfl, hpiece]⟩
  obtain ⟨before, hbefore⟩ := hpieces
  rw [Route.ofPath, hbefore, List.filter_append, hkeep, List.map_append, List.getLast?_append]
  rfl

/-- The path of a file in a directory ends with the name of the file. -/
theorem toList_joinPath (directory name : String) :
    (joinPath directory name).toList = name.toList ∨
      ∃ front, (joinPath directory name).toList = front ++ '/' :: name.toList := by
  rw [joinPath]
  split
  · exact Or.inl rfl
  · next hslash =>
    obtain ⟨front, hfront⟩ := List.getLast?_eq_some_iff.1 hslash
    exact Or.inr ⟨front, by rw [String.toList_append, hfront, List.append_assoc]; rfl⟩
  · exact Or.inr ⟨directory.toList, by
      rw [String.toList_append, String.toList_append, List.append_assoc]; rfl⟩

/-- **A file opened in a directory is at a place that ends with its name.** -/
theorem getLast?_of_opensAt_joinPath {directory name : String} {place : Place}
    (hname : name.toList ≠ []) (hslash : '/' ∉ name.toList)
    (h : fs.opensAt (joinPath directory name) = some place) : place.getLast? = some name := by
  rw [(of_opensAt_eq_some h).1,
    getLast?_names_ofPath hname hslash (toList_joinPath directory name), String.ofList_toList]

/-! ## Putting a file where a path opens -/

theorem node?_put {place other : Place} {text : String} (h : place ≠ []) :
    (fs.put place text).node? other =
      if place = other then some (.file text) else fs.node? other := by
  split
  · next heq =>
    rw [← heq]
    exact node?_put_self h
  · next hne => exact node?_put_of_ne hne

/-- The root is a directory, so it cannot be opened. -/
theorem ne_nil_of_node?_ne_directory {place : Place} (h : fs.node? place ≠ some .directory) :
    place ≠ [] := fun hnil => h (by rw [hnil]; rfl)

/-- **A file put where there is no directory changes no directory.** -/
theorem sameDirectories_put {place : Place} (h : fs.node? place ≠ some .directory)
    (text : String) : SameDirectories fs (fs.put place text) := by
  refine ⟨rfl, fun other => ?_⟩
  rw [node?_put (ne_nil_of_node?_ne_directory h)]
  split
  · next heq =>
    rw [← heq]
    exact ⟨fun hdir => absurd hdir h, fun hfile => by cases hfile⟩
  · exact Iff.rfl

end FileSystem
end PageCensus
