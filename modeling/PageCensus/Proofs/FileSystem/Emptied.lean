import PageCensus.Proofs.FileSystem.Save

/-!
# Emptying files in the working directory

A file is emptied by saving the empty text under its path.  Even the device without space takes a
text of no bytes, so all that is needed is that the path can be opened; and a path that is a mere
name in the working directory can be opened unless a directory has that name already.

* `IsFileName` — names that mean neither a directory nor a way through directories.
* `OpensInHome`, `opensAt_joinPath_dot` — what can be opened under a name in the working directory.
* `Emptied` — how file systems differ if files with some names were emptied as far as possible.
  This can be done name by name (`emptied_of_save`, `Emptied.append`).
-/

set_option autoImplicit false

namespace PageCensus

/-! ## Names in the working directory -/

/-- Whether a text can be the name of a file. -/
structure IsFileName (name : String) : Prop where
  /-- It has characters. -/
  ne_nil : name.toList ≠ []
  /-- It is a single name. -/
  slash_not_mem : '/' ∉ name.toList
  /-- The system can read it. -/
  nul_not_mem : '\x00' ∉ name.toList
  /-- It does not mean the directory itself. -/
  ne_dot : name ≠ "."
  /-- It does not mean the directory above. -/
  ne_dots : name ≠ ".."
  /-- It is not too long. -/
  size_le : name.utf8ByteSize ≤ FileSystem.nameLimit

/-- The path of a file in the working directory. -/
theorem toList_joinPath_dot (name : String) :
    (joinPath "." name).toList = ['.'] ++ '/' :: name.toList := by
  have hjoin : joinPath "." name = "." ++ "/" ++ name := rfl
  rw [hjoin, String.toList_append]
  rfl

theorem utf8ByteSize_joinPath_dot (name : String) :
    (joinPath "." name).utf8ByteSize = 2 + name.utf8ByteSize := by
  have hjoin : joinPath "." name = "." ++ "/" ++ name := rfl
  rw [hjoin, String.utf8ByteSize_append]
  rfl

/-- It leads through the working directory alone. -/
theorem ofPath_joinPath_dot {name : String} (h : IsFileName name) :
    Route.ofPath (joinPath "." name) = ⟨false, [".", name], false⟩ := by
  have hpiece : pieces (· == '/') name.toList = [name.toList] :=
    pieces_eq_singleton fun c hc =>
      beq_eq_false_iff_ne.2 fun hslash => h.slash_not_mem (hslash ▸ hc)
  have hkeep : ([['.'], name.toList].filter (!·.isEmpty)).map String.ofList = [".", name] := by
    simp [h.ne_nil]
  have hlast : ((['.'] ++ '/' :: name.toList).getLast? == some '/') = false := by
    have hsome := List.getLast?_eq_some_getLast h.ne_nil
    rw [beq_eq_false_iff_ne, List.append_cons, List.getLast?_append, hsome, Option.some_or, ← hsome]
    exact fun hslash => h.slash_not_mem (List.mem_of_getLast? hslash)
  rw [Route.ofPath, toList_joinPath_dot, pieces_append rfl, hpiece, hlast]
  exact congrArg (Route.mk false · false) hkeep

namespace FileSystem

/-- Whether a file can be opened under a name in the working directory, and at which place. -/
structure OpensInHome (fs : FileSystem) (name : String) (place : Place) : Prop where
  /-- The working directory is there. -/
  home_directory : fs.node? fs.home = some .directory
  /-- The place is in that directory. -/
  place_eq : place = fs.home ++ [name]
  /-- There is no directory at it. -/
  not_directory : fs.node? place ≠ some .directory

variable {fs gs hs : FileSystem} {name : String}

/-- It depends on the directories alone. -/
theorem OpensInHome.congr {place : Place} (hsame : SameDirectories fs gs)
    (h : fs.OpensInHome name place) : gs.OpensInHome name place where
  home_directory := hsame.home ▸ (hsame.directory_iff _).1 h.home_directory
  place_eq := hsame.home ▸ h.place_eq
  not_directory := fun hdir => h.not_directory ((hsame.directory_iff _).2 hdir)

theorem locateLast_of_isFileName (h : IsFileName name) {place : Place}
    (hdir : fs.node? place = some .directory) :
    fs.locateLast place name false =
      if fs.node? (place ++ [name]) = some .directory then .error .isDirectory
      else .ok (place ++ [name]) := by
  have hstep : fs.step place name = .ok (place ++ [name]) := by
    rw [step, if_neg (fun hne => hne hdir), if_neg h.ne_dot, if_neg h.ne_dots,
      if_neg (Nat.not_lt.2 h.size_le)]
  rw [locateLast, if_neg (fun hne => hne hdir), if_neg (by simp [h.ne_dot, h.ne_dots]), hstep]
  rfl

/-- **What can be opened under a name in the working directory.** -/
theorem opensAt_joinPath_dot (h : IsFileName name) (fs : FileSystem) (place : Place) :
    fs.opensAt (joinPath "." name) = some place ↔ fs.OpensInHome name place := by
  have hnul : '\x00' ∉ (joinPath "." name).toList := by
    simp [toList_joinPath_dot, h.nul_not_mem]
  have hnonempty : (joinPath "." name).isEmpty = false := by
    rw [String.isEmpty, beq_eq_false_iff_ne, utf8ByteSize_joinPath_dot]
    omega
  have hsize : (joinPath "." name).utf8ByteSize < pathLimit := by
    have hle : name.utf8ByteSize ≤ 255 := h.size_le
    rw [utf8ByteSize_joinPath_dot, pathLimit]
    omega
  have hopen : fs.opensAt (joinPath "." name) = fs.openAlong fs.home ["."] name false := by
    rw [opensAt_eq, if_neg (by simp [hnul, hnonempty, hsize]), ofPath_joinPath_dot h]
    rfl
  rw [hopen]
  by_cases hdir : fs.node? fs.home = some .directory
  · have hstep : fs.step fs.home "." = .ok fs.home := by
      rw [step, if_neg (fun hne => hne hdir), if_pos rfl]
    have hlast : fs.openAlong fs.home [] name false = (fs.locateLast fs.home name false).toOption :=
      rfl
    rw [openAlong_cons_of_ok hstep, hlast, locateLast_of_isFileName h hdir]
    split
    · next hnode =>
      refine iff_of_false (Option.some_ne_none place).symm fun hopens => hopens.not_directory ?_
      rw [hopens.place_eq, hnode]
    · next hnode =>
      refine ⟨fun heq => ?_, fun hopens => congrArg some hopens.place_eq.symm⟩
      obtain rfl := Option.some.inj heq
      exact ⟨hdir, rfl, hnode⟩
  · rw [openAlong_eq_none hdir]
    exact iff_of_false (Option.some_ne_none place).symm fun hopens => hdir hopens.home_directory

/-! ## Emptying files -/

/-- Even a device without space takes the empty text. -/
theorem save_empty_of_hasDevice {path : String} {place : Place} (h : fs.locate path = .ok place)
    (hdevice : fs.HasDevice place) : fs.save path "" = .ok fs := by
  rw [save, h]
  rcases hdevice with hnode | hnode <;> simp only [bind, Except.bind, hnode] <;> rfl

/-- Whether a place is to be emptied for one of several names: a file can be opened there, and it is
no device. -/
def Empties (names : List String) (fs : FileSystem) (place : Place) : Prop :=
  ∃ name ∈ names, fs.OpensInHome name place ∧ ¬ fs.HasDevice place

/-- **How file systems differ if files with some names in the working directory are emptied** as far
as they can be opened: at each place for itself. -/
structure Emptied (names : List String) (fs gs : FileSystem) : Prop where
  /-- The working directory is the same. -/
  home_eq : gs.home = fs.home
  /-- The files that can be opened are empty. -/
  emptied : ∀ place, fs.Empties names place → gs.node? place = some (.file "")
  /-- All else is as before. -/
  kept : ∀ place, ¬ fs.Empties names place → gs.node? place = fs.node? place

theorem empties_append {names more : List String} {place : Place} :
    fs.Empties (names ++ more) place ↔ fs.Empties names place ∨ fs.Empties more place := by
  simp only [Empties, List.mem_append, or_and_right, exists_or]

/-- If nothing can be emptied, all stays as it is. -/
theorem emptied_self {names : List String} (h : ∀ place, ¬ fs.Empties names place) :
    fs.Emptied names fs :=
  ⟨rfl, fun place hempties => absurd hempties (h place), fun _ _ => rfl⟩

namespace Emptied

variable {names more : List String} {place : Place}

theorem directory_iff (h : fs.Emptied names gs) (place : Place) :
    fs.node? place = some .directory ↔ gs.node? place = some .directory := by
  by_cases hempties : fs.Empties names place
  · have hempty := h.emptied place hempties
    obtain ⟨_, -, hopens, -⟩ := hempties
    rw [hempty]
    exact iff_of_false hopens.not_directory nofun
  · rw [h.kept place hempties]

theorem hasDevice_iff (h : fs.Emptied names gs) (place : Place) :
    fs.HasDevice place ↔ gs.HasDevice place := by
  by_cases hempties : fs.Empties names place
  · have hempty := h.emptied place hempties
    obtain ⟨_, -, -, hdevice⟩ := hempties
    refine iff_of_false hdevice ?_
    rw [HasDevice, hempty]
    rintro (h | h) <;> cases h
  · rw [HasDevice, HasDevice, h.kept place hempties]

/-- What is to be emptied later does not depend on what was emptied before. -/
theorem empties_iff (h : fs.Emptied names gs) :
    fs.Empties more place ↔ gs.Empties more place := by
  have hsame : SameDirectories fs gs := ⟨h.home_eq.symm, h.directory_iff⟩
  have hsame' : SameDirectories gs fs := ⟨h.home_eq, fun place => (h.directory_iff place).symm⟩
  rw [Empties, Empties]
  refine exists_congr fun name => and_congr_right fun _ => and_congr ?_ ?_
  · exact ⟨OpensInHome.congr hsame, OpensInHome.congr hsame'⟩
  · exact not_congr (h.hasDevice_iff place)

/-- **Files may be emptied one after the other.** -/
theorem append (h : fs.Emptied names gs) (h' : gs.Emptied more hs) :
    fs.Emptied (names ++ more) hs := by
  refine ⟨h'.home_eq.trans h.home_eq, fun place hempties => ?_, fun place hempties => ?_⟩
  · rw [empties_append] at hempties
    by_cases hmore : gs.Empties more place
    · exact h'.emptied place hmore
    · -- nothing happened at the place the second time, so it is as the first time left it
      rw [h'.kept place hmore]
      exact h.emptied place (hempties.resolve_right fun hfs => hmore (h.empties_iff.1 hfs))
  · rw [empties_append, not_or] at hempties
    rw [h'.kept place fun hgs => hempties.2 (h.empties_iff.2 hgs), h.kept place hempties.1]

end Emptied

/-- **Saving the empty text empties a file**, if it succeeds; if it fails, there is nothing that
could be emptied. -/
theorem emptied_of_save (h : IsFileName name) (fs : FileSystem) :
    (∃ gs, fs.save (joinPath "." name) "" = .ok gs ∧ fs.Emptied [name] gs) ∨
      ∃ fault, fs.save (joinPath "." name) "" = .error fault ∧ fs.Emptied [name] fs := by
  have hopens := opensAt_joinPath_dot h fs
  rw [opensAt] at hopens
  cases hlocate : fs.locate (joinPath "." name) with
  | error fault =>
    -- a path that cannot be located opens nowhere, so there is nothing to empty
    right
    rw [hlocate] at hopens
    refine ⟨fault, by rw [save, hlocate]; rfl, emptied_self fun place hempties => ?_⟩
    obtain ⟨_, hname, hopen, -⟩ := hempties
    obtain rfl := List.mem_singleton.1 hname
    cases (hopens place).2 hopen
  | ok place =>
    left
    rw [hlocate] at hopens
    have hopen : fs.OpensInHome name place := (hopens place).1 rfl
    have hplace : ∀ other, fs.Empties [name] other → other = place := by
      rintro other ⟨_, hname, hother, -⟩
      obtain rfl := List.mem_singleton.1 hname
      rw [hother.place_eq, hopen.place_eq]
    by_cases hdevice : fs.HasDevice place
    · -- the device took the text and kept nothing of it
      refine ⟨fs, save_empty_of_hasDevice hlocate hdevice, emptied_self fun other hempties => ?_⟩
      obtain rfl := hplace other hempties
      obtain ⟨_, -, -, hno⟩ := hempties
      exact hno hdevice
    · have hne := ne_nil_of_node?_ne_directory hopen.not_directory
      refine ⟨_, save_of_locate hlocate hdevice, rfl, fun other hempties => ?_,
        fun other hempties => ?_⟩
      · rw [hplace other hempties, node?_put_self hne]
      · refine node?_put_of_ne fun heq => hempties ?_
        rw [← heq]
        exact ⟨name, List.mem_singleton_self name, hopen, hdevice⟩

end FileSystem
end PageCensus
