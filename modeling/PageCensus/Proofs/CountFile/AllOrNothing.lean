import PageCensus.Proofs.CountFile.Write
import PageCensus.Proofs.FileSystem.Opens

/-!
# A count file is written as a whole or not at all

Opening a file empties it, and what is written to it reaches it piece by piece, so a write that
fails halfway could leave half a file behind.  It never does.  A file that could be opened takes
everything; what can fail behind the opening is a device without space, and of a device nothing can
be lost.

* `WritesAllOrNothing` — how writing a count file ends.
* `writeTally_allOrNothing` — it ends so for every path, every tally and all files that are there.
-/

set_option autoImplicit false

namespace PageCensus

variable {κ : Type} [Token κ]

/-- **How writing a count file ends**: from the world before it, with or without an error, in the
world after it. -/
structure WritesAllOrNothing (path : String) (tally : Tally κ) (before : World)
    (error? : Option SaveError) (after : World) : Prop where
  /-- There is an error exactly if no file can be opened under the path, or if there is a device
  without space at it, whatever the length of a text that is not empty. -/
  isSome_iff : error?.isSome = true ↔
    (¬ ∃ directory name, before.files.Opens path directory name) ∨
      ∃ directory name, before.files.Opens path directory name ∧
        before.files.node? (directory ++ [name]) = some .fullDevice ∧ tally ≠ ∅
  /-- Without an error there is a file, in a directory that was there before.  If it is no device,
  it holds the lines of the ranking, whatever it held before.  Nothing else has changed. -/
  written : error? = none → ∃ directory name, before.files.Opens path directory name ∧
    before.files.node? directory = some .directory ∧
    (¬ before.files.HasDevice (directory ++ [name]) →
      after.files.node? (directory ++ [name]) =
        some (.file (String.join (tally.ranked.map CountFile.line)))) ∧
    (before.files.HasDevice (directory ++ [name]) → after.files = before.files) ∧
    ∀ place, place ≠ directory ++ [name] → after.files.node? place = before.files.node? place
  /-- Under the path these lines are read back. -/
  read?_eq : error? = none → ¬ before.files.NamesDevice path →
    after.files.read? path = some (String.join (tally.ranked.map CountFile.line))
  /-- With an error nothing has changed.  The error has the path as it was given, and the reason:
  why no file can be opened, or that the device has no space. -/
  failed : ∀ error, error? = some error → after.files = before.files ∧ error.path = path ∧
    (before.files.locate path = .error error.fault ∨
      (∃ place, before.files.locate path = .ok place) ∧ error.fault = .deviceFull)
  /-- No directory was made or removed, and the working directory is the same. -/
  sameDirectories : FileSystem.SameDirectories before.files after.files
  /-- It is reported that the file was written if there is no error, and nothing otherwise. -/
  log_eq : after.log =
    before.log ++ if error?.isNone then [.countsSaved path tally.size] else []
  /-- Nothing is printed. -/
  stdout_eq : after.stdout = before.stdout
  /-- Nobody waits. -/
  pauses_eq : after.pauses = before.pauses

variable {path : String} {tally : Tally κ} {world : World}

/-- An error with which nothing has changed. -/
theorem writesAllOrNothing_of_fault {fault : FileFault}
    (hfails : (¬ ∃ directory name, world.files.Opens path directory name) ∨
      ∃ directory name, world.files.Opens path directory name ∧
        world.files.node? (directory ++ [name]) = some .fullDevice ∧ tally ≠ ∅)
    (hfault : world.files.locate path = .error fault ∨
      (∃ place, world.files.locate path = .ok place) ∧ fault = .deviceFull) :
    WritesAllOrNothing path tally world (some ⟨path, fault⟩) world where
  isSome_iff := iff_of_true rfl hfails
  written := fun hnone => absurd hnone (Option.some_ne_none _)
  read?_eq := fun hnone => absurd hnone (Option.some_ne_none _)
  failed := by
    intro error herror
    obtain rfl := Option.some.inj herror
    exact ⟨rfl, rfl, hfault⟩
  sameDirectories := .refl _
  log_eq := (List.append_nil _).symm
  stdout_eq := rfl
  pauses_eq := rfl

/-- A path that cannot be opened. -/
theorem writesAllOrNothing_of_error {fault : FileFault}
    (h : world.files.locate path = .error fault) :
    WritesAllOrNothing path tally world (some ⟨path, fault⟩) world := by
  refine writesAllOrNothing_of_fault (Or.inl ?_) (Or.inl h)
  rintro ⟨directory, name, hopens⟩
  have hsome := FileSystem.opensAt_eq_some_iff.2 ⟨directory, name, rfl, hopens⟩
  rw [FileSystem.opensAt, h] at hsome
  cases hsome

section

variable {place : Place} (h : world.files.locate path = .ok place)

include h

/-- A device without space. -/
theorem writesAllOrNothing_of_fullDevice (hnode : world.files.node? place = some .fullDevice)
    (htally : tally ≠ ∅) :
    WritesAllOrNothing path tally world (some ⟨path, .deviceFull⟩) world := by
  obtain ⟨directory, name, rfl, hopens⟩ :=
    FileSystem.opensAt_eq_some_iff.1 (congrArg Except.toOption h)
  exact writesAllOrNothing_of_fault (Or.inr ⟨directory, name, hopens, hnode, htally⟩)
    (Or.inr ⟨⟨_, h⟩, rfl⟩)

/-- A file that could be opened is no reason for an error, unless it is a device without space and
there is something to write. -/
theorem isSome_iff_of_opens
    (hfull : world.files.node? place ≠ some .fullDevice ∨ tally = ∅) :
    (none : Option SaveError).isSome = true ↔
      (¬ ∃ directory name, world.files.Opens path directory name) ∨
        ∃ directory name, world.files.Opens path directory name ∧
          world.files.node? (directory ++ [name]) = some .fullDevice ∧ tally ≠ ∅ := by
  have hopensAt := congrArg Except.toOption h
  refine iff_of_false Bool.false_ne_true (not_or.2 ⟨not_not_intro ?_, ?_⟩)
  · obtain ⟨directory, name, -, hopens⟩ := FileSystem.opensAt_eq_some_iff.1 hopensAt
    exact ⟨directory, name, hopens⟩
  · rintro ⟨directory, name, hopens, hnode, htally⟩
    have hsame : world.files.opensAt path = some (directory ++ [name]) :=
      FileSystem.opensAt_eq_some_iff.2 ⟨directory, name, rfl, hopens⟩
    rw [FileSystem.opensAt, hopensAt] at hsame
    exact hfull.elim (fun hne => hne (Option.some.inj hsame ▸ hnode)) htally

/-- A device that takes what there is to write. -/
theorem writesAllOrNothing_of_hasDevice (hdevice : world.files.HasDevice place)
    (hfull : world.files.node? place ≠ some .fullDevice ∨ tally = ∅) :
    WritesAllOrNothing path tally world none
      { world with log := world.log ++ [.countsSaved path tally.size] } where
  isSome_iff := isSome_iff_of_opens h hfull
  written := by
    intro _
    obtain ⟨directory, name, rfl, hopens⟩ :=
      FileSystem.opensAt_eq_some_iff.1 (congrArg Except.toOption h)
    exact ⟨directory, name, hopens, hopens.leads.directory, fun hno => absurd hdevice hno,
      fun _ => rfl, fun _ _ => rfl⟩
  read?_eq := fun _ hno => absurd ⟨place, congrArg Except.toOption h, hdevice⟩ hno
  failed := fun _ herror => absurd herror.symm (Option.some_ne_none _)
  sameDirectories := .refl _
  log_eq := rfl
  stdout_eq := rfl
  pauses_eq := rfl

/-- A file, or a place for one. -/
theorem writesAllOrNothing_of_not_hasDevice (hdevice : ¬ world.files.HasDevice place) :
    WritesAllOrNothing path tally world none
      { world with
        files := world.files.put place (CountFile.render tally)
        log := world.log ++ [.countsSaved path tally.size] } := by
  have hopensAt := congrArg Except.toOption h
  have hnode := (FileSystem.of_opensAt_eq_some hopensAt).2
  have hself : (world.files.put place (CountFile.render tally)).node? place =
      some (.file (CountFile.render tally)) :=
    FileSystem.node?_put_self (FileSystem.ne_nil_of_node?_ne_directory hnode)
  have hsame := FileSystem.sameDirectories_put hnode (CountFile.render tally)
  constructor
  case isSome_iff =>
    exact isSome_iff_of_opens h (Or.inl fun hfull => hdevice (Or.inr hfull))
  case written =>
    intro _
    obtain ⟨directory, name, rfl, hopens⟩ := FileSystem.opensAt_eq_some_iff.1 hopensAt
    exact ⟨directory, name, hopens, hopens.leads.directory, fun _ => hself,
      fun hyes => absurd hyes hdevice, fun other hother =>
        FileSystem.node?_put_of_ne hother.symm⟩
  case read?_eq =>
    intro _ _
    exact FileSystem.read?_of_node? ((FileSystem.opensAt_congr hsame path).symm.trans hopensAt)
      hself
  case failed => exact fun _ herror => absurd herror.symm (Option.some_ne_none _)
  case sameDirectories => exact hsame
  case log_eq => rfl
  case stdout_eq => rfl
  case pauses_eq => rfl

end

/-- **A count file is written as a whole or not at all**, whatever path it is written to, and
whatever there is. -/
theorem writeTally_allOrNothing (path : String) (tally : Tally κ) (before : World) :
    ∃ error? after, writeTally path tally before = .ok error? after ∧
      WritesAllOrNothing path tally before error? after := by
  cases hlocate : before.files.locate path with
  | error fault =>
    have hsave : before.files.save path (CountFile.render tally) = .error fault := by
      rw [FileSystem.save, hlocate]
      rfl
    exact ⟨_, _, writeTally_of_error hsave, writesAllOrNothing_of_error hlocate⟩
  | ok place =>
    by_cases hdevice : before.files.HasDevice place
    · rcases hdevice with hhole | hfull
      · have hne : before.files.node? place ≠ some .fullDevice := by
          rw [hhole]
          decide
        exact ⟨_, _, writeTally_of_ok (FileSystem.save_of_blackHole hlocate hhole _),
          writesAllOrNothing_of_hasDevice hlocate (Or.inl hhole) (Or.inl hne)⟩
      · have hsave := FileSystem.save_of_fullDevice hlocate hfull (CountFile.render tally)
        by_cases htally : tally = ∅
        · rw [if_pos (String.isEmpty_iff.2 (CountFile.render_eq_empty_iff.2 htally))] at hsave
          exact ⟨_, _, writeTally_of_ok hsave,
            writesAllOrNothing_of_hasDevice hlocate (Or.inr hfull) (Or.inr htally)⟩
        · rw [if_neg fun hempty => htally (CountFile.render_eq_empty_iff.1
            (String.isEmpty_iff.1 hempty))] at hsave
          exact ⟨_, _, writeTally_of_error hsave,
            writesAllOrNothing_of_fullDevice hlocate hfull htally⟩
    · exact ⟨_, _, writeTally_of_ok (FileSystem.save_of_locate hlocate hdevice),
        writesAllOrNothing_of_not_hasDevice hlocate hdevice⟩

end PageCensus
