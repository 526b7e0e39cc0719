import PageCensus.Proofs.Run.Files
import PageCensus.Proofs.Run.Reach

/-!
# Histories of runs

Runs that follow each other share a file system and nothing else.  A run may find the files of an
earlier one, under the same path or under another spelling of it; it may be told to save where there
is no directory, or where a directory stands in place of its file; and it may be stopped before it
saves anything.  What is in a file in the end was put there, as a whole, by the latest run that got
so far and could open it.

* `Session`, `afterSessions` — a run without the files it finds, and the files after several runs.
* `Session.textAt?`, `latestText?` — what a run puts at a place, and what the latest of several runs
  did, told from the file system before the first.
* `FileHistory`, `FileAttempts` — what becomes of the files over a history, and what the next run
  makes of them.
* `fileHistory_afterSessions` — both hold of all histories.

**One file system is enough** to tell what all runs can open, although each changes it: a run puts
files only where no directory is, and what can be opened depends on the directories alone.
-/

set_option autoImplicit false

namespace PageCensus

/-- A run, with everything about it but the files that it finds. -/
structure Session where
  /-- What was chosen about the run. -/
  config : Config
  /-- The pages, and what came of fetching them. -/
  pages : List Page
  /-- How long the run took. -/
  elapsed : Duration
  /-- Where its report goes. -/
  stdout : Sink

namespace Session

/-- How a run ends that finds some files. -/
def ending (session : Session) (fs : FileSystem) : Ending Summary :=
  (run session.config session.pages session.elapsed).ending (.start session.stdout fs)

/-- The files after a run. -/
def files (session : Session) (fs : FileSystem) : FileSystem := (session.ending fs).world.files

/-- Whether the fetched texts have fewer characters than a count can hold. -/
def Countable (session : Session) : Prop := totalLength (texts session.pages) < countLimit

/-- The tallies of all fetched texts. -/
def census (session : Session) : Census := .ofTexts (texts session.pages)

/-- Whether the output has room for everything that is printed before the files are saved. -/
def reachesFiles (session : Session) : Bool :=
  Sink.fits session.stdout.room (Segment.totalSize (frontSegments session.config session.pages))

/-- The text that a run puts at a place, if it puts any. -/
def textAt? (session : Session) (fs : FileSystem) (place : Place) : Option String :=
  if !session.reachesFiles then none
  else if fs.opensAt (charsPath session.config) = some place then
    some (CountFile.render session.census.chars)
  else if fs.opensAt (wordsPath session.config) = some place then
    some (CountFile.render session.census.words)
  else none

end Session

/-- The files after several runs, one after the other. -/
def afterSessions (fs : FileSystem) (sessions : List Session) : FileSystem :=
  sessions.foldl (fun fs session => session.files fs) fs

/-- The text that was put at a place by the latest of several runs to put one there, if any did. -/
def latestText? (fs : FileSystem) (sessions : List Session) (place : Place) : Option String :=
  (sessions.filterMap fun session => session.textAt? fs place).getLast?

/-- **What becomes of the files over a history of runs.** -/
structure FileHistory (fs : FileSystem) (sessions : List Session) : Prop where
  /-- At each place there is what the latest run to put a text there put there, and what was there
  at first if there was no such run. -/
  node : ∀ place, (afterSessions fs sessions).node? place =
    ((latestText? fs sessions place).map Node.file).or (fs.node? place)
  /-- No directory is made, moved or removed. -/
  directory_iff : ∀ place, (afterSessions fs sessions).node? place = some .directory ↔
    fs.node? place = some .directory
  /-- The working directory stays the same. -/
  home : (afterSessions fs sessions).home = fs.home
  /-- What can be opened, and where it is then, stays the same. -/
  opensAt : ∀ path, (afterSessions fs sessions).opensAt path = fs.opensAt path

/-- **What a run makes of the files that it finds.** -/
structure FileAttempts (fs : FileSystem) (session : Session) : Prop where
  /-- A run gets to its files if it ends well or with its very last print. -/
  reaches_iff : session.reachesFiles = true ↔
    (∃ summary, (session.ending fs).outcome = .ok summary) ∨
      ∃ fault, (session.ending fs).outcome = .error (.output .elapsed fault)
  /-- If it does and can open the file of the characters, it replaces it as a whole, whatever
  becomes of the other file. -/
  chars : session.reachesFiles = true → ∀ place,
    fs.opensAt (charsPath session.config) = some place →
      (session.files fs).node? place = some (.file (CountFile.render session.census.chars))
  /-- So it does with the file of the words. -/
  words : session.reachesFiles = true → ∀ place,
    fs.opensAt (wordsPath session.config) = some place →
      (session.files fs).node? place = some (.file (CountFile.render session.census.words))
  /-- The tallies of the summary are those that are saved. -/
  census : ∀ summary, (session.ending fs).outcome = .ok summary →
    summary.progress.census = session.census
  /-- The summary lists the files that could be opened, the characters first. -/
  written : ∀ summary, (session.ending fs).outcome = .ok summary → summary.filesWritten =
    [charsPath session.config, wordsPath session.config].filter fun path => (fs.opensAt path).isSome
  /-- Nothing else in the outcome shows which files there are, or whether they could be saved. -/
  outcome : ∀ gs,
    (session.ending gs).outcome.map (fun summary => (summary.progress, summary.elapsed)) =
      (session.ending fs).outcome.map fun summary => (summary.progress, summary.elapsed)
  /-- Neither does what is printed. -/
  stdout : ∀ gs, (session.ending gs).world.stdout = (session.ending fs).world.stdout

/-! ## One run -/

namespace Session

variable {session : Session} {fs gs : FileSystem}

theorem ending_eq (h : session.Countable) (fs : FileSystem) :
    session.ending fs =
      ⟨match Script.stop? session.stdout.room
          (runScript session.config session.pages session.elapsed) with
        | none => .ok ⟨foundBy session.pages,
          Script.saved fs (filesScript session.config session.census), session.elapsed⟩
        | some stage => .error (.output stage session.stdout.fault),
      (World.start session.stdout fs).afterAll
        (runScript session.config session.pages session.elapsed)⟩ := by
  have hending : session.ending fs = _ :=
    ending_run (mergeAll?_texts h) session.elapsed (.start session.stdout fs)
  rw [saved_runScript] at hending
  exact hending

/-- A run that gets to its files saves the characters and then the words. -/
theorem files_eq (h : session.Countable) (fs : FileSystem) :
    session.files fs =
      if session.reachesFiles then
        (saveAction (wordsPath session.config) session.census.words).files
          ((saveAction (charsPath session.config) session.census.chars).files fs)
      else fs := by
  rw [files, ending_eq h]
  exact files_reached_runScript fs session.stdout.room session.pages session.elapsed

theorem textAt?_congr (h : FileSystem.SameDirectories fs gs) (place : Place) :
    session.textAt? fs place = session.textAt? gs place := by
  rw [textAt?, textAt?, FileSystem.opensAt_congr h, FileSystem.opensAt_congr h]

theorem textAt?_charsPath (hreach : session.reachesFiles = true) {place : Place}
    (h : fs.opensAt (charsPath session.config) = some place) :
    session.textAt? fs place = some (CountFile.render session.census.chars) := by
  rw [textAt?, hreach, if_neg (by simp), if_pos h]

theorem textAt?_wordsPath (hreach : session.reachesFiles = true) {place : Place}
    (h : fs.opensAt (wordsPath session.config) = some place) :
    session.textAt? fs place = some (CountFile.render session.census.words) := by
  have hne : fs.opensAt (charsPath session.config) ≠ some place := fun h' =>
    opensAt_charsPath_ne h' h
  rw [textAt?, hreach, if_neg (by simp), if_neg hne, if_pos h]

/-- **A run changes what it puts a text at**, and nothing else. -/
theorem node?_files (hcount : session.Countable) (hplain : fs.Plain) (place : Place) :
    (session.files fs).node? place =
      ((session.textAt? fs place).map Node.file).or (fs.node? place) := by
  rw [files_eq hcount]
  cases hreach : session.reachesFiles with
  | false =>
    rw [textAt?, hreach]
    rfl
  | true =>
    have hwords : ((saveAction (charsPath session.config) session.census.chars).files fs).opensAt
        (wordsPath session.config) = fs.opensAt (wordsPath session.config) :=
      (FileSystem.opensAt_congr (sameDirectories_files_saveAction hplain _ _) _).symm
    rw [if_pos rfl, node?_files_saveAction (plain_files_saveAction hplain _ _), hwords,
      node?_files_saveAction hplain]
    by_cases hopen : fs.opensAt (charsPath session.config) = some place
    · rw [if_neg (opensAt_charsPath_ne hopen), if_pos hopen, textAt?_charsPath hreach hopen]
      rfl
    · by_cases hopen' : fs.opensAt (wordsPath session.config) = some place
      · rw [if_pos hopen', textAt?_wordsPath hreach hopen']
        rfl
      · rw [if_neg hopen', if_neg hopen, textAt?, if_neg hopen, if_neg hopen', ite_self]
        rfl

/-- A run makes no devices. -/
theorem plain_files (hcount : session.Countable) (hplain : fs.Plain) :
    (session.files fs).Plain := by
  rw [files_eq hcount]
  split
  · exact plain_files_saveAction (plain_files_saveAction hplain _ _) _ _
  · exact hplain

/-- **A run changes no directory.** -/
theorem sameDirectories_files (hcount : session.Countable) (hplain : fs.Plain) :
    FileSystem.SameDirectories fs (session.files fs) := by
  rw [files_eq hcount]
  split
  · exact (sameDirectories_files_saveAction hplain _ _).trans
      (sameDirectories_files_saveAction (plain_files_saveAction hplain _ _) _ _)
  · exact .refl fs

theorem fileAttempts (hcount : session.Countable) (hplain : fs.Plain) :
    FileAttempts fs session := by
  constructor
  case reaches_iff =>
    rw [ending_eq hcount]
    cases hreach : session.reachesFiles with
    | true =>
      rcases stop?_runScript_of_fits hreach session.elapsed with hstop | hstop
      · rw [hstop]
        exact ⟨fun _ => Or.inl ⟨_, rfl⟩, fun _ => rfl⟩
      · rw [hstop]
        exact ⟨fun _ => Or.inr ⟨_, rfl⟩, fun _ => rfl⟩
    | false =>
      obtain ⟨stage, hstage, hstop⟩ := stop?_runScript_of_not_fits hreach session.elapsed
      rw [hstop]
      refine ⟨fun h => absurd h Bool.false_ne_true, ?_⟩
      rintro (⟨summary, hsummary⟩ | ⟨fault, hfault⟩)
      · cases hsummary
      · cases hfault
        exact absurd rfl hstage
  case chars =>
    intro hreach place hopen
    rw [node?_files hcount hplain, textAt?_charsPath hreach hopen]
    rfl
  case words =>
    intro hreach place hopen
    rw [node?_files hcount hplain, textAt?_wordsPath hreach hopen]
    rfl
  case census =>
    intro summary hsummary
    rw [ending_eq hcount] at hsummary
    split at hsummary
    · cases hsummary
      rfl
    · cases hsummary
  case written =>
    intro summary hsummary
    rw [ending_eq hcount] at hsummary
    split at hsummary
    · cases hsummary
      exact saved_filesScript hplain _ _
    · cases hsummary
  case outcome =>
    intro gs
    rw [ending_eq hcount, ending_eq hcount]
    cases Script.stop? session.stdout.room
      (runScript session.config session.pages session.elapsed) with
    | none => simp only [Except.map]
    | some stage => rfl
  case stdout =>
    intro gs
    rw [ending_eq hcount, ending_eq hcount]
    rfl

end Session

/-! ## Several runs -/

section

variable {fs gs : FileSystem} {sessions : List Session}

theorem afterSessions_cons (fs : FileSystem) (session : Session) (rest : List Session) :
    afterSessions fs (session :: rest) = afterSessions (session.files fs) rest := rfl

theorem latestText?_cons (fs : FileSystem) (session : Session) (rest : List Session)
    (place : Place) :
    latestText? fs (session :: rest) place =
      (latestText? fs rest place).or (session.textAt? fs place) := by
  rw [latestText?, latestText?, List.filterMap_cons]
  cases session.textAt? fs place with
  | none => rw [Option.or_none]
  | some text =>
    show List.getLast? (text :: _) = _
    rw [List.getLast?_cons]
    cases (rest.filterMap fun session => session.textAt? fs place).getLast? with
    | none => rfl
    | some last => rfl

theorem plain_afterSessions (hplain : fs.Plain) (hcount : ∀ session ∈ sessions, session.Countable) :
    (afterSessions fs sessions).Plain := by
  induction sessions generalizing fs with
  | nil => exact hplain
  | cons session rest ih =>
    obtain ⟨hfirst, hrest⟩ := List.forall_mem_cons.1 hcount
    exact ih (session.plain_files hfirst hplain) hrest

theorem sameDirectories_afterSessions (hplain : fs.Plain)
    (hcount : ∀ session ∈ sessions, session.Countable) :
    FileSystem.SameDirectories fs (afterSessions fs sessions) := by
  induction sessions generalizing fs with
  | nil => exact .refl fs
  | cons session rest ih =>
    obtain ⟨hfirst, hrest⟩ := List.forall_mem_cons.1 hcount
    exact (session.sameDirectories_files hfirst hplain).trans
      (ih (session.plain_files hfirst hplain) hrest)

/-- **The latest text counts.**  The induction starts anywhere in a history, at files `gs` with the
directories of those at its beginning, which are all that matters to where later runs put texts. -/
theorem node?_afterSessions (hplain : gs.Plain)
    (hcount : ∀ session ∈ sessions, session.Countable)
    (hdirectories : FileSystem.SameDirectories fs gs) (place : Place) :
    (afterSessions gs sessions).node? place =
      ((latestText? fs sessions place).map Node.file).or (gs.node? place) := by
  induction sessions generalizing gs with
  | nil => rfl
  | cons session rest ih =>
    obtain ⟨hfirst, hrest⟩ := List.forall_mem_cons.1 hcount
    rw [afterSessions_cons, ih (session.plain_files hfirst hplain) hrest
      (hdirectories.trans (session.sameDirectories_files hfirst hplain)),
      session.node?_files hfirst hplain, ← Session.textAt?_congr hdirectories, ← Option.or_assoc,
      ← Option.map_or, latestText?_cons]

/-- **Histories of runs.**  Where there are only files and directories at first, and no run fetches
more characters than a count can hold, every place holds what was last put there, and every run
makes of the files that it finds what it would make of them on its own. -/
theorem fileHistory_afterSessions (hplain : fs.Plain)
    (hcount : ∀ session ∈ sessions, session.Countable) :
    FileHistory fs sessions ∧
      ∀ session, session.Countable → FileAttempts (afterSessions fs sessions) session := by
  have hdirectories := sameDirectories_afterSessions hplain hcount
  constructor
  · constructor
    case node => exact node?_afterSessions hplain hcount (.refl fs)
    case directory_iff => exact fun place => (hdirectories.directory_iff place).symm
    case home => exact hdirectories.home.symm
    case opensAt => exact fun path => (FileSystem.opensAt_congr hdirectories path).symm
  · intro session hsession
    exact session.fileAttempts hsession (plain_afterSessions hplain hcount)

end

/-- Three runs in an empty file system: the first saves its files, the second is told to do so where
there is no directory, and the third is stopped before. -/
theorem fileHistory_of_three :
    let fs : FileSystem := ⟨∅, []⟩
    let page (text : String) : List Page := [⟨"http://a/", .ok text⟩]
    let sessions : List Session := [⟨{}, page "to be or not", ⟨0, 0⟩, .unlimited⟩,
      ⟨{ outputDirectory := "missing" }, page "to be", ⟨0, 0⟩, .unlimited⟩,
      ⟨{}, page "not", ⟨0, 0⟩, .limited 20 .pipeClosed⟩]
    fs.Plain ∧ (∀ session ∈ sessions, session.Countable) ∧ FileHistory fs sessions ∧
      ∀ session, session.Countable → FileAttempts (afterSessions fs sessions) session := by
  intro fs page sessions
  have hplain : fs.Plain := FileSystem.plain_of_empty []
  have hcount : ∀ session ∈ sessions, session.Countable := by
    simp only [sessions, List.forall_mem_cons, List.not_mem_nil]
    refine ⟨?_, ?_, ?_, by simp⟩
    · show totalLength (texts (page "to be or not")) < countLimit
      decide
    · show totalLength (texts (page "to be")) < countLimit
      decide
    · show totalLength (texts (page "not")) < countLimit
      decide
  exact ⟨hplain, hcount, fileHistory_afterSessions hplain hcount⟩

end PageCensus
