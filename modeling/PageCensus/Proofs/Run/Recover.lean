import PageCensus.Proofs.CountFile.Decode
import PageCensus.Proofs.Run.Files
import PageCensus.Proofs.Run.Reach

/-!
# What can be recovered from the files of a run

A run leaves two files behind, and nothing that it counted is lost in them: the tallies can be read
back, character by character and word by word, from the files alone.

* `Recoverable` — what it means that a census can be read back from the files.
* `Lossless`, `countFiles_lossless` — count files hold all of a tally, and the files of a run all of
  its census.
-/

set_option autoImplicit false

namespace PageCensus

/-- Whether a census can be read back from the files of a run. -/
structure Recoverable (config : Config) (census : Census) (fs : FileSystem) : Prop where
  /-- The counts of characters are in the one file. -/
  chars : ∃ text entries, fs.read? (charsPath config) = some text ∧
    CountFile.decodeChars text = some entries ∧ Tally.ofRanking entries = census.chars
  /-- The counts of words are in the other. -/
  words : ∃ text entries, fs.read? (wordsPath config) = some text ∧
    CountFile.decodeWords text = some entries ∧ Tally.ofRanking entries = census.words

/-- **Count files lose nothing.** -/
structure Lossless : Prop where
  /-- From the file of any counts of characters the entries are read back, in the order of the
  ranking. -/
  chars : ∀ tally : Tally Char, ∃ entries,
    CountFile.decodeChars (CountFile.render tally) = some entries ∧ IsRanking tally entries
  /-- So they are from the file of any counts of words without blanks. -/
  words : ∀ tally : Tally String, CountFile.BlankFree tally → ∃ entries,
    CountFile.decodeWords (CountFile.render tally) = some entries ∧ IsRanking tally entries
  /-- Two files with counts of characters have the same bytes exactly if the counts are the same. -/
  chars_eq_iff : ∀ s t : Tally Char,
    (CountFile.render s).toUTF8 = (CountFile.render t).toUTF8 ↔ s = t
  /-- So do two files with counts of words without blanks. -/
  words_eq_iff : ∀ s t : Tally String, CountFile.BlankFree s → CountFile.BlankFree t →
    ((CountFile.render s).toUTF8 = (CountFile.render t).toUTF8 ↔ s = t)
  /-- After a run that ended well and saved both files, neither of them at a device, its census can
  be read back from them. -/
  run : ∀ (config : Config) (pages : List Page) (elapsed : Duration) (world world' : World)
    (summary : Summary), run config pages elapsed world = .ok summary world' →
    summary.filesWritten = [charsPath config, wordsPath config] →
    (∀ path ∈ summary.filesWritten, ¬ world.files.NamesDevice path) →
    Recoverable config summary.progress.census world'.files

theorem run_recoverable {config : Config} {pages : List Page} {elapsed : Duration}
    {world world' : World} {summary : Summary}
    (h : run config pages elapsed world = .ok summary world')
    (hwritten : summary.filesWritten = [charsPath config, wordsPath config])
    (hdevice : ∀ path ∈ summary.filesWritten, ¬ world.files.NamesDevice path) :
    Recoverable config summary.progress.census world'.files := by
  obtain ⟨hsummary, hfiles⟩ := of_run_eq_ok h
  rw [hwritten] at hdevice
  rw [hsummary] at hwritten ⊢
  obtain ⟨hsave, hsave'⟩ := save_eq_ok_of_saved hwritten
  rw [← hfiles] at hsave'
  obtain ⟨hchars, hwords⟩ := FileSystem.read?_of_save_save hsave hsave'
    (fun _ => opensAt_charsPath_ne) (hdevice _ (by simp)) (hdevice _ (by simp))
  have hblank : CountFile.BlankFree (Census.ofTexts (texts pages)).words :=
    fun _ hword => (Census.isWord_of_mem_words_ofTexts hword).not_blank
  exact ⟨⟨_, _, hchars, CountFile.decodeChars_render _, (Tally.isRanking_ranked _).ofRanking_eq⟩,
    ⟨_, _, hwords, CountFile.decodeWords_render hblank, (Tally.isRanking_ranked _).ofRanking_eq⟩⟩

/-- **Count files lose nothing**: neither of what they are made from nor of what a run counted. -/
theorem countFiles_lossless : Lossless := by
  constructor
  case chars =>
    exact fun tally => ⟨_, CountFile.decodeChars_render tally, Tally.isRanking_ranked tally⟩
  case words =>
    exact fun tally h => ⟨_, CountFile.decodeWords_render h, Tally.isRanking_ranked tally⟩
  case chars_eq_iff =>
    intro s t
    have hreads : ∀ tally : Tally Char, ∀ c ∈ tally, CountFile.charKey.Reads c :=
      fun _ c _ => CountFile.reads_charKey c
    exact ⟨CountFile.render_injective (hreads s) (hreads t), fun h => by rw [h]⟩
  case words_eq_iff =>
    intro s t hs ht
    exact ⟨CountFile.render_injective hs.reads ht.reads, fun h => by rw [h]⟩
  case run =>
    intro config pages elapsed world world' summary h hwritten hdevice
    exact run_recoverable h hwritten hdevice

/-- A page with line feeds and equals signs among its characters, and a word that looks like the end
of a line. -/
theorem countFiles_lossless_of_line_feeds :
    let fs : FileSystem := ⟨∅, []⟩
    let pages : List Page := [⟨"http://a/", .ok "= 1\n=\n\n=1"⟩]
    ∃ summary world', run {} pages ⟨0, 0⟩ (.start .unlimited fs) = .ok summary world' ∧
      summary.filesWritten = ["./allchars.txt", "./allwords.txt"] ∧
      (∀ path ∈ summary.filesWritten, ¬ fs.NamesDevice path) ∧
      Recoverable {} summary.progress.census world'.files := by
  intro fs pages
  have hplain : fs.Plain := FileSystem.plain_of_empty []
  have hmerge : Census.empty.mergeAll? (texts pages) = some (.ofTexts (texts pages)) :=
    mergeAll?_texts (by decide)
  have hrun : run {} pages ⟨0, 0⟩ (.start .unlimited fs) = _ := run_of_fits hmerge rfl
  have hwritten : Script.saved fs (runScript {} pages ⟨0, 0⟩) =
      ["./allchars.txt", "./allwords.txt"] := by
    rw [saved_runScript, saved_filesScript hplain]
    rfl
  have hdevice : ∀ path ∈ Script.saved fs (runScript {} pages ⟨0, 0⟩), ¬ fs.NamesDevice path :=
    fun path _ ⟨place, _, hdevice⟩ => hplain place hdevice
  exact ⟨_, _, hrun, hwritten, hdevice,
    countFiles_lossless.run {} pages ⟨0, 0⟩ _ _ _ hrun hwritten hdevice⟩

end PageCensus
