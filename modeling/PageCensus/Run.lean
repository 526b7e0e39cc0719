import PageCensus.Event
import PageCensus.Report
import PageCensus.Sink

/-!
# A run over a list of pages

A run visits pages in order.  A page that could not be fetched is skipped.  Every other page is
announced, counted and summarised, compared with the longest page so far, added to the tallies of
the whole run, and followed by a pause.  In the end the results of all pages are printed and saved.

Everything a run does to the outside is recorded in `World`, so that a run is a function: from the
pages and the world before it to an outcome and the world after it.  Only two things end a run
early: its output takes no more bytes, or a count leaves the 64 bits that are kept for it.  A file
that cannot be written is reported and otherwise ignored.

* `visit`, `visitAll` — one page, and all of them.
* `writeTally`, `saveTally` — one count file.
* `run` — a run from start to end.
-/

set_option autoImplicit false

namespace PageCensus

/-- A page to visit, and what came of fetching it: its text, or the reason why there is none. -/
structure Page where
  /-- The address, as it was given. -/
  url : String
  /-- The text, or why there is none. -/
  result : Except FetchError String

/-- What can be chosen about a run. -/
structure Config where
  /-- How many entries of each ranking are printed. -/
  top : Nat := 5
  /-- How long to wait after each page, in milliseconds. -/
  delay : Nat := 500
  /-- The directory of the count files. -/
  outputDirectory : String := "."
deriving DecidableEq, Repr

/-- The parts of the report. -/
inductive Stage where
  /-- The announcement of a page. -/
  | progress
  /-- The summary of a page. -/
  | pageSummary
  /-- The longest page. -/
  | longestPage
  /-- The summary of all pages. -/
  | globalSummary
  /-- The time that the run took. -/
  | elapsed
deriving DecidableEq, Repr

/-- What is said of a part of the report that could not be printed. -/
def Stage.context : Stage → String
  | progress => "Failed to write progress"
  | pageSummary => "Failed to write page summary"
  | longestPage => "Failed to write longest page"
  | globalSummary => "Failed to write global summary"
  | elapsed => "Failed to write elapsed time"

/-- Why a run ended early. -/
inductive RunError where
  /-- A part of the report could not be printed. -/
  | output (stage : Stage) (fault : WriteFault)
  /-- A count does not fit into 64 bits. -/
  | countOverflow
deriving DecidableEq, Repr

/-- How the error is worded. -/
def RunError.message : RunError → String
  | output stage fault => stage.context ++ ": " ++ fault.message
  | countOverflow => "attempt to add with overflow"

/-- What a run acts on, with a record of what it did. -/
structure World where
  /-- Where the report goes. -/
  stdout : Sink
  /-- The files. -/
  files : FileSystem
  /-- The pauses made so far, in milliseconds. -/
  pauses : List Nat
  /-- The events so far. -/
  log : List Event

/-- A step of a run: it may end the run, and keeps what it did to the world even then. -/
abbrev RunStep := EStateM RunError World

namespace RunStep

/-- Report an event. -/
def emit (event : Event) : RunStep Unit :=
  modify fun world => { world with log := world.log ++ [event] }

/-- Wait. -/
def pause (milliseconds : Nat) : RunStep Unit :=
  modify fun world => { world with pauses := world.pauses ++ [milliseconds] }

/-- Print a part of the report. -/
def print (stage : Stage) (lines : List String) : RunStep Unit := fun world =>
  match world.stdout.writeLines lines with
  | (sink, none) => .ok () { world with stdout := sink }
  | (sink, some fault) => .error (.output stage fault) { world with stdout := sink }

end RunStep

open RunStep

/-- What is known of the pages visited so far. -/
structure Progress where
  /-- The tallies of all of them. -/
  census : Census
  /-- The longest of them. -/
  longest : LongestPage
  /-- How many were fetched. -/
  fetched : Nat
  /-- How many were skipped. -/
  skipped : Nat

/-- Before the first page. -/
def Progress.start : Progress := ⟨.empty, .initial, 0, 0⟩

/-- What a run found. -/
structure Summary where
  /-- What is known of all pages. -/
  progress : Progress
  /-- The paths of the count files that were written. -/
  filesWritten : List String
  /-- How long the run took. -/
  elapsed : Duration

/-- Compare a page with the longest so far. -/
def observeLength (longest : LongestPage) (url : String) (length : Nat) : RunStep LongestPage := do
  let longer := longest.observe url length
  if longest.isBeatenBy length then
    emit (.longestPageFound url longer.length)
  return longer

/-- Add the tallies of a page to those of the run. -/
def addCensus (census page : Census) : RunStep Census :=
  match census.merge? page with
  | some sum => return sum
  | none => throw .countOverflow

/-- Report a page that was fetched. -/
def visitFetched (config : Config) (progress : Progress) (url body : String) :
    RunStep Progress := do
  print .progress (Report.running url)
  let page := Census.ofText body
  emit (.pageCounted page.chars.size page.words.size)
  print .pageSummary (Report.pageSummary page config.top)
  let longest ← observeLength progress.longest url body.length
  let census ← addCensus progress.census page
  pause config.delay
  return { progress with census, longest, fetched := progress.fetched + 1 }

/-- Visit a page. -/
def visit (config : Config) (progress : Progress) (page : Page) : RunStep Progress :=
  match page.result with
  | .error error => do
    emit (.pageSkipped page.url error)
    return { progress with skipped := progress.skipped + 1 }
  | .ok body => visitFetched config progress page.url body

/-- Visit pages in order. -/
def visitAll (config : Config) (progress : Progress) (pages : List Page) : RunStep Progress :=
  pages.foldlM (visit config) progress

/-- Write a tally to a file; the result is the error, if there is one. -/
def writeTally {κ : Type} [Token κ] (path : String) (tally : Tally κ) :
    RunStep (Option SaveError) := do
  let (files, error?) := CountFile.write (← get).files path tally
  modify fun world => { world with files }
  if error?.isNone then
    emit (.countsSaved path tally.size)
  return error?

/-- Save a tally in a file, if that is possible; the result is the path if it was. -/
def saveTally {κ : Type} [Token κ] (path : String) (tally : Tally κ) : RunStep (List String) := do
  match ← writeTally path tally with
  | none => return [path]
  | some error =>
    emit (.countsNotSaved error)
    return []

/-- A run from start to end.  How long it took is measured from outside. -/
def run (config : Config) (pages : List Page) (elapsed : Duration) : RunStep Summary := do
  emit (.runStarted pages.length)
  let progress ← visitAll config .start pages
  print .longestPage (Report.longestPage progress.longest)
  print .globalSummary (Report.globalSummary progress.census config.top)
  let charsFile ← saveTally (joinPath config.outputDirectory CountFile.charsName)
    progress.census.chars
  let wordsFile ← saveTally (joinPath config.outputDirectory CountFile.wordsName)
    progress.census.words
  print .elapsed (Report.elapsed elapsed)
  emit (.runCompleted progress.fetched progress.skipped)
  return ⟨progress, charsFile ++ wordsFile, elapsed⟩

end PageCensus
