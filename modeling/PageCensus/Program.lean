import PageCensus.CommandLine.Message
import PageCensus.LogFilter.Basic
import PageCensus.Run
import PageCensus.UrlList

/-!
# The program

The program reads its command line, and then gives the help or the version, says what is wrong,
prints the list of addresses, or makes a run over these addresses.

* `Launch` — how the program was started.
* `execute` — what it does then, and how it ends.
-/

set_option autoImplicit false

namespace PageCensus

/-- How the program was started. -/
structure Launch where
  /-- The path by which it was started. -/
  path : Option String
  /-- The words behind it. -/
  words : List String
  /-- The setting for the log, if there is one. -/
  logSetting : Option String

/-- How the program ended, and the world it left. -/
structure Outcome where
  /-- Zero if it ended well. -/
  exitCode : Nat
  /-- What it said besides the report and the log. -/
  stderr : String
  /-- The events that are shown. -/
  shown : List Event
  /-- The world after it. -/
  world : World

/-- Print lines; a program that cannot even do that says so and ends badly. -/
def printList (world : World) (lines : List String) : Outcome :=
  match world.stdout.writeLines lines with
  | (sink, none) => ⟨0, "", [], { world with stdout := sink }⟩
  | (sink, some fault) =>
    ⟨101, "failed printing to stdout: " ++ fault.message ++ "\n", [], { world with stdout := sink }⟩

/-- Make a run over the pages, with the events that `filter` shows. -/
def runPages (filter : LogFilter) (config : Config) (pages : List Page) (elapsed : Duration)
    (world : World) : Outcome :=
  match run config pages elapsed world with
  | .ok summary world =>
    let world := { world with
      log := world.log ++ [.programDone summary.progress.fetched summary.progress.skipped
        summary.filesWritten.length] }
    ⟨0, "", world.log.filter filter.shows, world⟩
  | .error .countOverflow world =>
    ⟨101, RunError.countOverflow.message ++ "\n", world.log.filter filter.shows, world⟩
  | .error error world =>
    let world := { world with log := world.log ++ [.programFailed error.message] }
    ⟨1, "", world.log.filter filter.shows, world⟩

/-- Do what a command line says. -/
def executeArguments (arguments : Arguments) (logSetting : Option String)
    (fetch : String → Except FetchError String) (elapsed : Duration) (world : World) : Outcome :=
  match arguments.invalid? with
  | some reason => ⟨1, "Error: " ++ reason ++ "\n", [], world⟩
  | none =>
    if arguments.listUrls then printList world UrlList.default
    else
      let filter := LogFilter.choose logSetting arguments.verbose
      let config : Config := { top := arguments.top, delay := arguments.delay }
      let pages := UrlList.default.map fun url => (⟨url, fetch url⟩ : Page)
      runPages filter config pages elapsed world

/-- What the program does, where `fetch` gives the pages. -/
def execute (launch : Launch) (fetch : String → Except FetchError String) (elapsed : Duration)
    (world : World) : Outcome :=
  match Arguments.parse launch.words with
  | .ok arguments => executeArguments arguments launch.logSetting fetch elapsed world
  | .error halt =>
    let text := halt.text (programName launch.path)
    match halt with
    | .refused _ => ⟨halt.exitCode, text, [], world⟩
    | _ => ⟨halt.exitCode, "", [], { world with stdout := (world.stdout.write text).1 }⟩

end PageCensus
