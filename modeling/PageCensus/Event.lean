import PageCensus.CountFile
import PageCensus.Fetch.Error
import PageCensus.Text.Quoted

/-!
# Events

While the program works it reports what happens as events.  They go to a log of their own, never
into the report, and which of them are shown is up to a filter; that is why every event has a level
and names the part of the program that it comes from.

* `Event` — what can happen.
* `Event.level`, `Event.origin`, `Event.message`, `Event.fields` — how an event is recorded.
* `Event.fieldNames` — what filters can ask for.
* `Event.line` — how it is written down.
-/

set_option autoImplicit false

namespace PageCensus

/-- How important an event is. -/
inductive Level where
  /-- Something failed. -/
  | error
  /-- Something is suspicious. -/
  | warn
  /-- A step was taken. -/
  | info
  /-- Details of a step. -/
  | debug
  /-- More than anyone wants to know. -/
  | trace
deriving DecidableEq, Repr

namespace Level

/-- The name of a level. -/
def name : Level → String
  | error => "ERROR"
  | warn => "WARN"
  | info => "INFO"
  | debug => "DEBUG"
  | trace => "TRACE"

/-- How much is shown from this level on: the number of levels that are at least as important. -/
def verbosity : Level → Nat
  | error => 1
  | warn => 2
  | info => 3
  | debug => 4
  | trace => 5

end Level

/-- What can happen. -/
inductive Event where
  /-- A run begins. -/
  | runStarted (urlCount : Nat)
  /-- A page could not be fetched. -/
  | pageSkipped (url : String) (error : FetchError)
  /-- The tallies of a page were made. -/
  | pageCounted (uniqueChars uniqueWords : Nat)
  /-- A page is longer than all before it. -/
  | longestPageFound (url : String) (length : Int)
  /-- A count file was written. -/
  | countsSaved (path : String) (entries : Nat)
  /-- A count file was not written. -/
  | countsNotSaved (error : SaveError)
  /-- A run is over. -/
  | runCompleted (fetched skipped : Nat)
  /-- A server answered that something is wrong. -/
  | statusIgnored (url : String) (status : Nat)
  /-- A page was fetched. -/
  | pageFetched (url : String) (bytes : Nat)
  /-- The program is about to end well. -/
  | programDone (fetched skipped filesWritten : Nat)
  /-- The program is about to end badly. -/
  | programFailed (reason : String)
deriving DecidableEq, Repr

/-- What a field of an event holds. -/
inductive FieldValue where
  /-- A text that is shown between quotes. -/
  | quotedText (text : String)
  /-- A text that is shown as it is. -/
  | plainText (text : String)
  /-- A number. -/
  | number (value : Int)
deriving DecidableEq, Repr

/-- How the value of a field is written down. -/
def FieldValue.text : FieldValue → String
  | quotedText text => quoted text
  | plainText text => text
  | number value => toString value

namespace Event

/-- How important an event is. -/
def level : Event → Level
  | runStarted .. => .info
  | pageSkipped .. => .error
  | pageCounted .. => .debug
  | longestPageFound .. => .info
  | countsSaved .. => .info
  | countsNotSaved .. => .error
  | runCompleted .. => .info
  | statusIgnored .. => .warn
  | pageFetched .. => .debug
  | programDone .. => .info
  | programFailed .. => .error

/-- The part of the program that an event comes from, as filters name it. -/
def origin : Event → String
  | runStarted .. => "pagefreq::run"
  | pageSkipped .. => "pagefreq::run"
  | pageCounted .. => "pagefreq::counter"
  | longestPageFound .. => "pagefreq::run"
  | countsSaved .. => "pagefreq::output"
  | countsNotSaved .. => "pagefreq::run"
  | runCompleted .. => "pagefreq::run"
  | statusIgnored .. => "pagefreq::fetch"
  | pageFetched .. => "pagefreq::fetch"
  | programDone .. => "pagefreq"
  | programFailed .. => "pagefreq"

/-- What an event says. -/
def message : Event → String
  | runStarted .. => "Starting run"
  | pageSkipped .. => "Skipping page"
  | pageCounted .. => "Counted page"
  | longestPageFound .. => "New longest page"
  | countsSaved .. => "Wrote counts file"
  | countsNotSaved .. => "Failed to write counts file"
  | runCompleted .. => "Run completed"
  | statusIgnored .. => "Non-success status, using body anyway"
  | pageFetched .. => "Fetched page"
  | programDone .. => "Done"
  | programFailed reason => "Error: " ++ reason

/-- The two fields with which most events begin: what was done, and by which component. -/
def headFields (action component : String) : List (String × FieldValue) :=
  [("action", .quotedText action), ("component", .quotedText component)]

/-- The details of an event. -/
def fields : Event → List (String × FieldValue)
  | runStarted urlCount => headFields "start" "run" ++ [("url_count", .number urlCount)]
  | pageSkipped url error =>
    headFields "fetch" "run" ++ [("url", .quotedText url), ("error", .plainText error.message)]
  | pageCounted uniqueChars uniqueWords =>
    headFields "count" "counter" ++
      [("unique_chars", .number uniqueChars), ("unique_words", .number uniqueWords)]
  | longestPageFound url length =>
    headFields "update" "longest_page" ++ [("url", .plainText url), ("length", .number length)]
  | countsSaved path entries =>
    headFields "complete" "output" ++
      [("file_path", .plainText (quoted path)), ("entries", .number entries)]
  | countsNotSaved error =>
    headFields "write" "run" ++ [("error", .plainText error.message)]
  | runCompleted fetched skipped =>
    headFields "complete" "run" ++
      [("pages_fetched", .number fetched), ("pages_skipped", .number skipped)]
  | statusIgnored url status =>
    headFields "fetch" "http" ++ [("url", .quotedText url), ("status", .number status)]
  | pageFetched url bytes =>
    headFields "complete" "http" ++ [("url", .quotedText url), ("bytes", .number bytes)]
  | programDone fetched skipped filesWritten =>
    [("pages_fetched", .number fetched), ("pages_skipped", .number skipped),
      ("files_written", .number filesWritten)]
  | programFailed _ => []

/-- Whether it is measured how long what an event reports took.  How long that was is not kept. -/
def isTimed : Event → Bool
  | countsSaved .. => true
  | runCompleted .. => true
  | pageFetched .. => true
  | _ => false

/-- The names under which a filter finds what an event says, how long it took, and its details. -/
def fieldNames (event : Event) : List String :=
  "message" :: (if event.isTimed then ["duration_ms"] else []) ++ event.fields.map Prod.fst

/-- How an event is written down: its level, what it says, and its details. -/
def line (event : Event) : String :=
  " ".intercalate ([event.level.name, event.message] ++
    event.fields.map fun field => field.1 ++ "=" ++ field.2.text)

end Event

end PageCensus
