import PageCensus.LongestPage
import PageCensus.Tally.Census

/-!
# The lines of the report

Each function gives the lines, without line feeds, that one step of a run adds to the report.

* `Report.running`, `Report.pageSummary` — for each page that was fetched.
* `Report.longestPage`, `Report.globalSummary`, `Report.elapsed` — at the end.
* `Report.list` — ranked entries as they stand in these lines.
-/

set_option autoImplicit false

namespace PageCensus

/-- A length of time. -/
structure Duration where
  /-- Whole seconds. -/
  seconds : Nat
  /-- The rest, in nanoseconds. -/
  nanoseconds : Nat
deriving DecidableEq, Repr

/-- The whole milliseconds of a length of time. -/
def Duration.milliseconds (time : Duration) : Nat :=
  time.seconds * 1000 + time.nanoseconds / 1000000

namespace Report

variable {κ : Type} [Token κ]

/-- Entries in brackets, in the given order. -/
def list (entries : List (Entry κ)) : String :=
  "[" ++ ", ".intercalate (entries.map Entry.text) ++ "]"

/-- A page is about to be reported. -/
def running (url : String) : List String := ["Running " ++ url]

/-- The sizes of the two tallies of a page and their `top` first entries. -/
def pageSummary (census : Census) (top : Nat) : List String :=
  ["Number of unique chars: " ++ toString census.chars.size,
    "Most used chars " ++ list (census.chars.top top),
    "Number of unique words: " ++ toString census.words.size,
    "Most used words " ++ list (census.words.top top)]

/-- The longest of all pages. -/
def longestPage (longest : LongestPage) : List String :=
  ["Longest page " ++ longest.url.getD "none"]

/-- The `top` first entries of the tallies of all pages. -/
def globalSummary (census : Census) (top : Nat) : List String :=
  ["Global most used chars " ++ list (census.chars.top top),
    "Global most used words " ++ list (census.words.top top)]

/-- How long the run took. -/
def elapsed (time : Duration) : List String :=
  ["Elapsed: " ++ toString time.milliseconds ++ "ms"]

end Report

end PageCensus
