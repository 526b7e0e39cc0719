import PageCensus.Event
import PageCensus.LogFilter.Directive

/-!
# Which events are shown

A filter is a text of directives with commas between them.  Of the directives that are about an
event one decides: the one that no other one is stronger than, and of several the last.  An event
that no directive is about is not shown.

* `LogFilter.ofText?` — reading a filter; a text with a directive that makes no sense is none.
* `LogFilter.shows` — whether an event is shown.
* `LogFilter.choose` — the filter that applies to a run of the program.
-/

set_option autoImplicit false

namespace PageCensus

/-- The directives of a filter, in the order in which they were written. -/
structure LogFilter where
  /-- The directives. -/
  directives : List Directive
deriving DecidableEq, Repr

namespace LogFilter

/-- The filter that a text describes.  Commas without anything between them do not matter. -/
def ofText? (text : String) : Option LogFilter := do
  let written := (pieces (· == ',') text.toList).filter (!·.isEmpty)
  let directives ← written.mapM Directive.ofText?
  return ⟨directives.flatten⟩

/-- The directive that decides about an event. -/
def decisive? (filter : LogFilter) (event : Event) : Option Directive :=
  let origin := event.origin.toList
  let fields := event.fieldNames.map String.toList
  (filter.directives.filter fun directive => directive.isAbout origin fields).foldl
    (fun best directive => match best with
      | none => some directive
      | some other => if directive.isWeakerThan other then best else some directive)
    none

/-- Whether an event is shown. -/
def shows (filter : LogFilter) (event : Event) : Bool :=
  match filter.decisive? event with
  | none => false
  | some directive => event.level.verbosity ≤ directive.verbosity

/-- What is shown when nothing was said about it. -/
def default (verbose : Bool) : LogFilter :=
  if verbose then ⟨[⟨some "pagefreq".toList, none, 4⟩, ⟨none, none, 3⟩]⟩ else ⟨[⟨none, none, 1⟩]⟩

/-- The filter for a run of the program: the one that was set, if it makes sense. -/
def choose (setting : Option String) (verbose : Bool) : LogFilter :=
  (setting.bind ofText?).getD (default verbose)

/-- The default filters as they would be written. -/
example : ofText? "pagefreq=debug,info" = some (default true) ∧
    ofText? "error" = some (default false) ∧ ofText? "" = some ⟨[]⟩ ∧ ofText? "=info" = none := by
  decide

end LogFilter

end PageCensus
