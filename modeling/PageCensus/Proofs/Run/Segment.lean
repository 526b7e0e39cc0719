import PageCensus.Proofs.Run.RunScript

/-!
# The report in segments

The report of a run is a text, but it is printed in segments: two for each page that was fetched,
and three at the end.  A sink that runs out of room stops the run inside one of them.

* `transcript` — the segments of the report of a run, from the pages alone.
* `segments_runScript` — they are what the script of the run prints.
* `exists_of_stop?_eq_some` — the segment at which a script stops is the one that the first byte
  without room belongs to.
-/

set_option autoImplicit false

namespace PageCensus

/-- A part of the report as it is printed. -/
structure Segment where
  /-- Which part it is. -/
  stage : Stage
  /-- What is printed. -/
  text : String
deriving DecidableEq, Repr

namespace Segment

/-- The number of bytes of a segment. -/
def size (segment : Segment) : Nat := segment.text.utf8ByteSize

/-- The text of several segments, one after the other. -/
def textOf (segments : List Segment) : String := String.join (segments.map text)

/-- The number of bytes of several segments. -/
def totalSize (segments : List Segment) : Nat := (textOf segments).utf8ByteSize

/-- A segment of lines. -/
def ofLines (stage : Stage) (lines : List String) : Segment := ⟨stage, Sink.linesText lines⟩

theorem text_ofLines (stage : Stage) (lines : List String) :
    (ofLines stage lines).text = Sink.linesText lines := rfl

@[simp] theorem textOf_nil : textOf [] = "" := rfl

theorem textOf_cons (segment : Segment) (segments : List Segment) :
    textOf (segment :: segments) = segment.text ++ textOf segments := by
  rw [textOf, List.map_cons, String.join_cons, textOf]

theorem textOf_append (a b : List Segment) : textOf (a ++ b) = textOf a ++ textOf b := by
  rw [textOf, List.map_append, String.join_append, textOf, textOf]

@[simp] theorem totalSize_nil : totalSize [] = 0 := rfl

theorem totalSize_cons (segment : Segment) (segments : List Segment) :
    totalSize (segment :: segments) = segment.size + totalSize segments := by
  rw [totalSize, textOf_cons, String.utf8ByteSize_append, totalSize, size]

theorem totalSize_append (a b : List Segment) : totalSize (a ++ b) = totalSize a + totalSize b := by
  induction a with
  | nil => rw [List.nil_append, totalSize_nil, Nat.zero_add]
  | cons segment a ih => rw [List.cons_append, totalSize_cons, ih, totalSize_cons, Nat.add_assoc]

end Segment

/-! ## The segments of a script -/

/-- The segment that an action prints. -/
def Action.segment? : Action → Option Segment
  | print stage lines => some (.ofLines stage lines)
  | _ => none

theorem Action.text_of_segment?_eq_none {action : Action} (h : action.segment? = none) :
    action.text = "" := by
  cases action with
  | print => cases h
  | report => rfl
  | wait => rfl
  | save => rfl

theorem Action.of_segment?_eq_some {action : Action} {segment : Segment}
    (h : action.segment? = some segment) :
    action.text = segment.text ∧ action.stage? = some segment.stage := by
  cases action with
  | print => cases h; exact ⟨rfl, rfl⟩
  | report => cases h
  | wait => cases h
  | save => cases h

namespace Script

/-- The segments that a script prints. -/
def segments (script : List Action) : List Segment := script.filterMap Action.segment?

theorem segments_append (a b : List Action) : segments (a ++ b) = segments a ++ segments b :=
  List.filterMap_append

theorem segments_cons_of_none {action : Action} (h : action.segment? = none) (rest : List Action) :
    segments (action :: rest) = segments rest := List.filterMap_cons_none h

theorem segments_cons_of_some {action : Action} {segment : Segment}
    (h : action.segment? = some segment) (rest : List Action) :
    segments (action :: rest) = segment :: segments rest := List.filterMap_cons_some h

/-- A script prints its segments. -/
theorem text_eq_textOf (script : List Action) : text script = Segment.textOf (segments script) := by
  induction script with
  | nil => rfl
  | cons action rest ih =>
    rw [text_cons, ih]
    cases h : action.segment? with
    | none => rw [segments_cons_of_none h, Action.text_of_segment?_eq_none h, String.empty_append]
    | some segment =>
      rw [segments_cons_of_some h, Segment.textOf_cons, (Action.of_segment?_eq_some h).1]

theorem size_eq_totalSize (script : List Action) :
    size script = Segment.totalSize (segments script) := by
  rw [size, text_eq_textOf, Segment.totalSize]

/-- **Where a script stops.**  All segments before the one that it stops at fit, and this one does
not. -/
theorem exists_of_stop?_eq_some {room : Option Nat} {script : List Action} {stage : Stage}
    (h : stop? room script = some stage) :
    ∃ before segment after, segments script = before ++ segment :: after ∧ segment.stage = stage ∧
      Sink.fits room (Segment.totalSize before) = true ∧
      Sink.fits room (Segment.totalSize before + segment.size) = false := by
  induction script generalizing room with
  | nil => cases h
  | cons action rest ih =>
    rw [stop?] at h
    cases hsegment : action.segment? with
    | none =>
      have hsize : action.size = 0 := by
        rw [Action.size, Action.text_of_segment?_eq_none hsegment, String.utf8ByteSize_empty]
      rw [hsize, Sink.fits_zero, if_pos rfl, Sink.roomLeft_zero] at h
      rw [segments_cons_of_none hsegment]
      exact ih h
    | some first =>
      obtain ⟨htext, hstage⟩ := Action.of_segment?_eq_some hsegment
      have hsize : action.size = first.size := by rw [Action.size, htext, Segment.size]
      rw [hsize, hstage] at h
      rw [segments_cons_of_some hsegment]
      cases hfits : Sink.fits room first.size with
      | true =>
        rw [if_pos hfits] at h
        obtain ⟨before, segment, after, hsplit, hsegment, hbefore, hover⟩ := ih h
        refine ⟨first :: before, segment, after, by rw [hsplit, List.cons_append], hsegment, ?_, ?_⟩
        · rw [Segment.totalSize_cons, Sink.fits_add, hfits, hbefore, Bool.and_self]
        · rw [Segment.totalSize_cons, Nat.add_assoc, Sink.fits_add, hover, Bool.and_false]
      | false =>
        rw [if_neg (Bool.eq_false_iff.1 hfits)] at h
        refine ⟨[], first, segments rest, rfl, Option.some_inj.1 h, Sink.fits_zero room, ?_⟩
        rw [Segment.totalSize_nil, Nat.zero_add, hfits]

end Script

/-! ## The segments of a run -/

section

variable (config : Config)

/-- The segments for a page: none if it was skipped. -/
def pageSegments (page : Page) : List Segment :=
  match page.result with
  | .ok body => [.ofLines .progress (Report.running page.url),
      .ofLines .pageSummary (Report.pageSummary (Census.ofText body) config.top)]
  | .error _ => []

/-- The segments up to the place where the files are saved. -/
def frontSegments (pages : List Page) : List Segment :=
  pages.flatMap (pageSegments config) ++
    [.ofLines .longestPage (Report.longestPage (longestOf pages)),
      .ofLines .globalSummary (Report.globalSummary (Census.ofTexts (texts pages)) config.top)]

/-- **The report of a run**, in segments. -/
def transcript (pages : List Page) (elapsed : Duration) : List Segment :=
  frontSegments config pages ++ [.ofLines .elapsed (Report.elapsed elapsed)]

end

variable {config : Config}

theorem segments_visitScript (longest : LongestPage) (page : Page) :
    Script.segments (visitScript config longest page) = pageSegments config page := by
  rw [visitScript, pageSegments]
  cases page.result with
  | error error => rfl
  | ok body =>
    show Script.segments (pageScript config longest page.url body) = _
    rw [pageScript, lengthScript]
    split <;> rfl

theorem size_visitScript (longest : LongestPage) (page : Page) :
    Script.size (visitScript config longest page) =
      Segment.totalSize (pageSegments config page) := by
  rw [Script.size_eq_totalSize, segments_visitScript]

theorem segments_visitsScript (longest : LongestPage) (pages : List Page) :
    Script.segments (visitsScript config longest pages) = pages.flatMap (pageSegments config) := by
  induction pages generalizing longest with
  | nil => rfl
  | cons page rest ih =>
    rw [visitsScript, Script.segments_append, ih, segments_visitScript, List.flatMap_cons]

theorem segments_reportScript (pages : List Page) :
    Script.segments (reportScript config pages) = frontSegments config pages := by
  rw [reportScript, Script.segments_cons_of_none rfl, Script.segments_append,
    segments_visitsScript, frontSegments]
  rfl

/-- **What a run prints are the segments of its report.** -/
theorem segments_runScript (pages : List Page) (elapsed : Duration) :
    Script.segments (runScript config pages elapsed) = transcript config pages elapsed := by
  rw [runScript, Script.segments_append, segments_reportScript, transcript]
  rfl

theorem text_runScript (pages : List Page) (elapsed : Duration) :
    Script.text (runScript config pages elapsed) =
      Segment.textOf (transcript config pages elapsed) := by
  rw [Script.text_eq_textOf, segments_runScript]

theorem size_runScript (pages : List Page) (elapsed : Duration) :
    Script.size (runScript config pages elapsed) =
      Segment.totalSize (transcript config pages elapsed) := by
  rw [Script.size_eq_totalSize, segments_runScript]

end PageCensus
