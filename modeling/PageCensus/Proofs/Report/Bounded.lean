import PageCensus.Proofs.Stream
import PageCensus.Report

/-!
# Printing into bounded room

Each part of a report is printed line by line, and each line piece by piece, so room can run out
inside a character, inside a piece, between two pieces or between two lines.  Wherever that is, what
has been taken is the front of the part, and nothing is tried behind the line that did not fit.

* `Report.Part` — the parts of a report, with their lines and the pieces of these.
* `exists_cut` — the line at which the room is used up.
* `Part.PrintsIntoRoom`, `part_printsIntoRoom` — how any part is printed into any room.
-/

set_option autoImplicit false

namespace PageCensus

namespace Sink

/-- Behind a line with a fault nothing more is written. -/
theorem writeLines_append_of_fault {sink : Sink} {lines : List String} {fault : WriteFault}
    (h : (sink.writeLines lines).2 = some fault) (later : List String) :
    sink.writeLines (lines ++ later) = sink.writeLines lines := by
  rw [writeLines_append]
  rcases hlines : sink.writeLines lines with ⟨after, _ | fault'⟩
  · rw [hlines] at h
    cases h
  · rfl

/-- Lines that are written into bounded room. -/
theorem writeLines_eq_of_room (written : ByteArray) (room : Nat) (fault : WriteFault)
    (lines : List String) :
    (Sink.mk written (some room) fault).writeLines lines =
      (⟨written ++ (linesText lines).toUTF8.extract 0 (min room (linesText lines).utf8ByteSize),
        some (room - (linesText lines).utf8ByteSize), fault⟩,
        if (linesText lines).utf8ByteSize ≤ room then none else some fault) := by
  rw [writeLines_eq_write, write_eq]
  generalize linesText lines = text
  have hextract : text.toUTF8.extract 0 (min room text.utf8ByteSize) =
      text.toUTF8.extract 0 room := by
    rcases Nat.le_total room text.utf8ByteSize with h | h
    · rw [Nat.min_eq_left h]
    · rw [Nat.min_eq_right h, extract_toUTF8_of_le h, extract_toUTF8_of_le (Nat.le_refl _)]
  rw [hextract, offered, Option.getD_some]
  simp only [fits_some]
  rfl

/-- **The line at which room is used up**: the lines in front of it fit, and it does not. -/
theorem exists_cut {lines : List String} {room : Nat}
    (h : room < (linesText lines).utf8ByteSize) :
    ∃ k < lines.length, (linesText (lines.take k)).utf8ByteSize ≤ room ∧
      room < (linesText (lines.take (k + 1))).utf8ByteSize := by
  induction lines generalizing room with
  | nil => exact absurd h (Nat.not_lt_zero _)
  | cons line rest ih =>
    rw [linesText_cons, String.utf8ByteSize_append] at h
    by_cases hline : room < (line ++ "\n").utf8ByteSize
    · refine ⟨0, Nat.zero_lt_succ _, Nat.zero_le _, ?_⟩
      rw [List.take_succ_cons, List.take_zero, linesText_cons, linesText_nil, String.append_empty]
      exact hline
    · have hrest : room - (line ++ "\n").utf8ByteSize < (linesText rest).utf8ByteSize := by omega
      obtain ⟨k, hk, hfits, hover⟩ := ih hrest
      refine ⟨k + 1, Nat.succ_lt_succ hk, ?_, ?_⟩
      · rw [List.take_succ_cons, linesText_cons, String.utf8ByteSize_append]
        omega
      · rw [List.take_succ_cons, linesText_cons, String.utf8ByteSize_append]
        omega

end Sink

namespace Report

/-! ## Parts, lines, pieces -/

/-- A part of the report, as it is printed at once. -/
inductive Part where
  /-- A page is about to be reported. -/
  | running (url : String)
  /-- The summary of a page. -/
  | pageSummary (census : Census) (top : Nat)
  /-- The longest of all pages. -/
  | longestPage (longest : LongestPage)
  /-- The summary of all pages. -/
  | globalSummary (census : Census) (top : Nat)
  /-- How long the run took. -/
  | elapsed (time : Duration)

namespace Part

/-- The lines of a part, without line feeds. -/
def lines : Part → List String
  | running url => Report.running url
  | pageSummary census top => Report.pageSummary census top
  | longestPage longest => Report.longestPage longest
  | globalSummary census top => Report.globalSummary census top
  | elapsed time => Report.elapsed time

/-- The pieces in which the lines of a part are written. -/
def pieces : Part → List (List String)
  | running url => [["Running ", url, "\n"]]
  | pageSummary census top =>
    [["Number of unique chars: ", toString census.chars.size, "\n"],
      ["Most used chars ", list (census.chars.top top), "\n"],
      ["Number of unique words: ", toString census.words.size, "\n"],
      ["Most used words ", list (census.words.top top), "\n"]]
  | longestPage ⟨some url, _⟩ => [["Longest page ", url, "\n"]]
  | longestPage ⟨none, _⟩ => [["Longest page none\n"]]
  | globalSummary census top =>
    [["Global most used chars ", list (census.chars.top top), "\n"],
      ["Global most used words ", list (census.words.top top), "\n"]]
  | elapsed time => [["Elapsed: ", toString time.milliseconds, "ms\n"]]

/-- The text of a part. -/
def text (part : Part) : String := Sink.linesText part.lines

/-- **The pieces of each line make the line.** -/
theorem map_join_pieces (part : Part) :
    part.pieces.map String.join = part.lines.map fun line => line ++ "\n" := by
  have hjoin : ∀ a b : String, String.join [a, b, "\n"] = a ++ b ++ "\n" := fun a b => by
    rw [String.join_cons, String.join_cons, String.join_cons, String.join_nil,
      String.append_empty, String.append_assoc]
  cases part with
  | running url => exact congrArg (fun line => [line]) (hjoin _ _)
  | pageSummary census top =>
    simp only [pieces, lines, Report.pageSummary, List.map_cons, List.map_nil, hjoin]
  | longestPage longest =>
    obtain ⟨_ | url, length⟩ := longest
    · rfl
    · exact congrArg (fun line => [line]) (hjoin _ _)
  | globalSummary census top =>
    simp only [pieces, lines, Report.globalSummary, List.map_cons, List.map_nil, hjoin]
  | elapsed time =>
    simp only [pieces, lines, Report.elapsed, List.map_cons, List.map_nil, String.join_cons,
      String.join_nil, String.append_empty, String.append_assoc]
    rfl

end Part

/-- **How a part of a report is printed into bounded room.** -/
structure Part.PrintsIntoRoom (part : Part) : Prop where
  /-- Without a bound all of it is printed. -/
  unbounded : Sink.unlimited.writeLines part.lines =
    ({ Sink.unlimited with written := part.text.toUTF8 }, none)
  /-- With room for so many bytes its first bytes are taken, up to the room; what is left is the
  room for the others, and there is a fault exactly if not all of them fit. -/
  bounded : ∀ (written : ByteArray) (room : Nat) (fault : WriteFault),
    (Sink.mk written (some room) fault).writeLines part.lines =
      (⟨written ++ part.text.toUTF8.extract 0 (min room part.text.utf8ByteSize),
        some (room - part.text.utf8ByteSize), fault⟩,
        if part.text.utf8ByteSize ≤ room then none else some fault)
  /-- The pieces in which its lines are offered to a stream make up these lines. -/
  join_pieces : part.pieces.map String.join = part.lines.map fun line => line ++ "\n"
  /-- A stream takes the same bytes, in whatever portions it takes what it is offered.  Empty pieces
  are not offered to it. -/
  streamed : ∀ stream : Stream, Stream.Wrote stream (bytesOf part.text)
    (stream.writeLines part.pieces).1 (stream.writeLines part.pieces).2
  /-- Where not everything fits there is a first line that does not, and nothing behind it is tried:
  whatever stood there, what was taken and what was offered would be the same. -/
  cut : ∀ room < part.text.utf8ByteSize, ∃ k < part.lines.length,
    (Sink.linesText (part.lines.take k)).utf8ByteSize ≤ room ∧
    room < (Sink.linesText (part.lines.take (k + 1))).utf8ByteSize ∧
    (∀ sink : Sink, sink.room = some room → ∀ later : List String,
      sink.writeLines (part.lines.take (k + 1) ++ later) = sink.writeLines part.lines) ∧
    (∀ stream : Stream, stream.room = room → ∀ later : List (List String),
      stream.writeLines (part.pieces.take (k + 1) ++ later) = stream.writeLines part.pieces)

/-! ## Printing -/

theorem join_flatten (pieces : List (List String)) :
    String.join pieces.flatten = String.join (pieces.map String.join) := by
  induction pieces with
  | nil => rfl
  | cons line rest ih =>
    rw [List.flatten_cons, String.join_append, List.map_cons, String.join_cons, ih]

/-- The first lines of a part are written with the bytes that they have. -/
theorem flatMap_take_pieces (part : Part) (k : Nat) :
    (part.pieces.take k).flatten.flatMap bytesOf =
      bytesOf (Sink.linesText (part.lines.take k)) := by
  rw [flatMap_bytesOf, join_flatten, List.map_take, part.map_join_pieces, ← List.map_take,
    Sink.linesText]

theorem flatMap_pieces (part : Part) : part.pieces.flatten.flatMap bytesOf = bytesOf part.text := by
  rw [flatMap_bytesOf, join_flatten, part.map_join_pieces, Part.text, Sink.linesText]

/-- **Every part of a report is printed so**, into any room. -/
theorem part_printsIntoRoom (part : Part) : part.PrintsIntoRoom where
  unbounded := by
    rw [Sink.writeLines_eq_write]
    rfl
  bounded := fun written room fault => Sink.writeLines_eq_of_room written room fault part.lines
  join_pieces := part.map_join_pieces
  streamed := fun stream => by
    rw [← flatMap_pieces]
    exact stream.writeLines_wrote part.pieces
  cut := by
    intro room hover
    obtain ⟨k, hk, hfits, hcut⟩ := Sink.exists_cut hover
    refine ⟨k, hk, hfits, hcut, fun sink hroom later => ?_, fun stream hroom later => ?_⟩
    · obtain ⟨written, _, fault⟩ := sink
      cases hroom
      have hfault : ((Sink.mk written (some room) fault).writeLines
          (part.lines.take (k + 1))).2 = some fault := by
        rw [Sink.writeLines_eq_of_room, if_neg (Nat.not_le_of_lt hcut)]
      rw [Sink.writeLines_append_of_fault hfault,
        ← Sink.writeLines_append_of_fault hfault (part.lines.drop (k + 1)),
        List.take_append_drop]
    · have hwrote := stream.writeLines_wrote (part.pieces.take (k + 1))
      rw [flatMap_take_pieces] at hwrote
      have hfault : (stream.writeLines (part.pieces.take (k + 1))).2 = some stream.fault := by
        rw [hwrote.fault?_eq, length_bytesOf, hroom, if_neg (Nat.not_le_of_lt hcut)]
      rw [Stream.writeLines_append_of_fault hfault,
        ← Stream.writeLines_append_of_fault hfault (part.pieces.drop (k + 1)),
        List.take_append_drop]

end Report
end PageCensus
