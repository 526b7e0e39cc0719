/-!
# Where the report goes

A sink takes bytes until its room is used up.  A text that does not fit is not lost altogether: the
bytes that still fit are taken, and then the sink reports its fault.  A text of no bytes always
fits.

* `Sink.write`, `Sink.writeLines` — write a text, or lines one after the other up to the first
  fault.
* `writeLines_append` — stopping at the first fault is the same for a list of lines and for its
  parts in turn.
-/

set_option autoImplicit false

namespace PageCensus

/-- Why a sink takes no more bytes. -/
inductive WriteFault where
  /-- Nobody reads at the other end. -/
  | pipeClosed
  /-- The device has no space. -/
  | deviceFull
deriving DecidableEq, Repr

/-- How a fault is worded. -/
def WriteFault.message : WriteFault → String
  | pipeClosed => "pipe closed"
  | deviceFull => "No space left on device (os error 28)"

/-- A byte stream that may come to an end. -/
structure Sink where
  /-- The bytes taken so far. -/
  written : ByteArray
  /-- How many more bytes are taken; none means any number. -/
  room : Option Nat
  /-- What is reported when the room is used up. -/
  fault : WriteFault

namespace Sink

/-- A sink that takes everything. -/
def unlimited : Sink := ⟨.empty, none, .pipeClosed⟩

/-- A sink that takes `room` bytes. -/
def limited (room : Nat) (fault : WriteFault) : Sink := ⟨.empty, some room, fault⟩

/-- Write a text.  The bytes that fit are taken in any case; the result is the fault if not all of
them did. -/
def write (sink : Sink) (text : String) : Sink × Option WriteFault :=
  let bytes := text.toUTF8
  match sink.room with
  | none => ({ sink with written := sink.written ++ bytes }, none)
  | some room =>
    if bytes.size ≤ room then
      ({ sink with written := sink.written ++ bytes, room := some (room - bytes.size) }, none)
    else
      ({ sink with written := sink.written ++ bytes.extract 0 room, room := some 0 },
        some sink.fault)

/-- Write lines, each followed by a line feed, up to the first fault. -/
def writeLines (sink : Sink) : List String → Sink × Option WriteFault
  | [] => (sink, none)
  | line :: rest =>
    match sink.write (line ++ "\n") with
    | (sink, none) => sink.writeLines rest
    | (sink, some fault) => (sink, some fault)

@[simp] theorem writeLines_nil (sink : Sink) : sink.writeLines [] = (sink, none) := rfl

theorem writeLines_append (sink : Sink) (a b : List String) :
    sink.writeLines (a ++ b) =
      match sink.writeLines a with
      | (sink, none) => sink.writeLines b
      | (sink, some fault) => (sink, some fault) := by
  induction a generalizing sink with
  | nil => rfl
  | cons line rest ih =>
    simp only [List.cons_append, writeLines]
    rcases sink.write (line ++ "\n") with ⟨sink, _ | fault⟩ <;> simp [ih]

end Sink

end PageCensus
