import PageCensus.Proofs.Sink
import PageCensus.Proofs.Text.ByteOrder

/-!
# Streams that take bytes in portions

A sink is given a text and takes what fits.  With a stream it is not that simple.  It is offered
bytes and takes some of them, as many as it likes but at least one; the rest is offered again, until
nothing is left or the stream reports a fault.  Nor is it offered whole lines: a line comes in
pieces, the fixed words and the values between them, and a piece can be empty, in which case nothing
is offered for it.

None of this matters for what is taken.  It is the front of all that was to be written, up to the
room that there was, and there is a fault exactly if that was not everything.

* `Stream.offer` — what a stream does with bytes that it is offered.
* `Stream.writeBytes`, `Stream.writePieces`, `Stream.writeLines` — offer bytes until all are taken;
  write pieces, and lines of pieces, up to the first fault.
* `Stream.Wrote` — what comes of writing some bytes, and `writeLines_wrote`, that lines come to it.
* `Stream.writeLines_append_of_fault` — behind a line with a fault nothing more is offered.
-/

set_option autoImplicit false

namespace PageCensus

/-- A stream that takes a number of bytes and then faults. -/
structure Stream where
  /-- The bytes taken so far. -/
  taken : List UInt8
  /-- How many more bytes are taken. -/
  room : Nat
  /-- What is reported when the room is used up. -/
  fault : WriteFault
  /-- What was offered so far, whether it was taken or not. -/
  offers : List (List UInt8)
  /-- How many bytes, besides the first one, are taken at once, after these offers. -/
  portion : List (List UInt8) → Nat

namespace Stream

/-- Offer bytes.  The result is how many of them were taken, or the fault. -/
def offer (stream : Stream) (bytes : List UInt8) : Stream × Except WriteFault Nat :=
  let offers := stream.offers ++ [bytes]
  if bytes ≠ [] ∧ stream.room = 0 then ({ stream with offers }, .error stream.fault)
  else
    let size := min bytes.length (min stream.room (stream.portion offers + 1))
    ({ stream with offers, taken := stream.taken ++ bytes.take size, room := stream.room - size },
      .ok size)

/-- Offer bytes until all of them are taken, up to the first fault. -/
def writeBytes (stream : Stream) (bytes : List UInt8) : Stream × Option WriteFault :=
  match bytes with
  | [] => (stream, none)
  | first :: rest =>
    match stream.offer (first :: rest) with
    | (stream, .error fault) => (stream, some fault)
    | (stream, .ok size) => stream.writeBytes (rest.drop (size - 1))
termination_by bytes.length
decreasing_by
  rw [List.length_drop, List.length_cons]
  omega

/-- Write the pieces of a line up to the first fault. -/
def writePieces (stream : Stream) : List String → Stream × Option WriteFault
  | [] => (stream, none)
  | piece :: rest =>
    match stream.writeBytes (bytesOf piece) with
    | (stream, none) => stream.writePieces rest
    | (stream, some fault) => (stream, some fault)

/-- Write lines up to the first fault. -/
def writeLines (stream : Stream) : List (List String) → Stream × Option WriteFault
  | [] => (stream, none)
  | line :: rest =>
    match stream.writePieces line with
    | (stream, none) => stream.writeLines rest
    | (stream, some fault) => (stream, some fault)

/-! ## What comes of writing -/

/-- **What comes of writing some bytes** to a stream. -/
structure Wrote (before : Stream) (bytes : List UInt8) (after : Stream)
    (fault? : Option WriteFault) : Prop where
  /-- What fits is taken. -/
  taken_eq : after.taken = before.taken ++ bytes.take before.room
  /-- So much room is left. -/
  room_eq : after.room = before.room - bytes.length
  /-- There is a fault exactly if not everything fits, and it is that of the stream. -/
  fault?_eq : fault? = if bytes.length ≤ before.room then none else some before.fault
  /-- Any fault to come is the same. -/
  fault_eq : after.fault = before.fault
  /-- Nothing was offered where there was nothing to write. -/
  offers_eq : ∃ offers, after.offers = before.offers ++ offers ∧ [] ∉ offers

namespace Wrote

variable {before middle after : Stream} {bytes rest : List UInt8} {fault? : Option WriteFault}
  {fault : WriteFault}

theorem nil (stream : Stream) : Wrote stream [] stream none where
  taken_eq := by rw [List.take_nil, List.append_nil]
  room_eq := rfl
  fault?_eq := (if_pos (Nat.zero_le _)).symm
  fault_eq := rfl
  offers_eq := ⟨[], (List.append_nil _).symm, List.not_mem_nil⟩

theorem length_le (h : Wrote before bytes after none) : bytes.length ≤ before.room := by
  have hfault := h.fault?_eq
  by_cases hle : bytes.length ≤ before.room
  · exact hle
  · rw [if_neg hle] at hfault
    cases hfault

theorem lt_length (h : Wrote before bytes after (some fault)) : before.room < bytes.length := by
  have hfault := h.fault?_eq
  by_cases hle : bytes.length ≤ before.room
  · rw [if_pos hle] at hfault
    cases hfault
  · exact Nat.lt_of_not_le hle

/-- More can be written behind what was written without a fault. -/
theorem append (h : Wrote before bytes middle none) (h' : Wrote middle rest after fault?) :
    Wrote before (bytes ++ rest) after fault? := by
  have hle := h.length_le
  constructor
  case taken_eq =>
    rw [h'.taken_eq, h.taken_eq, h.room_eq, List.append_assoc, List.take_append,
      List.take_of_length_le hle]
  case room_eq => rw [h'.room_eq, h.room_eq, List.length_append, Nat.sub_sub]
  case fault?_eq =>
    have hiff : rest.length ≤ middle.room ↔ (bytes ++ rest).length ≤ before.room := by
      rw [h.room_eq, List.length_append]
      omega
    rw [h'.fault?_eq, h.fault_eq]
    simp only [hiff]
  case fault_eq => rw [h'.fault_eq, h.fault_eq]
  case offers_eq =>
    obtain ⟨offers, hoffers, hnil⟩ := h.offers_eq
    obtain ⟨offers', hoffers', hnil'⟩ := h'.offers_eq
    refine ⟨offers ++ offers', by rw [hoffers', hoffers, List.append_assoc], ?_⟩
    exact fun hmem => (List.mem_append.1 hmem).elim hnil hnil'

/-- Behind a fault it makes no difference how much more there was to write. -/
theorem append_of_fault (h : Wrote before bytes after (some fault)) (rest : List UInt8) :
    Wrote before (bytes ++ rest) after (some fault) := by
  have hlt := h.lt_length
  constructor
  case taken_eq => rw [h.taken_eq, List.take_append_of_le_length (Nat.le_of_lt hlt)]
  case room_eq => rw [h.room_eq, List.length_append]; omega
  case fault?_eq =>
    have hlt' : ¬ (bytes ++ rest).length ≤ before.room := by
      rw [List.length_append]
      omega
    rw [h.fault?_eq, if_neg (Nat.not_le_of_lt hlt), if_neg hlt']
  case fault_eq => exact h.fault_eq
  case offers_eq => exact h.offers_eq

end Wrote

/-- A stream without room takes none of the bytes that it is offered. -/
theorem offer_of_full {stream : Stream} {bytes : List UInt8} (hbytes : bytes ≠ [])
    (h : stream.room = 0) :
    ∃ after, stream.offer bytes = (after, .error stream.fault) ∧
      Wrote stream bytes after (some stream.fault) := by
  refine ⟨_, if_pos ⟨hbytes, h⟩, ?_⟩
  constructor
  case taken_eq => rw [h, List.take_zero, List.append_nil]
  case room_eq => show stream.room = _; omega
  case fault?_eq =>
    have hlength := List.length_pos_iff.2 hbytes
    rw [if_neg (by omega)]
  case fault_eq => rfl
  case offers_eq => exact ⟨[bytes], rfl, fun hmem => hbytes (List.mem_singleton.1 hmem).symm⟩

/-- A stream with room takes some of the bytes that it is offered. -/
theorem offer_of_room {stream : Stream} {bytes : List UInt8} (hbytes : bytes ≠ [])
    (h : 0 < stream.room) :
    ∃ after size, stream.offer bytes = (after, .ok size) ∧ 0 < size ∧
      Wrote stream (bytes.take size) after none := by
  have hlength := List.length_pos_iff.2 hbytes
  have hnotFull : ¬ (bytes ≠ [] ∧ stream.room = 0) := fun hfull => by omega
  refine ⟨_, _, if_neg hnotFull, by omega, ?_⟩
  generalize hsize : min bytes.length _ = size
  have hroom : size ≤ stream.room := by omega
  have htake : (bytes.take size).length = size := List.length_take_of_le (by omega)
  constructor
  case taken_eq =>
    have hall : (bytes.take size).take stream.room = bytes.take size :=
      List.take_of_length_le (Nat.le_trans (Nat.le_of_eq htake) hroom)
    rw [hall]
  case room_eq => rw [htake]
  case fault?_eq => rw [htake, if_pos hroom]
  case fault_eq => rfl
  case offers_eq => exact ⟨[bytes], rfl, fun hmem => hbytes (List.mem_singleton.1 hmem).symm⟩

/-- **Bytes are taken as far as there is room**, in whatever portions. -/
theorem writeBytes_wrote (stream : Stream) (bytes : List UInt8) :
    Wrote stream bytes (stream.writeBytes bytes).1 (stream.writeBytes bytes).2 := by
  fun_induction writeBytes stream bytes with
  | case1 stream => exact .nil stream
  | case2 stream first rest after fault heq =>
    rcases Nat.eq_zero_or_pos stream.room with hfull | hroom
    · obtain ⟨after', hoffer, hwrote⟩ := offer_of_full (List.cons_ne_nil first rest) hfull
      rw [heq] at hoffer
      obtain ⟨rfl, hfault⟩ := Prod.mk.inj hoffer
      exact Except.error.inj hfault ▸ hwrote
    · obtain ⟨after', size, hoffer, -⟩ := offer_of_room (List.cons_ne_nil first rest) hroom
      rw [heq] at hoffer
      cases (Prod.mk.inj hoffer).2
  | case3 stream first rest middle size heq ih =>
    rcases Nat.eq_zero_or_pos stream.room with hfull | hroom
    · obtain ⟨after', hoffer, -⟩ := offer_of_full (List.cons_ne_nil first rest) hfull
      rw [heq] at hoffer
      cases (Prod.mk.inj hoffer).2
    · obtain ⟨middle', size', hoffer, hpos, hwrote⟩ :=
        offer_of_room (List.cons_ne_nil first rest) hroom
      rw [heq] at hoffer
      obtain ⟨rfl, hsize⟩ := Prod.mk.inj hoffer
      obtain rfl := Except.ok.inj hsize
      -- what was taken, and what is offered next, are together what was to be written
      obtain ⟨more, rfl⟩ := Nat.exists_eq_succ_of_ne_zero (Nat.ne_of_gt hpos)
      have hsplit : first :: rest =
          (first :: rest).take (more + 1) ++ rest.drop (more + 1 - 1) := by
        rw [Nat.add_sub_cancel, List.take_succ_cons, List.cons_append, List.take_append_drop]
      rw [hsplit]
      exact hwrote.append ih

/-- So are pieces. -/
theorem writePieces_wrote (stream : Stream) (pieces : List String) :
    Wrote stream (pieces.flatMap bytesOf) (stream.writePieces pieces).1
      (stream.writePieces pieces).2 := by
  induction pieces generalizing stream with
  | nil => exact .nil stream
  | cons piece rest ih =>
    have hpiece := stream.writeBytes_wrote (bytesOf piece)
    rw [writePieces, List.flatMap_cons]
    split
    · next middle heq =>
      rw [heq] at hpiece
      exact hpiece.append (ih middle)
    · next after fault heq =>
      rw [heq] at hpiece
      exact hpiece.append_of_fault _

/-- **So are lines.** -/
theorem writeLines_wrote (stream : Stream) (lines : List (List String)) :
    Wrote stream (lines.flatten.flatMap bytesOf) (stream.writeLines lines).1
      (stream.writeLines lines).2 := by
  induction lines generalizing stream with
  | nil => exact .nil stream
  | cons line rest ih =>
    have hline := stream.writePieces_wrote line
    rw [writeLines, List.flatten_cons, List.flatMap_append]
    split
    · next middle heq =>
      rw [heq] at hline
      exact hline.append (ih middle)
    · next after fault heq =>
      rw [heq] at hline
      exact hline.append_of_fault _

/-- **Behind a line with a fault nothing more is offered.** -/
theorem writeLines_append_of_fault {stream : Stream} {lines : List (List String)}
    {fault : WriteFault} (h : (stream.writeLines lines).2 = some fault)
    (later : List (List String)) :
    stream.writeLines (lines ++ later) = stream.writeLines lines := by
  induction lines generalizing stream with
  | nil => cases h
  | cons line rest ih =>
    rw [writeLines] at h
    rw [List.cons_append, writeLines, writeLines]
    rcases hline : stream.writePieces line with ⟨middle, _ | fault'⟩
    · rw [hline] at h
      exact ih h
    · rfl

end Stream
end PageCensus
