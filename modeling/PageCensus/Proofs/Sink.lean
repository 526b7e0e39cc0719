import PageCensus.Sink

/-!
# Writing into bounded room

A sink takes what fits and then faults.  All that matters about what was written so far is the room
it left, and in which portions a text arrives does not matter at all: the bytes kept in the end are
those of the whole text, up to the room.

* `write_eq` — a write in one equation: what is kept (`offered`) and whether there is a fault
  (`fits`).
* `offered_append`, `fits_add` — a text may be offered in two portions.
* `writeLines_eq_write` — lines are written as if they were one text.
-/

set_option autoImplicit false

namespace PageCensus
namespace Sink

/-! ## Room -/

/-- Whether `n` bytes fit into some room; no bound at all is room for everything. -/
def fits (room : Option Nat) (n : Nat) : Bool := room.all fun r => n ≤ r

/-- The room that `n` bytes leave. -/
def roomLeft (room : Option Nat) (n : Nat) : Option Nat := room.map fun r => r - n

@[simp] theorem fits_none (n : Nat) : fits none n = true := rfl

theorem fits_some {r n : Nat} : fits (some r) n = true ↔ n ≤ r := by
  rw [fits, Option.all_some, decide_eq_true_iff]

@[simp] theorem fits_zero (room : Option Nat) : fits room 0 = true := by
  cases room with
  | none => rfl
  | some r => exact fits_some.2 (Nat.zero_le r)

@[simp] theorem roomLeft_zero (room : Option Nat) : roomLeft room 0 = room := by
  cases room with
  | none => rfl
  | some r => rfl

theorem roomLeft_add (room : Option Nat) (m n : Nat) :
    roomLeft room (m + n) = roomLeft (roomLeft room m) n := by
  cases room with
  | none => rfl
  | some r => exact congrArg some (Nat.sub_add_eq r m n)

/-- Two portions fit exactly when the first does and the second fits into what it leaves. -/
theorem fits_add (room : Option Nat) (m n : Nat) :
    fits room (m + n) = (fits room m && fits (roomLeft room m) n) := by
  cases room with
  | none => rfl
  | some r =>
    rw [Bool.eq_iff_iff, Bool.and_eq_true, roomLeft, Option.map_some, fits_some, fits_some,
      fits_some]
    omega

/-! ## Offering a text -/

/-- A sink after a text was offered to it, whether all of it was taken or not. -/
def offered (sink : Sink) (text : String) : Sink where
  written := sink.written ++ text.toUTF8.extract 0 (sink.room.getD text.utf8ByteSize)
  room := roomLeft sink.room text.utf8ByteSize
  fault := sink.fault

/-- The text of lines, with a line feed behind each. -/
def linesText (lines : List String) : String := String.join (lines.map fun line => line ++ "\n")

@[simp] theorem room_offered (sink : Sink) (text : String) :
    (sink.offered text).room = roomLeft sink.room text.utf8ByteSize := rfl

theorem extract_toUTF8_of_le {text : String} {n : Nat} (h : text.utf8ByteSize ≤ n) :
    text.toUTF8.extract 0 n = text.toUTF8 := by
  have hsize : text.toUTF8.data.size ≤ n := h
  refine ByteArray.ext ?_
  rw [ByteArray.data_extract, Array.extract_eq_self_of_le hsize]

/-- **A write in one equation.** -/
theorem write_eq (sink : Sink) (text : String) :
    sink.write text =
      (sink.offered text, if fits sink.room text.utf8ByteSize then none else some sink.fault) := by
  obtain ⟨written, room, fault⟩ := sink
  cases room with
  | none =>
    rw [write, offered, Option.getD_none, extract_toUTF8_of_le (Nat.le_refl _)]
    rfl
  | some r =>
    show (if text.utf8ByteSize ≤ r then _ else _) = _
    by_cases h : text.utf8ByteSize ≤ r
    · rw [if_pos h, if_pos (fits_some.2 h), offered, Option.getD_some, extract_toUTF8_of_le h]
      rfl
    · rw [if_neg h, if_neg fun hfits => h (fits_some.1 hfits), offered, roomLeft,
        Option.map_some, Nat.sub_eq_zero_of_le (Nat.le_of_not_le h)]
      rfl

@[simp] theorem offered_empty (sink : Sink) : sink.offered "" = sink := by
  obtain ⟨written, room, fault⟩ := sink
  rw [offered, String.utf8ByteSize_empty, roomLeft_zero]
  have hnone : ("".toUTF8).extract 0 (room.getD 0) = ByteArray.empty := by
    rw [ByteArray.extract_eq_empty_iff]
    exact Nat.min_le_right _ _
  rw [hnone, ByteArray.append_empty]

/-- **A text may be offered in two portions**, even if the first is already too much. -/
theorem offered_append (sink : Sink) (a b : String) :
    sink.offered (a ++ b) = (sink.offered a).offered b := by
  obtain ⟨written, room, fault⟩ := sink
  have hbytes : (a ++ b).toUTF8.extract 0 (room.getD (a ++ b).utf8ByteSize) =
      a.toUTF8.extract 0 (room.getD a.utf8ByteSize) ++
        b.toUTF8.extract 0 ((roomLeft room a.utf8ByteSize).getD b.utf8ByteSize) := by
    have happend : (a ++ b).toUTF8 = a.toUTF8 ++ b.toUTF8 := String.toByteArray_append
    have hsize : a.toUTF8.size = a.utf8ByteSize := rfl
    cases room with
    | none =>
      rw [roomLeft, Option.map_none, Option.getD_none, Option.getD_none, Option.getD_none,
        extract_toUTF8_of_le (Nat.le_refl _), extract_toUTF8_of_le (Nat.le_refl _),
        extract_toUTF8_of_le (Nat.le_refl _), happend]
    | some r =>
      rw [roomLeft, Option.map_some, Option.getD_some, Option.getD_some, Option.getD_some, happend,
        ByteArray.extract_append, Nat.zero_sub, hsize]
  rw [offered, offered, offered, hbytes, String.utf8ByteSize_append, roomLeft_add,
    ByteArray.append_assoc]

/-- Once a text did not fit, nothing more is taken. -/
theorem offered_append_of_not_fits {sink : Sink} {a : String}
    (h : fits sink.room a.utf8ByteSize = false) (b : String) :
    sink.offered (a ++ b) = sink.offered a := by
  have hroom : roomLeft sink.room a.utf8ByteSize = some 0 := by
    cases hr : sink.room with
    | none => rw [hr] at h; cases h
    | some r =>
      rw [hr] at h
      have hlt : ¬ a.utf8ByteSize ≤ r := fun hle => by rw [fits_some.2 hle] at h; cases h
      exact congrArg some (Nat.sub_eq_zero_of_le (Nat.le_of_not_le hlt))
  have hempty : b.toUTF8.extract 0 0 = ByteArray.empty := ByteArray.extract_same
  rw [offered_append]
  generalize hnext : sink.offered a = next
  have hnone : next.room = some 0 := by rw [← hnext, room_offered, hroom]
  rw [offered, hnone, Option.getD_some, hempty, ByteArray.append_empty, roomLeft, Option.map_some,
    Nat.zero_sub, ← hnone]

@[simp] theorem linesText_nil : linesText [] = "" := rfl

theorem linesText_cons (line : String) (lines : List String) :
    linesText (line :: lines) = line ++ "\n" ++ linesText lines := by
  rw [linesText, List.map_cons, String.join_cons, linesText]

theorem linesText_append (a b : List String) : linesText (a ++ b) = linesText a ++ linesText b := by
  rw [linesText, List.map_append, String.join_append, linesText, linesText]

/-- **Lines are written as one text.** -/
theorem writeLines_eq_write (sink : Sink) (lines : List String) :
    sink.writeLines lines = sink.write (linesText lines) := by
  induction lines generalizing sink with
  | nil =>
    rw [writeLines_nil, write_eq, linesText_nil, offered_empty, String.utf8ByteSize_empty,
      fits_zero, if_pos rfl]
  | cons line lines ih =>
    rw [writeLines, linesText_cons]
    generalize line ++ "\n" = first
    rw [write_eq, write_eq, String.utf8ByteSize_append, fits_add]
    cases hfits : fits sink.room first.utf8ByteSize with
    | true =>
      rw [if_pos rfl, Bool.true_and, offered_append]
      show (sink.offered first).writeLines lines = _
      rw [ih, write_eq]
      rfl
    | false =>
      rw [if_neg Bool.false_ne_true, Bool.false_and, if_neg Bool.false_ne_true,
        offered_append_of_not_fits hfits]

end Sink
end PageCensus
