import PageCensus.FileSystem.OpenFile
import PageCensus.Proofs.FileSystem.Save

/-!
# Writing in pieces

Writing a text in pieces comes to saving it as a whole.  In between the file holds only the front of
the text, or nothing of it; but a fault comes from a device without space alone, where there was no
file to begin with, so a text that cannot be written has left no trace.

* `Holds` — what is known of an open file to which a text was written.
* `Written` — how writing may end; kept by every piece (`Holds.write`), and so by all of them
  (`Holds.writeAll`).
* `finish_create` — pieces that are written to a file which is opened and closed are saved.
-/

set_option autoImplicit false

namespace PageCensus

namespace FileSystem

variable {fs : FileSystem} {place : Place}

/-- Of two files put at one place only the second counts. -/
theorem put_put (fs : FileSystem) (place : Place) (text text' : String) :
    (fs.put place text).put place text' = fs.put place text' := by
  have hnodes : (fs.nodes.insert place (.file text)).insert place (.file text') =
      fs.nodes.insert place (.file text') := by
    refine Std.ExtTreeMap.ext_getElem? fun other => ?_
    rw [Std.ExtTreeMap.getElem?_insert, Std.ExtTreeMap.getElem?_insert,
      Std.ExtTreeMap.getElem?_insert]
    split <;> rfl
  exact congrArg (FileSystem.mk · fs.home) hnodes

theorem truncate_of_hasDevice (h : fs.HasDevice place) : fs.truncate place = fs := by
  rcases h with h | h <;> simp only [truncate, h]

theorem truncate_of_not_hasDevice (h : ¬ fs.HasDevice place) :
    fs.truncate place = fs.put place "" := by
  rw [truncate]
  split
  · next hnode => exact absurd (Or.inl hnode) h
  · next hnode => exact absurd (Or.inr hnode) h
  · rfl

theorem append_of_blackHole (h : fs.node? place = some .blackHole) (text : String) :
    fs.append place text = (fs, none) := by
  simp only [append, h]

theorem append_of_fullDevice (h : fs.node? place = some .fullDevice) (text : String) :
    fs.append place text = (fs, if text.isEmpty then none else some .deviceFull) := by
  simp only [append, h]

/-- A text is added to the file that was put at a place. -/
theorem append_put (hne : place ≠ []) (old text : String) :
    (fs.put place old).append place text = (fs.put place (old ++ text), none) := by
  simp only [append, node?_put_self hne, put_put]

end FileSystem

namespace OpenFile

variable {fs : FileSystem} {place : Place} {file : OpenFile}

/-- **What is known of an open file** to which a text was written. -/
structure Holds (fs : FileSystem) (place : Place) (text : String) (file : OpenFile) : Prop where
  /-- It is open at this place. -/
  place_eq : file.place = place
  /-- A device changes nothing about the files. -/
  device : fs.HasDevice place → file.files = fs
  /-- Nothing has left for a device without space. -/
  full : fs.node? place = some .fullDevice → file.waiting = text
  /-- A file holds the front of the text, and the rest of it waits. -/
  file : ¬ fs.HasDevice place → ∃ front, file.files = fs.put place front ∧
    front ++ file.waiting = text

/-- **How writing may end.** -/
inductive Written (fs : FileSystem) (place : Place) (text : String) :
    OpenFile × Option FileFault → Prop where
  /-- The text was written. -/
  | all {file : OpenFile} (h : Holds fs place text file) : Written fs place text (file, none)
  /-- The device has no space, and the text needs some. -/
  | refused {file : OpenFile} (hfull : fs.node? place = some .fullDevice) (htext : text ≠ "")
      (hplace : file.place = place) (hfiles : file.files = fs) :
      Written fs place text (file, some .deviceFull)

/-- A file that was opened holds nothing. -/
theorem holds_empty (fs : FileSystem) (place : Place) :
    Holds fs place "" ⟨fs.truncate place, place, ""⟩ where
  place_eq := rfl
  device := FileSystem.truncate_of_hasDevice
  full := fun _ => rfl
  file := fun h => ⟨"", FileSystem.truncate_of_not_hasDevice h, rfl⟩

namespace Holds

variable {text : String}

/-- A device without space takes nothing but the empty text. -/
theorem hand_of_fullDevice (h : Holds fs place text file)
    (hfull : fs.node? place = some .fullDevice) (more : String) :
    file.hand more = (file, if more.isEmpty then none else some .deviceFull) := by
  obtain ⟨rfl, hdevice, -, -⟩ := h
  obtain rfl := hdevice (Or.inr hfull)
  rw [OpenFile.hand, FileSystem.append_of_fullDevice hfull]

/-- A device that keeps nothing takes everything. -/
theorem hand_of_blackHole (h : Holds fs place text file)
    (hhole : fs.node? place = some .blackHole) (more : String) : file.hand more = (file, none) := by
  obtain ⟨rfl, hdevice, -, -⟩ := h
  obtain rfl := hdevice (Or.inl hhole)
  rw [OpenFile.hand, FileSystem.append_of_blackHole hhole]

/-- A file takes everything. -/
theorem hand_of_not_hasDevice (h : Holds fs place text file) (hne : place ≠ [])
    (hdevice : ¬ fs.HasDevice place) (more : String) :
    ∃ front, file.files = fs.put place front ∧ front ++ file.waiting = text ∧
      file.hand more = ({ file with files := fs.put place (front ++ more) }, none) := by
  obtain ⟨rfl, -, -, hfile⟩ := h
  obtain ⟨front, hfiles, hfront⟩ := hfile hdevice
  exact ⟨front, hfiles, hfront, by rw [OpenFile.hand, hfiles, FileSystem.append_put hne]⟩

/-- A text that is handed on while nothing waits follows what was written before. -/
theorem hand (h : Holds fs place text file) (hne : place ≠ []) (hwaiting : file.waiting = "")
    (more : String) : Written fs place (text ++ more) (file.hand more) := by
  by_cases hfull : fs.node? place = some .fullDevice
  · have htext : text = "" := by rw [← h.full hfull, hwaiting]
    rw [h.hand_of_fullDevice hfull, htext, String.empty_append]
    split
    · next hempty =>
      rw [String.isEmpty_iff.1 hempty, ← htext]
      exact .all h
    · next hempty =>
      exact .refused hfull (fun heq => hempty (String.isEmpty_iff.2 heq)) h.place_eq
        (h.device (Or.inr hfull))
  by_cases hdevice : fs.HasDevice place
  · rw [h.hand_of_blackHole (hdevice.resolve_right hfull)]
    exact .all ⟨h.place_eq, h.device, fun hfull' => absurd hfull' hfull, fun hno =>
      absurd hdevice hno⟩
  · obtain ⟨front, -, hfront, hhand⟩ := h.hand_of_not_hasDevice hne hdevice more
    rw [hwaiting, String.append_empty] at hfront
    rw [hhand, hfront]
    exact .all ⟨h.place_eq, fun hyes => absurd hyes hdevice, fun hfull' => absurd hfull' hfull,
      fun _ => ⟨text ++ more, rfl, by rw [hwaiting, String.append_empty]⟩⟩

/-- **Flushing** keeps what was written, and nothing waits any more; or the device is full. -/
theorem flush (h : Holds fs place text file) (hne : place ≠ []) :
    Written fs place text file.flush ∧ (file.flush.2 = none → file.flush.1.waiting = "") := by
  by_cases hfull : fs.node? place = some .fullDevice
  · have hwaiting := h.full hfull
    rw [OpenFile.flush, h.hand_of_fullDevice hfull, hwaiting]
    by_cases hempty : text.isEmpty = true
    · rw [if_pos hempty]
      exact ⟨.all ⟨h.place_eq, h.device, fun _ => (String.isEmpty_iff.1 hempty).symm, fun hno =>
        absurd (Or.inr hfull) hno⟩, fun _ => rfl⟩
    · rw [if_neg hempty]
      exact ⟨.refused hfull (fun heq => hempty (String.isEmpty_iff.2 heq)) h.place_eq
        (h.device (Or.inr hfull)), fun hnone => by cases hnone⟩
  by_cases hdevice : fs.HasDevice place
  · rw [OpenFile.flush, h.hand_of_blackHole (hdevice.resolve_right hfull)]
    exact ⟨.all ⟨h.place_eq, h.device, fun hfull' => absurd hfull' hfull, fun hno =>
      absurd hdevice hno⟩, fun _ => rfl⟩
  · obtain ⟨front, -, hfront, hhand⟩ := h.hand_of_not_hasDevice hne hdevice file.waiting
    rw [OpenFile.flush, hhand, hfront]
    exact ⟨.all ⟨h.place_eq, fun hyes => absurd hyes hdevice, fun hfull' => absurd hfull' hfull,
      fun _ => ⟨text, rfl, String.append_empty⟩⟩, fun _ => rfl⟩

/-- What is known of a file stays known while a piece is added to what waits. -/
theorem wait (h : Holds fs place text file) (more : String) :
    Holds fs place (text ++ more) { file with waiting := file.waiting ++ more } where
  place_eq := h.place_eq
  device := h.device
  full := fun hfull => by rw [h.full hfull]
  file := fun hdevice => by
    obtain ⟨front, hfiles, hfront⟩ := h.file hdevice
    exact ⟨front, hfiles, by rw [← String.append_assoc, hfront]⟩

end Holds

variable {text : String}

/-- A text in need of space stays so if it grows. -/
theorem Written.of_some {fault : FileFault} (h : Written fs place text (file, some fault))
    (more : String) : Written fs place (text ++ more) (file, some fault) := by
  cases h with
  | refused hfull htext hplace hfiles =>
    refine .refused hfull (fun heq => htext ?_) hplace hfiles
    exact (String.append_eq_empty_iff.1 heq).1

theorem Written.holds (h : Written fs place text (file, none)) : Holds fs place text file := by
  cases h with
  | all h => exact h

/-- Making room keeps what was written; if a piece could not wait, nothing else does either. -/
theorem Holds.makeRoom (h : Holds fs place text file) (hne : place ≠ []) (size : Nat) :
    Written fs place text (file.makeRoom size) ∧
      ((file.makeRoom size).2 = none → bufferSize ≤ size →
        (file.makeRoom size).1.waiting = "") := by
  rw [OpenFile.makeRoom]
  split
  · exact ⟨(h.flush hne).1, fun hnone _ => (h.flush hne).2 hnone⟩
  · next hroom =>
    have hempty : bufferSize ≤ size → file.waiting.utf8ByteSize = 0 := by omega
    exact ⟨.all h, fun _ hsize => String.utf8ByteSize_eq_zero_iff.1 (hempty hsize)⟩

/-- **A piece is written**, whether it waits or goes straight to the file. -/
theorem Holds.write (h : Holds fs place text file) (hne : place ≠ []) (more : String) :
    Written fs place (text ++ more) (file.write more) := by
  obtain ⟨hroom, hwaiting⟩ := h.makeRoom hne more.utf8ByteSize
  rw [OpenFile.write]
  split
  · next file' fault heq =>
    rw [heq] at hroom
    exact hroom.of_some more
  · next file' heq =>
    rw [heq] at hroom hwaiting
    split
    · next hlarge => exact hroom.holds.hand hne (hwaiting rfl hlarge) more
    · exact .all (hroom.holds.wait more)

/-- So are several pieces. -/
theorem Holds.writeAll (h : Holds fs place text file) (hne : place ≠ []) (pieces : List String) :
    Written fs place (text ++ String.join pieces) (file.writeAll pieces) := by
  induction pieces generalizing text file with
  | nil =>
    rw [String.join_nil, String.append_empty]
    exact .all h
  | cons piece rest ih =>
    have hpiece := h.write hne piece
    rw [OpenFile.writeAll, String.join_cons, ← String.append_assoc]
    split
    · next file' heq =>
      rw [heq] at hpiece
      exact ih hpiece.holds
    · next file' fault heq =>
      rw [heq] at hpiece
      exact hpiece.of_some _

/-! ## Closing the file -/

/-- A file that is closed holds everything; a device never changes. -/
theorem Holds.close (h : Holds fs place text file) (hne : place ≠ []) :
    (fs.HasDevice place → file.close = fs) ∧
      (¬ fs.HasDevice place → file.close = fs.put place text) := by
  obtain ⟨hflush, hwaiting⟩ := h.flush hne
  rw [OpenFile.close]
  generalize file.flush = ended at hflush hwaiting
  cases hflush with
  | all hheld =>
    refine ⟨hheld.device, fun hdevice => ?_⟩
    obtain ⟨front, hfiles, hfront⟩ := hheld.file hdevice
    rw [hfiles, ← hfront, hwaiting rfl, String.append_empty]
  | refused hfull _ _ hfiles => exact ⟨fun _ => hfiles, fun hno => absurd (Or.inr hfull) hno⟩

/-- Closing a full device changes nothing either. -/
theorem Written.close_of_some {fault : FileFault} (h : Written fs place text (file, some fault)) :
    file.close = fs := by
  cases h with
  | refused hfull _ hplace hfiles =>
    subst hplace hfiles
    have hhand : file.hand file.waiting =
        (file, if file.waiting.isEmpty then none else some .deviceFull) := by
      rw [OpenFile.hand, FileSystem.append_of_fullDevice hfull]
    rw [OpenFile.close, OpenFile.flush, hhand]
    split <;> next heq => rw [← (Prod.mk.inj heq).1]

/-- When all is done, nothing waits, or there was a fault. -/
theorem Holds.exists_finish (h : Holds fs place "" file) (hne : place ≠ []) (pieces : List String) :
    ∃ ended : OpenFile × Option FileFault, Written fs place (String.join pieces) ended ∧
      (ended.2 = none → ended.1.waiting = "") ∧ file.finish pieces = (ended.1.close, ended.2) := by
  have hall := h.writeAll hne pieces
  rw [String.empty_append] at hall
  rw [OpenFile.finish]
  split
  · next file' fault heq =>
    rw [heq] at hall
    exact ⟨(file', some fault), hall, fun hnone => absurd hnone (Option.some_ne_none _), rfl⟩
  · next file' heq =>
    rw [heq] at hall
    exact ⟨file'.flush, (hall.holds.flush hne).1, (hall.holds.flush hne).2, rfl⟩

end OpenFile

namespace FileSystem

variable {fs : FileSystem} {place : Place}

theorem save_of_blackHole {path : String} (h : fs.locate path = .ok place)
    (hnode : fs.node? place = some .blackHole) (text : String) : fs.save path text = .ok fs := by
  rw [save, h]
  simp only [bind, Except.bind, hnode]
  rfl

theorem save_of_fullDevice {path : String} (h : fs.locate path = .ok place)
    (hnode : fs.node? place = some .fullDevice) (text : String) :
    fs.save path text = if text.isEmpty then .ok fs else .error .deviceFull := by
  rw [save, h]
  simp only [bind, Except.bind, hnode]
  rfl

/-- **Pieces that are written to a file are saved**: the file then holds all of them, or the files
are what they were before it was opened. -/
theorem finish_create {path : String} {file : OpenFile} (h : fs.create path = .ok file)
    (pieces : List String) :
    file.finish pieces =
      match fs.save path (String.join pieces) with
      | .ok gs => (gs, none)
      | .error fault => (fs, some fault) := by
  cases hlocate : fs.locate path with
  | error fault =>
    rw [create, hlocate] at h
    cases h
  | ok place =>
    rw [create, hlocate] at h
    obtain rfl := Except.ok.inj h
    have hne : place ≠ [] := ne_nil_of_node?_ne_directory
      (of_opensAt_eq_some (congrArg Except.toOption hlocate)).2
    obtain ⟨ended, hwritten, hwaiting, hfinish⟩ :=
      (OpenFile.holds_empty fs place).exists_finish hne pieces
    rw [hfinish]
    cases hwritten with
    | refused hfull htext hplace hfiles =>
      have hclose := (OpenFile.Written.refused hfull htext hplace hfiles).close_of_some
      rw [save_of_fullDevice hlocate hfull,
        if_neg (fun hempty => htext (String.isEmpty_iff.1 hempty)), hclose]
    | all hheld =>
      obtain ⟨hclose, hclose'⟩ := hheld.close hne
      by_cases hdevice : fs.HasDevice place
      · rw [hclose hdevice]
        rcases hdevice with hhole | hfull
        · rw [save_of_blackHole hlocate hhole]
        · have hempty : String.join pieces = "" := by rw [← hheld.full hfull, hwaiting rfl]
          rw [save_of_fullDevice hlocate hfull, if_pos (String.isEmpty_iff.2 hempty)]
      · rw [save_of_locate hlocate hdevice, hclose' hdevice]

end FileSystem

end PageCensus
