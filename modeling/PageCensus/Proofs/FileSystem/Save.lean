import PageCensus.Proofs.FileSystem.Locate

/-!
# What a saved text becomes

A text is saved by putting it where its path opens.  The exceptions are the devices: one of them
takes a text and keeps nothing of it, the other takes no text at all.

* `HasDevice`, `NamesDevice`, `of_save_eq_ok` — a text that could be saved was put where the path
  opens, or there is a device.
* `Plain`, `save_of_plain` — without devices, every path that can be opened can be saved at.
* `read?`, `read?_of_save_save` — two texts saved under two paths are both there in the end.
-/

set_option autoImplicit false

namespace PageCensus
namespace FileSystem

variable {fs gs : FileSystem}

/-! ## Devices -/

/-- Whether there is a device at a place, which keeps no text. -/
def HasDevice (fs : FileSystem) (place : Place) : Prop :=
  fs.node? place = some .blackHole ∨ fs.node? place = some .fullDevice

/-- Whether a path opens at a device. -/
def NamesDevice (fs : FileSystem) (path : String) : Prop :=
  ∃ place, fs.opensAt path = some place ∧ fs.HasDevice place

theorem save_of_locate {path text : String} {place : Place} (h : fs.locate path = .ok place)
    (hdevice : ¬ fs.HasDevice place) : fs.save path text = .ok (fs.put place text) := by
  rw [save, h]
  cases hnode : fs.node? place with
  | none => simp only [bind, Except.bind, hnode]; rfl
  | some node =>
    cases node with
    | file => simp only [bind, Except.bind, hnode]; rfl
    | directory => simp only [bind, Except.bind, hnode]; rfl
    | blackHole => exact absurd (Or.inl hnode) hdevice
    | fullDevice => exact absurd (Or.inr hnode) hdevice

/-- A device keeps no text. -/
theorem eq_of_save_of_hasDevice {path text : String} {place : Place}
    (h : fs.locate path = .ok place) (hdevice : fs.HasDevice place)
    (hsave : fs.save path text = .ok gs) : gs = fs := by
  rw [save, h] at hsave
  rcases hdevice with hnode | hnode
  · simp only [bind, Except.bind, hnode] at hsave
    exact (Except.ok.inj hsave).symm
  · simp only [bind, Except.bind, hnode] at hsave
    split at hsave
    · exact (Except.ok.inj hsave).symm
    · cases hsave

/-- **A text is saved by putting it where the path opens**, unless there is a device. -/
theorem of_save_eq_ok {path text : String} (h : fs.save path text = .ok gs) :
    ∃ place, fs.opensAt path = some place ∧
      (gs = fs.put place text ∨ gs = fs ∧ fs.HasDevice place) := by
  cases hlocate : fs.locate path with
  | error fault =>
    rw [save, hlocate] at h
    cases h
  | ok place =>
    refine ⟨place, congrArg Except.toOption hlocate, ?_⟩
    by_cases hdevice : fs.HasDevice place
    · exact Or.inr ⟨eq_of_save_of_hasDevice hlocate hdevice h, hdevice⟩
    · rw [save_of_locate hlocate hdevice] at h
      exact Or.inl (Except.ok.inj h).symm

/-- Whether there are only files and directories. -/
def Plain (fs : FileSystem) : Prop := ∀ place, ¬ fs.HasDevice place

/-- There are no devices where there is nothing. -/
theorem plain_of_empty (home : Place) : (⟨∅, home⟩ : FileSystem).Plain := by
  rintro (_ | ⟨name, rest⟩)
  · rintro (h | h) <;> cases h
  · simp [HasDevice, node?]

theorem hasDevice_put {place other : Place} (hne : place ≠ []) (text : String)
    (h : (fs.put place text).HasDevice other) : fs.HasDevice other := by
  rw [HasDevice, node?_put hne] at h
  split at h
  · rcases h with h | h <;> cases h
  · exact h

theorem Plain.put (h : fs.Plain) {place : Place} (hne : place ≠ []) (text : String) :
    (fs.put place text).Plain := fun other hdevice => h other (hasDevice_put hne text hdevice)

/-- Without devices, every path that can be opened can be saved at. -/
theorem save_of_plain (h : fs.Plain) (path text : String) :
    fs.save path text = (fs.locate path).map fun place => fs.put place text := by
  cases hlocate : fs.locate path with
  | error fault =>
    rw [save, hlocate]
    rfl
  | ok place =>
    rw [save_of_locate hlocate (h place)]
    rfl

/-! ## Reading what was saved -/

/-- The text of the file under a path, if there is one. -/
def read? (fs : FileSystem) (path : String) : Option String :=
  match (fs.opensAt path).bind fs.node? with
  | some (.file text) => some text
  | _ => none

theorem read?_of_node? {path : String} {place : Place} {text : String}
    (hopen : fs.opensAt path = some place) (hnode : fs.node? place = some (.file text)) :
    fs.read? path = some text := by
  rw [read?, hopen, Option.bind_some, hnode]

/-- **Two texts saved one after the other are both there in the end**, if their paths open at two
places and neither is a device. -/
theorem read?_of_save_save {first second : FileSystem} {path path' text text' : String}
    (hsave : fs.save path text = .ok first) (hsave' : first.save path' text' = .ok second)
    (hplaces : ∀ place, fs.opensAt path = some place → fs.opensAt path' ≠ some place)
    (hdevice : ¬ fs.NamesDevice path) (hdevice' : ¬ fs.NamesDevice path') :
    second.read? path = some text ∧ second.read? path' = some text' := by
  obtain ⟨place, hopen, hput⟩ := of_save_eq_ok hsave
  obtain ⟨place', hopen', hput'⟩ := of_save_eq_ok hsave'
  have hfirst : first = fs.put place text := hput.resolve_right fun h => hdevice ⟨place, hopen, h.2⟩
  have hnode := (of_opensAt_eq_some hopen).2
  have hne := ne_nil_of_node?_ne_directory hnode
  have hsame : SameDirectories fs first := hfirst ▸ sameDirectories_put hnode _
  have hopen₀ : fs.opensAt path' = some place' := by rw [opensAt_congr hsame, hopen']
  have hsecond : second = first.put place' text' := hput'.resolve_right fun h =>
    hdevice' ⟨place', hopen₀, hasDevice_put hne text (hfirst ▸ h.2)⟩
  have hnode' := (of_opensAt_eq_some hopen').2
  have hne' := ne_nil_of_node?_ne_directory hnode'
  have hsame' : SameDirectories first second :=
    hsecond ▸ sameDirectories_put hnode' _
  have hdiffer : place' ≠ place := fun heq => hplaces place hopen (heq ▸ hopen₀)
  constructor
  · have hopens : second.opensAt path = some place := by
      rw [← opensAt_congr hsame', ← opensAt_congr hsame, hopen]
    refine read?_of_node? hopens ?_
    rw [hsecond, node?_put hne', if_neg hdiffer, hfirst, node?_put hne,
      if_pos rfl]
  · have hopens : second.opensAt path' = some place' := by
      rw [← opensAt_congr hsame', hopen']
    refine read?_of_node? hopens ?_
    rw [hsecond, node?_put hne', if_pos rfl]

end FileSystem
end PageCensus
