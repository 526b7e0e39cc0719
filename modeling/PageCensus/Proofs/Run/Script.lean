import PageCensus.Proofs.Sink
import PageCensus.Run

/-!
# Scripts

What a run does to the outside can be written down before it happens, as a *script*: a list of
actions, each of which prints, reports an event, waits, or saves a file.  How a script ends is then
a matter of room alone.  Actions are performed one after the other up to the first print that does
not fit, and nothing behind it is.

* `Action`, `performAll` — what a script is and what performing it means.
* `Script.reached` — the actions that are performed before the room is used up.
* `performAll_eq` — performing a script in one equation: which bytes are taken, and what the
  reached actions do to the files, the pauses and the log.
* `stop?_of_fits`, `fits_of_stop?_eq_none` — a script is stopped exactly if there is no room for
  all that it prints.
-/

set_option autoImplicit false

namespace PageCensus

open RunStep

/-! ## Steps -/

/-- How a step of a run ends. -/
structure Ending (α : Type) where
  /-- What it gives, or why it ended the run. -/
  outcome : Except RunError α
  /-- The world after it. -/
  world : World

namespace RunStep

variable {α β : Type}

/-- How a step ends that starts in a world. -/
def ending (step : RunStep α) (world : World) : Ending α :=
  match step world with
  | .ok a world => ⟨.ok a, world⟩
  | .error error world => ⟨.error error, world⟩

/-- After a step that succeeds comes the next. -/
theorem bind_of_ok {step : RunStep α} {next : α → RunStep β} {world world' : World} {a : α}
    (h : step world = .ok a world') : (step >>= next) world = next a world' := by
  show EStateM.bind step next world = _
  rw [EStateM.bind, h]

/-- A step that fails is the last. -/
theorem bind_of_error {step : RunStep α} {next : α → RunStep β} {world world' : World}
    {error : RunError} (h : step world = .error error world') :
    (step >>= next) world = .error error world' := by
  show EStateM.bind step next world = _
  rw [EStateM.bind, h]

/-- If two steps end well, so does the first. -/
theorem of_bind_eq_ok {step : RunStep α} {next : α → RunStep β} {world world' : World} {b : β}
    (h : (step >>= next) world = .ok b world') :
    ∃ a between, step world = .ok a between ∧ next a between = .ok b world' := by
  cases hstep : step world with
  | ok a between =>
    rw [bind_of_ok hstep] at h
    exact ⟨a, between, rfl, h⟩
  | error error between =>
    rw [bind_of_error hstep] at h
    cases h

theorem get_eq (world : World) : (get : RunStep World) world = .ok world world := rfl

end RunStep

/-- A world in which nothing was waited for and nothing reported so far. -/
def World.start (stdout : Sink) (files : FileSystem) : World := ⟨stdout, files, [], []⟩

/-! ## Actions -/

/-- What a run does to the outside, one thing at a time. -/
inductive Action where
  /-- Print a part of the report. -/
  | print (stage : Stage) (lines : List String)
  /-- Report an event. -/
  | report (event : Event)
  /-- Wait, for a number of milliseconds. -/
  | wait (milliseconds : Nat)
  /-- Save a text of so many entries. -/
  | save (path text : String) (entries : Nat)

namespace Action

/-- What an action prints. -/
def text : Action → String
  | print _ lines => Sink.linesText lines
  | _ => ""

/-- How many bytes an action prints. -/
def size (action : Action) : Nat := action.text.utf8ByteSize

/-- The part of the report that an action prints. -/
def stage? : Action → Option Stage
  | print stage _ => some stage
  | _ => none

/-- The pauses that an action makes. -/
def pauses : Action → List Nat
  | wait milliseconds => [milliseconds]
  | _ => []

/-- The files after an action. -/
def files (fs : FileSystem) : Action → FileSystem
  | save path text _ =>
    match fs.save path text with
    | .ok fs => fs
    | .error _ => fs
  | _ => fs

/-- The events that an action reports. -/
def events (fs : FileSystem) : Action → List Event
  | report event => [event]
  | save path text entries =>
    match fs.save path text with
    | .ok _ => [.countsSaved path entries]
    | .error fault => [.countsNotSaved ⟨path, fault⟩]
  | _ => []

/-- The paths that an action saves something at. -/
def saved (fs : FileSystem) : Action → List String
  | save path text _ =>
    match fs.save path text with
    | .ok _ => [path]
    | .error _ => []
  | _ => []

/-- Perform an action.  The result are the paths that it saved something at. -/
def perform : Action → RunStep (List String)
  | print stage lines => do
    RunStep.print stage lines
    return []
  | report event => do
    emit event
    return []
  | wait milliseconds => do
    pause milliseconds
    return []
  | save path text entries => do
    match (← get).files.save path text with
    | .ok files =>
      modify fun world => { world with files }
      emit (.countsSaved path entries)
      return [path]
    | .error fault =>
      emit (.countsNotSaved ⟨path, fault⟩)
      return []

end Action

/-- Perform the actions of a script, up to the first print that fails. -/
def performAll : List Action → RunStep (List String)
  | [] => return []
  | action :: rest => do
    let saved ← action.perform
    let others ← performAll rest
    return saved ++ others

/-- The world after an action, whether all it prints was taken or not. -/
def World.after (world : World) (action : Action) : World where
  stdout := world.stdout.offered action.text
  files := action.files world.files
  pauses := world.pauses ++ action.pauses
  log := world.log ++ action.events world.files

namespace World

theorem after_print (world : World) (stage : Stage) (lines : List String) :
    world.after (.print stage lines) =
      { world with stdout := world.stdout.offered (Sink.linesText lines) } := by
  simp [after, Action.text, Action.files, Action.pauses, Action.events]

theorem after_report (world : World) (event : Event) :
    world.after (.report event) = { world with log := world.log ++ [event] } := by
  simp [after, Action.text, Action.files, Action.pauses, Action.events]

theorem after_wait (world : World) (milliseconds : Nat) :
    world.after (.wait milliseconds) = { world with pauses := world.pauses ++ [milliseconds] } := by
  simp [after, Action.text, Action.files, Action.pauses, Action.events]

theorem after_save_of_ok {world : World} {path text : String} {entries : Nat} {fs : FileSystem}
    (h : world.files.save path text = .ok fs) :
    world.after (.save path text entries) =
      { world with files := fs, log := world.log ++ [.countsSaved path entries] } := by
  simp [after, Action.text, Action.files, Action.pauses, Action.events, h]

theorem after_save_of_error {world : World} {path text : String} {entries : Nat}
    {fault : FileFault} (h : world.files.save path text = .error fault) :
    world.after (.save path text entries) =
      { world with log := world.log ++ [.countsNotSaved ⟨path, fault⟩] } := by
  simp [after, Action.text, Action.files, Action.pauses, Action.events, h]

end World

namespace Action

theorem perform_save_of_ok {world : World} {path text : String} {entries : Nat} {fs : FileSystem}
    (h : world.files.save path text = .ok fs) :
    (save path text entries).perform world = .ok [path]
      { world with files := fs, log := world.log ++ [.countsSaved path entries] } := by
  rw [perform, bind_of_ok (get_eq world), h]
  rfl

theorem perform_save_of_error {world : World} {path text : String} {entries : Nat}
    {fault : FileFault} (h : world.files.save path text = .error fault) :
    (save path text entries).perform world = .ok []
      { world with log := world.log ++ [.countsNotSaved ⟨path, fault⟩] } := by
  rw [perform, bind_of_ok (get_eq world), h]
  rfl

theorem perform_print_of_fits {world : World} {stage : Stage} {lines : List String}
    (h : Sink.fits world.stdout.room (print stage lines).size = true) :
    (print stage lines).perform world = .ok [] (world.after (.print stage lines)) := by
  have hwrite : world.stdout.writeLines lines =
      (world.stdout.offered (Sink.linesText lines), none) := by
    rw [Sink.writeLines_eq_write, Sink.write_eq]
    exact congrArg _ (if_pos h)
  have hprint : RunStep.print stage lines world =
      .ok () { world with stdout := world.stdout.offered (Sink.linesText lines) } := by
    rw [RunStep.print, hwrite]
  rw [World.after_print, perform, bind_of_ok hprint]
  rfl

theorem perform_print_of_not_fits {world : World} {stage : Stage} {lines : List String}
    (h : Sink.fits world.stdout.room (print stage lines).size = false) :
    (print stage lines).perform world =
      .error (.output stage world.stdout.fault) (world.after (.print stage lines)) := by
  have hwrite : world.stdout.writeLines lines =
      (world.stdout.offered (Sink.linesText lines), some world.stdout.fault) := by
    rw [Sink.writeLines_eq_write, Sink.write_eq]
    exact congrArg _ (if_neg (Bool.eq_false_iff.1 h))
  have hprint : RunStep.print stage lines world = .error (.output stage world.stdout.fault)
      { world with stdout := world.stdout.offered (Sink.linesText lines) } := by
    rw [RunStep.print, hwrite]
  rw [World.after_print, perform, bind_of_error hprint]

/-- An action whose print fits succeeds; so does every action that prints nothing. -/
theorem perform_of_fits {action : Action} {world : World}
    (h : Sink.fits world.stdout.room action.size = true) :
    action.perform world = .ok (action.saved world.files) (world.after action) := by
  cases action with
  | print stage lines =>
    exact perform_print_of_fits h
  | report event =>
    rw [World.after_report]
    rfl
  | wait milliseconds =>
    rw [World.after_wait]
    rfl
  | save path text entries =>
    cases hsave : world.files.save path text with
    | ok fs =>
      rw [perform_save_of_ok hsave, World.after_save_of_ok hsave, saved, hsave]
    | error fault =>
      rw [perform_save_of_error hsave, World.after_save_of_error hsave, saved, hsave]

/-- An action whose print does not fit fails with the part of the report it belongs to. -/
theorem perform_of_not_fits {action : Action} {world : World}
    (h : Sink.fits world.stdout.room action.size = false) :
    ∃ stage, action.stage? = some stage ∧
      action.perform world = .error (.output stage world.stdout.fault) (world.after action) := by
  cases action with
  | print stage lines =>
    exact ⟨stage, rfl, perform_print_of_not_fits h⟩
  | report => exact absurd h (by simp [size, text])
  | wait => exact absurd h (by simp [size, text])
  | save => exact absurd h (by simp [size, text])

end Action

/-! ## Whole scripts -/

namespace Script

/-- What a script prints. -/
def text (script : List Action) : String := String.join (script.map Action.text)

/-- How many bytes a script prints. -/
def size (script : List Action) : Nat := (text script).utf8ByteSize

/-- The pauses that a script makes. -/
def pauses (script : List Action) : List Nat := script.flatMap Action.pauses

/-- The files after a script. -/
def files (fs : FileSystem) : List Action → FileSystem
  | [] => fs
  | action :: rest => files (action.files fs) rest

/-- The events that a script reports. -/
def events (fs : FileSystem) : List Action → List Event
  | [] => []
  | action :: rest => action.events fs ++ events (action.files fs) rest

/-- The paths that a script saves something at. -/
def saved (fs : FileSystem) : List Action → List String
  | [] => []
  | action :: rest => action.saved fs ++ saved (action.files fs) rest

/-- The actions before the first one whose print does not fit into the room. -/
def reached (room : Option Nat) : List Action → List Action
  | [] => []
  | action :: rest =>
    if Sink.fits room action.size then
      action :: reached (Sink.roomLeft room action.size) rest
    else []

/-- The part of the report that is the first not to fit into the room. -/
def stop? (room : Option Nat) : List Action → Option Stage
  | [] => none
  | action :: rest =>
    if Sink.fits room action.size then stop? (Sink.roomLeft room action.size) rest
    else action.stage?

end Script

/-- The world after a script, performed as far as its prints fit. -/
def World.afterAll (world : World) (script : List Action) : World where
  stdout := world.stdout.offered (Script.text script)
  files := Script.files world.files (Script.reached world.stdout.room script)
  pauses := world.pauses ++ Script.pauses (Script.reached world.stdout.room script)
  log := world.log ++ Script.events world.files (Script.reached world.stdout.room script)

namespace Script

@[simp] theorem text_nil : text [] = "" := rfl

theorem text_cons (action : Action) (rest : List Action) :
    text (action :: rest) = action.text ++ text rest := by
  rw [text, List.map_cons, String.join_cons, text]

theorem text_append (a b : List Action) : text (a ++ b) = text a ++ text b := by
  rw [text, List.map_append, String.join_append, text, text]

@[simp] theorem size_nil : size [] = 0 := rfl

theorem size_cons (action : Action) (rest : List Action) :
    size (action :: rest) = action.size + size rest := by
  rw [size, text_cons, String.utf8ByteSize_append]
  rfl

theorem size_append (a b : List Action) : size (a ++ b) = size a + size b := by
  rw [size, text_append, String.utf8ByteSize_append, size, size]

theorem pauses_cons (action : Action) (rest : List Action) :
    pauses (action :: rest) = action.pauses ++ pauses rest := List.flatMap_cons

theorem pauses_append (a b : List Action) : pauses (a ++ b) = pauses a ++ pauses b :=
  List.flatMap_append

theorem files_append (fs : FileSystem) (a b : List Action) :
    files fs (a ++ b) = files (files fs a) b := by
  induction a generalizing fs with
  | nil => rfl
  | cons action rest ih => exact ih (action.files fs)

theorem events_append (fs : FileSystem) (a b : List Action) :
    events fs (a ++ b) = events fs a ++ events (files fs a) b := by
  induction a generalizing fs with
  | nil => rfl
  | cons action rest ih =>
    rw [List.cons_append, events, ih, events, files, List.append_assoc]

theorem saved_append (fs : FileSystem) (a b : List Action) :
    saved fs (a ++ b) = saved fs a ++ saved (files fs a) b := by
  induction a generalizing fs with
  | nil => rfl
  | cons action rest ih =>
    rw [List.cons_append, saved, ih, saved, files, List.append_assoc]

/-! ### How far a script gets -/

theorem reached_of_fits {room : Option Nat} {action : Action}
    (h : Sink.fits room action.size = true) (rest : List Action) :
    reached room (action :: rest) =
      action :: reached (Sink.roomLeft room action.size) rest := by
  rw [reached, if_pos h]

theorem reached_of_not_fits {room : Option Nat} {action : Action}
    (h : Sink.fits room action.size = false) (rest : List Action) :
    reached room (action :: rest) = [] := by
  rw [reached, if_neg (Bool.eq_false_iff.1 h)]

/-- A script in two parts gets to the second if all of the first fits. -/
theorem reached_append (room : Option Nat) (a b : List Action) :
    reached room (a ++ b) =
      if Sink.fits room (size a) then a ++ reached (Sink.roomLeft room (size a)) b
      else reached room a := by
  induction a generalizing room with
  | nil => rw [size_nil, Sink.fits_zero, if_pos rfl, Sink.roomLeft_zero]; rfl
  | cons action rest ih =>
    rw [List.cons_append, size_cons, Sink.fits_add]
    cases h : Sink.fits room action.size with
    | true =>
      rw [reached_of_fits h, reached_of_fits h, ih, Bool.true_and, Sink.roomLeft_add]
      split
      · rfl
      · rfl
    | false => rw [reached_of_not_fits h, reached_of_not_fits h, Bool.false_and, if_neg (by simp)]

/-- A script that fits is performed to its end. -/
theorem reached_eq_self {room : Option Nat} {script : List Action}
    (h : Sink.fits room (size script) = true) : reached room script = script := by
  have happend := reached_append room script []
  rwa [List.append_nil, if_pos h, reached, List.append_nil] at happend

/-- What is performed of a script is a part at its front. -/
theorem reached_isPrefix (room : Option Nat) (script : List Action) :
    reached room script <+: script := by
  induction script generalizing room with
  | nil => exact List.prefix_refl []
  | cons action rest ih =>
    cases h : Sink.fits room action.size with
    | true =>
      rw [reached_of_fits h, List.cons_prefix_cons]
      exact ⟨rfl, ih _⟩
    | false =>
      rw [reached_of_not_fits h]
      exact List.nil_prefix

/-- Nothing stops a script that fits. -/
theorem stop?_of_fits {room : Option Nat} {script : List Action}
    (h : Sink.fits room (size script) = true) : stop? room script = none := by
  induction script generalizing room with
  | nil => rfl
  | cons action rest ih =>
    rw [size_cons, Sink.fits_add, Bool.and_eq_true] at h
    rw [stop?, if_pos h.1, ih h.2]

/-- A script that is not stopped fits. -/
theorem fits_of_stop?_eq_none {room : Option Nat} {script : List Action}
    (h : stop? room script = none) : Sink.fits room (size script) = true := by
  induction script generalizing room with
  | nil => exact Sink.fits_zero room
  | cons action rest ih =>
    rw [stop?] at h
    rw [size_cons, Sink.fits_add, Bool.and_eq_true]
    split at h
    · next hfits => exact ⟨hfits, ih h⟩
    · next hfits =>
      cases action with
      | print => cases h
      | report => exact absurd (Sink.fits_zero room) hfits
      | wait => exact absurd (Sink.fits_zero room) hfits
      | save => exact absurd (Sink.fits_zero room) hfits

end Script

/-- After an action that fits, the rest of the script has the room that is left. -/
theorem World.afterAll_cons_of_fits {world : World} {action : Action}
    (h : Sink.fits world.stdout.room action.size = true) (rest : List Action) :
    world.afterAll (action :: rest) = (world.after action).afterAll rest := by
  rw [afterAll, afterAll, Script.reached_of_fits h, Script.text_cons, Sink.offered_append,
    Script.pauses_cons, Script.events, Script.files, ← List.append_assoc, ← List.append_assoc]
  rfl

/-- Of an action that does not fit only its print matters. -/
theorem World.afterAll_cons_of_not_fits {world : World} {action : Action} {stage : Stage}
    (h : Sink.fits world.stdout.room action.size = false) (hstage : action.stage? = some stage)
    (rest : List Action) : world.afterAll (action :: rest) = world.after action := by
  cases action with
  | print stage lines =>
    rw [afterAll, Script.reached_of_not_fits h, Script.text_cons,
      Sink.offered_append_of_not_fits h, after_print, Script.pauses, List.flatMap_nil,
      List.append_nil, Script.events, List.append_nil]
    rfl
  | report => cases hstage
  | wait => cases hstage
  | save => cases hstage

/-- **Performing a script in one equation.** -/
theorem performAll_eq (script : List Action) (world : World) :
    performAll script world =
      match Script.stop? world.stdout.room script with
      | none =>
        .ok (Script.saved world.files (Script.reached world.stdout.room script))
          (world.afterAll script)
      | some stage => .error (.output stage world.stdout.fault) (world.afterAll script) := by
  induction script generalizing world with
  | nil =>
    show EStateM.Result.ok [] world = EStateM.Result.ok [] (world.afterAll [])
    simp [World.afterAll, Script.reached, Script.files, Script.pauses, Script.events]
  | cons action rest ih =>
    rw [performAll]
    cases h : Sink.fits world.stdout.room action.size with
    | true =>
      have hroom : (world.after action).stdout.room = Sink.roomLeft world.stdout.room action.size :=
        rfl
      have hfault : (world.after action).stdout.fault = world.stdout.fault := rfl
      rw [bind_of_ok (Action.perform_of_fits h), Script.stop?, if_pos h, Script.reached_of_fits h,
        World.afterAll_cons_of_fits h]
      have hrest := ih (world.after action)
      rw [hroom, hfault] at hrest
      cases hstop : Script.stop? (Sink.roomLeft world.stdout.room action.size) rest with
      | none =>
        rw [hstop] at hrest
        rw [bind_of_ok hrest]
        rfl
      | some stage =>
        rw [hstop] at hrest
        rw [bind_of_error hrest]
    | false =>
      obtain ⟨stage, hstage, hperform⟩ := Action.perform_of_not_fits h
      rw [bind_of_error hperform, Script.stop?, if_neg (Bool.eq_false_iff.1 h), hstage,
        World.afterAll_cons_of_not_fits h hstage]

end PageCensus
