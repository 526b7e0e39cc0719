import Std.Data.ExtTreeMap
import PageCensus.FileSystem.Route

/-!
# File systems

A file system says what is at each place.  A place is given by the names on the way to it from the
root; the root itself is always a directory.  Two devices exist besides files and directories: one
that takes any text and keeps nothing, and one that is always full.

* `FileSystem.node?` — what is at a place.
* `FileSystem.walk` — from place to place along names, `.` and `..` among them.
* `FileSystem.locate` — the place that a path names, if a file can be opened there for writing.
* `FileSystem.save` — replace the file at a path by a text.  A text is saved as a whole or not at
  all, and no directory is ever made on the way.
-/

set_option autoImplicit false

namespace PageCensus

/-- Why a file cannot be opened or written. -/
inductive FileFault where
  /-- A directory on the way does not exist, or the path is empty. -/
  | notFound
  /-- The path names a directory. -/
  | isDirectory
  /-- Something on the way is not a directory. -/
  | notDirectory
  /-- A name, or the path, is longer than the system allows. -/
  | nameTooLong
  /-- The path holds a character that ends texts for the system. -/
  | nulInPath
  /-- The device has no space. -/
  | deviceFull
deriving DecidableEq, Repr

/-- How a fault is worded. -/
def FileFault.message : FileFault → String
  | notFound => "No such file or directory (os error 2)"
  | isDirectory => "Is a directory (os error 21)"
  | notDirectory => "Not a directory (os error 20)"
  | nameTooLong => "File name too long (os error 36)"
  | nulInPath => "file name contained an unexpected NUL byte"
  | deviceFull => "No space left on device (os error 28)"

/-- What can be at a place. -/
inductive Node where
  /-- A file with its text. -/
  | file (text : String)
  /-- A directory. -/
  | directory
  /-- A device that takes every text and keeps none. -/
  | blackHole
  /-- A device that has no space. -/
  | fullDevice
deriving DecidableEq, Repr

/-- The names on the way from the root to a place. -/
abbrev Place := List String

/-- What is at each place, and where paths start that do not start at the root. -/
structure FileSystem where
  /-- What is at each place but the root. -/
  nodes : Std.ExtTreeMap Place Node compare
  /-- The working directory. -/
  home : Place

namespace FileSystem

/-- The greatest number of bytes in a name. -/
def nameLimit : Nat := 255

/-- The least number of bytes that are too many for a path. -/
def pathLimit : Nat := 4096

/-- What is at a place. -/
def node? (fs : FileSystem) : Place → Option Node
  | [] => some .directory
  | place => fs.nodes[place]?

/-- One step of a walk: from a place, which has to be a directory, to what a name means there. -/
def step (fs : FileSystem) (place : Place) (name : String) : Except FileFault Place :=
  if fs.node? place ≠ some .directory then .error .notDirectory
  else if name = "." then .ok place
  else if name = ".." then .ok place.dropLast
  else if nameLimit < name.utf8ByteSize then .error .nameTooLong
  else .ok (place ++ [name])

/-- Walk along names, each of which has to be there. -/
def walk (fs : FileSystem) (place : Place) : List String → Except FileFault Place
  | [] => .ok place
  | name :: rest => do
    let place ← fs.step place name
    if (fs.node? place).isNone then .error .notFound else fs.walk place rest

/-- The place at which a file can be opened for writing under the last name of a path: a file, a
device, or nothing yet. -/
def locateLast (fs : FileSystem) (place : Place) (name : String) (slashAtEnd : Bool) :
    Except FileFault Place :=
  if fs.node? place ≠ some .directory then .error .notDirectory
  else if slashAtEnd || name = "." || name = ".." then .error .isDirectory
  else do
    let place ← fs.step place name
    if fs.node? place = some .directory then .error .isDirectory else .ok place

/-- The place that a path names, if a file can be opened there for writing. -/
def locate (fs : FileSystem) (path : String) : Except FileFault Place :=
  if path.toList.contains '\x00' then .error .nulInPath
  else if path.isEmpty then .error .notFound
  else if pathLimit ≤ path.utf8ByteSize then .error .nameTooLong
  else
    let route := Route.ofPath path
    match route.names.getLast? with
    | none => .error .isDirectory
    | some last => do
      let start := if route.fromRoot then [] else fs.home
      let place ← fs.walk start route.names.dropLast
      fs.locateLast place last route.slashAtEnd

/-- The file system with a file put at a place, whatever was there. -/
def put (fs : FileSystem) (place : Place) (text : String) : FileSystem :=
  { fs with nodes := fs.nodes.insert place (.file text) }

/-- Replace the file at a path by a text, or make it. -/
def save (fs : FileSystem) (path text : String) : Except FileFault FileSystem := do
  let place ← fs.locate path
  match fs.node? place with
  | some .blackHole => return fs
  | some .fullDevice => if text.isEmpty then return fs else .error .deviceFull
  | _ => return fs.put place text

/-! ## Building a file system -/

/-- An empty working directory, and the two devices where programs expect them. -/
def fresh : FileSystem where
  nodes := Std.ExtTreeMap.ofList
    [(["dev"], .directory), (["dev", "null"], .blackHole), (["dev", "full"], .fullDevice),
      (["home"], .directory)] compare
  home := ["home"]

/-- Go from a place to what a name means there, and make a directory of it. -/
def enter (start : FileSystem × Place) (name : String) : FileSystem × Place :=
  let (fs, place) := start
  if name = "." then start
  else if name = ".." then (fs, place.dropLast)
  else
    let place := place ++ [name]
    ({ fs with nodes := fs.nodes.insert place .directory }, place)

/-- Walk along names from the working directory, and make directories on the way. -/
def enterAll (fs : FileSystem) (names : List String) : FileSystem × Place :=
  names.foldl enter (fs, fs.home)

/-- The file system with a directory below the working directory, and those on the way to it. -/
def withDirectory (fs : FileSystem) (path : String) : FileSystem :=
  (fs.enterAll (Route.ofPath path).names).1

/-- The file system with a file below the working directory, and the directories on the way. -/
def withFile (fs : FileSystem) (path text : String) : FileSystem :=
  let names := (Route.ofPath path).names
  let (fs, place) := fs.enterAll names.dropLast
  fs.put (place ++ names.getLast?.toList) text

/-- The files below the working directory, each with its path from there and its text. -/
def filesBelowHome (fs : FileSystem) : List (String × String) :=
  fs.nodes.toList.filterMap fun (place, node) =>
    match node with
    | .file text =>
      if fs.home.isPrefixOf place then
        some ("/".intercalate (place.drop fs.home.length), text)
      else none
    | _ => none

/-! ## What `put` does -/

theorem node?_put_self {fs : FileSystem} {place : Place} {text : String} (h : place ≠ []) :
    (fs.put place text).node? place = some (.file text) := by
  cases place with
  | nil => exact absurd rfl h
  | cons name rest => simp [node?, put]

theorem node?_put_of_ne {fs : FileSystem} {place other : Place} {text : String}
    (h : place ≠ other) : (fs.put place text).node? other = fs.node? other := by
  cases other with
  | nil => rfl
  | cons name rest => simp [node?, put, Std.ExtTreeMap.getElem?_insert, h]

/-- Parent directories have to be there, and the root is not a file. -/
example : fresh.locate "missing/f" = .error .notFound ∧ fresh.locate "/" = .error .isDirectory ∧
    fresh.locate "./f" = .ok ["home", "f"] := ⟨rfl, rfl, rfl⟩

end FileSystem

end PageCensus
