import PageCensus.FileSystem.Basic

/-!
# Writing to a file

A file is opened, written to in pieces, and closed.  Opening empties a file, or makes it.  Pieces do
not reach the file one by one: short ones wait until there are too many of them, or until they are
flushed.  So what a device has to say against a text may be heard with any piece of it, or only at
the end.

* `FileSystem.create` — open a file.
* `OpenFile.write`, `OpenFile.flush` — write a piece, and hand on what waits.
* `OpenFile.finish` — write pieces up to the first fault, and close the file.
-/

set_option autoImplicit false

namespace PageCensus

namespace FileSystem

/-- The file at a place is emptied, or made.  Devices stay what they are. -/
def truncate (fs : FileSystem) (place : Place) : FileSystem :=
  match fs.node? place with
  | some .blackHole => fs
  | some .fullDevice => fs
  | _ => fs.put place ""

/-- Add a text to what is at a place. -/
def append (fs : FileSystem) (place : Place) (text : String) : FileSystem × Option FileFault :=
  match fs.node? place with
  | some (.file old) => (fs.put place (old ++ text), none)
  | some .fullDevice => (fs, if text.isEmpty then none else some .deviceFull)
  | _ => (fs, none)

end FileSystem

/-- A file that is open for writing. -/
structure OpenFile where
  /-- The files, with what has reached them so far. -/
  files : FileSystem
  /-- Where the open file is. -/
  place : Place
  /-- What was written and has not reached the file. -/
  waiting : String

/-- Open a file for writing. -/
def FileSystem.create (fs : FileSystem) (path : String) : Except FileFault OpenFile :=
  (fs.locate path).map fun place => ⟨fs.truncate place, place, ""⟩

namespace OpenFile

/-- The number of bytes that may wait. -/
def bufferSize : Nat := 8192

/-- Hand a text to the file, past what waits. -/
def hand (file : OpenFile) (text : String) : OpenFile × Option FileFault :=
  let appended := file.files.append file.place text
  ({ file with files := appended.1 }, appended.2)

/-- Hand on what waits; if that fails, it goes on waiting. -/
def flush (file : OpenFile) : OpenFile × Option FileFault :=
  match file.hand file.waiting with
  | (file, none) => ({ file with waiting := "" }, none)
  | (file, some fault) => (file, some fault)

/-- Flush the file unless a number of bytes can wait as well. -/
def makeRoom (file : OpenFile) (size : Nat) : OpenFile × Option FileFault :=
  if bufferSize < file.waiting.utf8ByteSize + size then file.flush else (file, none)

/-- Write a piece.  It waits, unless it would fill the buffer on its own. -/
def write (file : OpenFile) (text : String) : OpenFile × Option FileFault :=
  match file.makeRoom text.utf8ByteSize with
  | (file, some fault) => (file, some fault)
  | (file, none) =>
    if bufferSize ≤ text.utf8ByteSize then file.hand text
    else ({ file with waiting := file.waiting ++ text }, none)

/-- Write pieces up to the first fault. -/
def writeAll (file : OpenFile) : List String → OpenFile × Option FileFault
  | [] => (file, none)
  | text :: rest =>
    match file.write text with
    | (file, none) => file.writeAll rest
    | (file, some fault) => (file, some fault)

/-- Close the file.  What still waits is handed on, but nobody hears of a fault any more. -/
def close (file : OpenFile) : FileSystem := file.flush.1.files

/-- Write pieces, flush the file, and close it, whatever comes of it. -/
def finish (file : OpenFile) (texts : List String) : FileSystem × Option FileFault :=
  match file.writeAll texts with
  | (file, some fault) => (file.close, some fault)
  | (file, none) => (file.flush.1.close, file.flush.2)

end OpenFile

end PageCensus
