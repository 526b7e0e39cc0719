import PageCensus.FileSystem.OpenFile
import PageCensus.Tally.Ranking

/-!
# Count files

A count file holds one tally: a line for each entry, in the order of the ranking.

* `CountFile.render` — the text of the file.
* `CountFile.write` — write it to a path, piece by piece.
* `CountFile.save` — what that comes to: the text is put at the path as a whole, and what was there
  before is replaced altogether.
-/

set_option autoImplicit false

namespace PageCensus

/-- A count file could not be written. -/
structure SaveError where
  /-- The path as it was given. -/
  path : String
  /-- The reason. -/
  fault : FileFault
deriving DecidableEq, Repr

/-- How the error is worded. -/
def SaveError.message (error : SaveError) : String :=
  "failed to write " ++ error.path ++ ": " ++ error.fault.message

namespace CountFile

variable {κ : Type} [Token κ]

/-- The name of the file with the counts of characters. -/
def charsName : String := "allchars.txt"

/-- The name of the file with the counts of words. -/
def wordsName : String := "allwords.txt"

/-- The line of one entry. -/
def line (entry : Entry κ) : String :=
  Token.text entry.key ++ " = " ++ toString entry.count ++ "\n"

/-- The text of the file. -/
def render (tally : Tally κ) : String := String.join (tally.ranked.map line)

/-- The pieces in which the line of an entry is written. -/
def linePieces (entry : Entry κ) : List String :=
  [Token.text entry.key, " = ", toString entry.count, "\n"]

/-- Write the file at a path.  The result are the files after it, and the error, if there is one. -/
def write (fs : FileSystem) (path : String) (tally : Tally κ) : FileSystem × Option SaveError :=
  match fs.create path with
  | .error fault => (fs, some ⟨path, fault⟩)
  | .ok file =>
    let (fs, fault?) := file.finish (tally.ranked.flatMap linePieces)
    (fs, fault?.map fun fault => ⟨path, fault⟩)

/-- Put the file at a path. -/
def save (fs : FileSystem) (path : String) (tally : Tally κ) : Except SaveError FileSystem :=
  (fs.save path (render tally)).mapError fun fault => ⟨path, fault⟩

end CountFile

end PageCensus
