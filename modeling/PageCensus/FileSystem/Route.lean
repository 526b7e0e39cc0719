import PageCensus.Text.Pieces

/-!
# Paths

A path is a text: names with slashes between them.  Several slashes in a row count as one.  A path
with a slash in front starts at the root, every other at the working directory, and one with a slash
at its end can only mean a directory.

* `Route`, `Route.ofPath` — how a path is walked.
* `joinPath` — the path of a file in a directory.
-/

set_option autoImplicit false

namespace PageCensus

/-- How a path is walked. -/
structure Route where
  /-- Whether the walk starts at the root and not at the working directory. -/
  fromRoot : Bool
  /-- The names on the way, none of them empty. -/
  names : List String
  /-- Whether the path ends with a slash. -/
  slashAtEnd : Bool
deriving DecidableEq, Repr

/-- How a path is walked. -/
def Route.ofPath (path : String) : Route where
  fromRoot := path.toList.head? == some '/'
  names := ((pieces (· == '/') path.toList).filter (!·.isEmpty)).map String.ofList
  slashAtEnd := path.toList.getLast? == some '/'

/-- The path of the file `name` in the directory `directory`.  The empty path names the working
directory, in which the file needs no prefix at all. -/
def joinPath (directory name : String) : String :=
  match directory.toList.getLast? with
  | none => name
  | some '/' => directory ++ name
  | some _ => directory ++ "/" ++ name

example : Route.ofPath "/a//b/" = ⟨true, ["a", "b"], true⟩ := by decide

example : [joinPath "" "f", joinPath "d/" "f", joinPath "." "f"] = ["f", "d/f", "./f"] := by decide

end PageCensus
