import PageCensus.Url.Basic

/-!
# Paths in addresses

A path is read segment by segment.  A segment of one point adds nothing and one of two points takes
the last segment away, also where the points are written with percent signs; if such a segment is
the last one, the path ends with a slash.

A segment of one letter and a colon, or a bar in its place, names a drive and is never taken away.
In the path of a file such a name is written with a colon, if nothing comes before it.

* `UrlPath.walk`, `UrlPath.read` — follow a written path from given segments on.
-/

set_option autoImplicit false

namespace PageCensus

namespace UrlPath

/-- A segment with the points in it read. -/
def pointsRead : List Char → List Char
  | '%' :: '2' :: c :: rest => if c == 'e' || c == 'E' then '.' :: pointsRead rest else
      '%' :: '2' :: c :: pointsRead rest
  | c :: rest => c :: pointsRead rest
  | [] => []

/-- Whether a segment adds nothing. -/
def isHere (segment : List Char) : Bool := pointsRead segment == ['.']

/-- Whether a segment takes the last one away. -/
def isUp (segment : List Char) : Bool := pointsRead segment == ['.', '.']

/-- Whether a segment names a drive, in either spelling. -/
def isDrive : List Char → Bool
  | [letter, mark] => letter.isAlpha && (mark == ':' || mark == '|')
  | _ => false

/-- The segments without the last one, unless that is a drive. -/
def shorten (segments : List (List Char)) : List (List Char) :=
  if segments.getLast?.any isDrive then segments else segments.dropLast

/-- A segment as it is written behind others.  A drive at the front of a file has a colon. -/
def encodeSegment (kind : SchemeKind) (before : List (List Char)) (segment : List Char) :
    List Char :=
  if kind = .file ∧ before = [] ∧ isDrive segment then segment.take 1 ++ [':']
  else Percent.encode Percent.inPath segment

/-- Follow one segment, behind which a slash stands unless it is the last one. -/
def follow (kind : SchemeKind) (before : List (List Char)) (segment : List Char) (isLast : Bool) :
    List (List Char) :=
  if isUp segment then shorten before ++ if isLast then [[]] else []
  else if isHere segment then before ++ if isLast then [[]] else []
  else before ++ [encodeSegment kind before segment]

/-- Follow segments. -/
def followAll (kind : SchemeKind) (before : List (List Char)) :
    List (List Char) → List (List Char)
  | [] => before
  | [last] => follow kind before last true
  | segment :: rest => followAll kind (follow kind before segment false) rest

/-- Whether a character ends a segment. -/
def isSlash (kind : SchemeKind) (c : Char) : Bool :=
  c == '/' || (kind != .other && c == '\\')

/-- Follow a written path from given segments on. -/
def walk (kind : SchemeKind) (before : List (List Char)) (text : List Char) : List (List Char) :=
  followAll kind before (pieces (isSlash kind) text)

/-- The segments of files do not start with empty ones. -/
def trimFile (kind : SchemeKind) (segments : List (List Char)) : List (List Char) :=
  if kind = .file then
    match segments.dropWhile List.isEmpty with
    | [] => [[]]
    | kept => kept
  else segments

/-- The segments that a written path leads to from given ones. -/
def read (kind : SchemeKind) (before : List (List Char)) (text : List Char) :
    List (List Char) :=
  trimFile kind (walk kind before text)

example : read .web [] "a/./b/../c".toList = ["a".toList, "c".toList] ∧
    read .web [] "..".toList = [[]] ∧
    read .web [] "C:/..".toList = ["C:".toList, []] := by decide

example : read .file [] "./C|/x".toList = ["C:".toList, "x".toList] ∧
    read .file [] "/C|".toList = ["C|".toList] := by decide

end UrlPath

end PageCensus
