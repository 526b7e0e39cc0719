import PageCensus.Fetch.Error
import PageCensus.Text.Number

/-!
# Pages in pieces

A page whose length is not known when it begins comes in pieces.  In front of each piece stands a
line with its length, hexadecimal and perhaps followed by a semicolon and remarks, and behind it an
empty line end.  A piece without bytes is the last one.  Lines that nobody reads can follow it, up
to an empty one, and what comes then does not belong to the page.

While it reads, a byte is the character with its number.

* `Chunks.Reader`, `Chunks.Reader.read?` — where a reader is, and reading a character.
* `Chunks.read` — the page that comes in pieces.
-/

set_option autoImplicit false

namespace PageCensus

namespace Chunks

/-- Where a reader of pieces is. -/
inductive Place where
  /-- In front of a length. -/
  | front
  /-- In a length. -/
  | length (length : Nat)
  /-- In the blanks behind a length. -/
  | blanks (length : Nat)
  /-- In the remarks behind a length. -/
  | remarks (length : Nat)
  /-- Behind the carriage return of the line with a length. -/
  | lengthEnd (length : Nat)
  /-- In a piece of which one character and so many more are missing. -/
  | inside (more : Nat)
  /-- Behind a piece. -/
  | behind
  /-- Behind the carriage return behind a piece. -/
  | behindEnd
  /-- At the front of a line behind the last piece. -/
  | last
  /-- In a line behind the last piece. -/
  | trailer
  /-- Behind the carriage return of such a line. -/
  | trailerEnd
  /-- Behind the carriage return of the empty line behind the last piece. -/
  | lastEnd
  /-- Behind the page. -/
  | done
deriving DecidableEq, Repr

/-- A reader of pieces. -/
structure Reader where
  /-- Where it is. -/
  place : Place := .front
  /-- The page so far, the last character first. -/
  reversed : List Char := []
deriving DecidableEq, Repr

namespace Reader

/-- No length is as great as this. -/
def lengthBound : Nat := 1 <<< 64

/-- The place behind a digit of a length, in front of which the value of the digits is `length`. -/
def afterDigit (length digit : Nat) : Except PageFault Place :=
  if length * 16 + digit < lengthBound then .ok (.length (length * 16 + digit))
  else .error .lengthTooGreat

/-- The place behind a character that is no digit of a length any more. -/
def afterLength (length : Nat) (fault : PageFault) : Char → Except PageFault Place
  | '\t' | ' ' => .ok (.blanks length)
  | ';' => .ok (.remarks length)
  | '\r' => .ok (.lengthEnd length)
  | _ => .error fault

/-- The place behind a character that has to be a certain one. -/
def demand (expected : Char) (place : Place) (fault : PageFault) (c : Char) :
    Except PageFault Place :=
  if c = expected then .ok place else .error fault

/-- The place behind a character, where it is none of the page. -/
def placeAfter (place : Place) (c : Char) : Except PageFault Place :=
  match place with
  | .front => match hexValue? c with
    | some digit => afterDigit 0 digit
    | none => .error .noLength
  | .length length => match hexValue? c with
    | some digit => afterDigit length digit
    | none => afterLength length .length c
  | .blanks length => afterLength length .blanks c
  | .remarks length =>
    if c = '\n' then .error .remarks
    else .ok (if c = '\r' then .lengthEnd length else .remarks length)
  | .lengthEnd 0 => demand '\n' .last .lengthEnd c
  | .lengthEnd (more + 1) => demand '\n' (.inside more) .lengthEnd c
  | .inside 0 => .ok .behind
  | .inside (more + 1) => .ok (.inside more)
  | .behind => demand '\r' .behindEnd .behind c
  | .behindEnd => demand '\n' .front .behindEnd c
  | .last => .ok (if c = '\r' then .lastEnd else .trailer)
  | .trailer => .ok (if c = '\r' then .trailerEnd else .trailer)
  | .trailerEnd => demand '\n' .last .trailerEnd c
  | .lastEnd => demand '\n' .done .lastEnd c
  | .done => .ok .done

/-- Read a character. -/
def read? (reader : Reader) (c : Char) : Except PageFault Reader := do
  let place ← placeAfter reader.place c
  return match reader.place with
    | .inside _ => ⟨place, c :: reader.reversed⟩
    | _ => ⟨place, reader.reversed⟩

/-- The page, if it ends here. -/
def finish (reader : Reader) : Except PageFault (List Char) :=
  match reader.place with
  | .done => .ok reader.reversed.reverse
  | .inside _ => .error .endsEarly
  | _ => .error .lineEndsEarly

end Reader

/-- The page that comes in pieces. -/
def read (text : List Char) : Except PageFault (List Char) := do
  (← text.foldlM Reader.read? {}).finish

example : (read "3;x\r\nabc\r\n1 \r\nd\r\n0\r\nx: y\r\n\r\nz".toList).toOption =
    some "abcd".toList := by decide

example : read "g".toList = .error .noLength ∧ read "3\r\nab".toList = .error .endsEarly ∧
    read "1\r\nab".toList = .error .behind ∧ read "0\r\n".toList = .error .lineEndsEarly :=
  ⟨rfl, rfl, rfl, rfl⟩

end Chunks

end PageCensus
