import PageCensus.Charset.Utf8
import PageCensus.Fetch.Chunks
import PageCensus.Fetch.Error
import PageCensus.Fetch.MediaType
import PageCensus.Text.Number
import PageCensus.Text.Pieces

/-!
# In front of a page

An answer begins with a line that gives its status.  Lines with a name and a value each follow, and
an empty line ends them.  A line ends with a line feed, in front of which a carriage return may
stand.

A reader stops at the first byte that does not fit; where the bytes end before that, the answer ends
too early.  While it reads, a byte is the character with its number.

* `Head`, `Head.read` — what stands in front of a page, and reading it.
* `Head.text?`, `Head.length?` — the value of a line as a text, and the announced length of the
  page.
* `Head.page` — the page, out of the bytes that came behind.
-/

set_option autoImplicit false

namespace PageCensus

/-- What stands in front of a page. -/
structure Head where
  /-- Whether the answer is of the older of the two versions. -/
  isOld : Bool := false
  /-- The number that says how the request went. -/
  status : Nat
  /-- The names of the lines, in lower case, and their values. -/
  fields : List (String × List UInt8)
deriving DecidableEq, Repr

namespace Head

/-! ## Reading -/

/-- Bytes as characters. -/
def charsOfBytes (bytes : List UInt8) : List Char := bytes.map fun b => Char.ofNat b.toNat

/-- Characters that stand for bytes. -/
def bytesOfChars (chars : List Char) : List UInt8 := chars.map fun c => UInt8.ofNat c.toNat

/-- Whether a character can stand in the value of a line. -/
def isValueChar (c : Char) : Bool := c == '\t' || (0x20 ≤ c.toNat && c != '\x7f')

/-- The text behind the end of a line, at which a reader is, or the fault `fault`. -/
def lineEnd (fault : HeadFault) : List Char → Except HeadFault (List Char)
  | '\n' :: rest => .ok rest
  | '\r' :: '\n' :: rest => .ok rest
  | ['\r'] => .error .endsEarly
  | [] => .error .endsEarly
  | _ => .error fault

/-- The text behind empty lines. -/
def skipEmptyLines : List Char → Except HeadFault (List Char)
  | '\n' :: rest => skipEmptyLines rest
  | '\r' :: '\n' :: rest => skipEmptyLines rest
  | '\r' :: rest => lineEnd .line ('\r' :: rest)
  | text => .ok text

/-- How every answer begins. -/
def mark : List Char := "HTTP/1.".toList

/-- Whether the version is the older one, and the text behind it. -/
def readVersion (text : List Char) : Except HeadFault (Bool × List Char) :=
  match text.take mark.length == mark, text.drop mark.length with
  | true, '0' :: ' ' :: rest => .ok (true, rest)
  | true, '1' :: ' ' :: rest => .ok (false, rest)
  | true, ['0'] => .error .endsEarly
  | true, ['1'] => .error .endsEarly
  | true, [] => .error .endsEarly
  | true, _ => .error .version
  | false, _ => .error (if text.isPrefixOf mark then .endsEarly else .version)

/-- The value of three digits, and the text behind them. -/
def readStatus (text : List Char) : Except HeadFault (Nat × List Char) :=
  let digits := text.take 3
  if !digits.all Char.isDigit then .error .status
  else if digits.length < 3 then .error .endsEarly
  else .ok (digits.foldl (fun n c => n * 10 + (c.toNat - 0x30)) 0, text.drop 3)

/-- The text behind what is said about the status. -/
def skipReason : List Char → Except HeadFault (List Char)
  | ' ' :: rest => lineEnd .status (rest.dropWhile isValueChar)
  | rest => lineEnd .status rest

/-- A line with a name and a value, and the text behind it. -/
def readField (text : List Char) : Except HeadFault ((String × List UInt8) × List Char) := do
  let name := text.takeWhile MediaType.isTokenChar
  match name, text.drop name.length with
  | [], _ => .error .line
  | _, [] => .error .endsEarly
  | name, ':' :: rest =>
    let value := rest.takeWhile isValueChar
    let rest ← lineEnd .line (rest.drop value.length)
    return ((String.ofList (name.map Char.toLower), bytesOfChars (MediaType.trimmed value)), rest)
  | _, _ => .error .line

/-- The greatest number of lines with a name and a value. -/
def fieldLimit : Nat := 100

/-- The lines up to the empty one, of which there may be `left`, and the text behind it. -/
def readFields (left : Nat) (text : List Char) :
    Except HeadFault (List (String × List UInt8) × List Char) :=
  match text with
  | '\n' :: rest => .ok ([], rest)
  | '\r' :: rest => (lineEnd .line ('\r' :: rest)).map fun rest => ([], rest)
  | [] => .error .endsEarly
  | text => do
    let (field, rest) ← readField text
    match left with
    | 0 => .error .tooLarge
    | left + 1 =>
      let (fields, rest) ← readFields left rest
      return (field :: fields, rest)

/-- Whether a number can be a status. -/
def isStatus (status : Nat) : Bool := 100 ≤ status && status ≤ 999

/-- What stands in front of a page, and the page. -/
def read (bytes : List UInt8) : Except HeadFault (Head × List UInt8) := do
  let text ← skipEmptyLines (charsOfBytes bytes)
  let (isOld, text) ← readVersion text
  let (status, text) ← readStatus text
  let text ← skipReason text
  let (fields, text) ← readFields fieldLimit text
  if isStatus status then return (⟨isOld, status, fields⟩, bytesOfChars text)
  else .error .status

/-- Lines with these names and texts, if they are such lines and no others. -/
def ofTexts (status : Nat) (texts : List (String × String)) : Except HeadFault Head := do
  if !isStatus status then .error .status
  let lines := texts.flatMap fun line => line.1.toList ++ ':' :: line.2.toList ++ ['\r', '\n']
  let bytes := Utf8.encode (lines ++ ['\r', '\n'])
  let (fields, rest) ← readFields fieldLimit (charsOfBytes bytes)
  if rest.isEmpty then return ⟨false, status, fields⟩ else .error .line

/-! ## Values -/

/-- The value of the first line with a name, if it is a text. -/
def text? (head : Head) (name : String) : Option String := do
  let value ← head.fields.lookup name
  if Utf8.isValid value then some (String.ofList (Utf8.decode value)) else none

/-- The values of all lines with a name. -/
def values (head : Head) (name : String) : List (List Char) :=
  (head.fields.filter fun field => field.1 == name).map fun field => charsOfBytes field.2

/-- The greatest length that can be announced. -/
def lengthLimit : Nat := (1 <<< 64) - 3

/-- The announced length of the page.  It may be announced several times if it is the same. -/
def length? (head : Head) : Except HeadFault (Option Nat) :=
  let numbers := ((head.values "content-length").flatMap (pieces (· == ','))).map fun value =>
    let digits := MediaType.trimmed value
    if digits.head? = some '+' then none else (readNumber (String.ofList digits)).toOption
  match numbers with
  | [] => .ok none
  | none :: _ => .error .length
  | some length :: rest =>
    if !rest.all (· == some length) then .error .length
    else if lengthLimit < length then .error .tooLarge
    else .ok (some length)

/-! ## Pages -/

/-- Whether an answer of this status has a page at all. -/
def hasPage (status : Nat) : Bool := !(status < 200 || status == 204 || status == 304)

/-- Whether the way in which a page comes is, in the end, in pieces. -/
def isInPieces (way : List Char) : Bool :=
  let last := ((pieces (· == ',') way).getLast?).getD []
  way.all MediaType.isAllowed && (MediaType.trimmed last).map Char.toLower == "chunked".toList

/-- The page behind this, out of the bytes that came behind it.  If nothing is said of its length,
it goes on to the end. -/
def page (head : Head) (bytes : List UInt8) : Except HeadFault (Except PageFault (List UInt8)) :=
  if !hasPage head.status then .ok (.ok [])
  else match (head.values "transfer-encoding").getLast? with
    | some way =>
      if head.isOld then .error .pieces
      else if isInPieces way then .ok ((Chunks.read (charsOfBytes bytes)).map bytesOfChars)
      else .ok (.ok bytes)
    | none => do
      match ← head.length? with
      | none => return .ok bytes
      | some length =>
        if bytes.length < length then return .error .endsEarly
        return .ok (bytes.take length)

example : readStatus "204\n".toList = .ok (204, ['\n']) ∧
    readStatus "2x".toList = .error .status := ⟨rfl, rfl⟩

example : isInPieces "gzip, Chunked".toList = true ∧
    isInPieces "chunked, gzip".toList = false := by decide

end Head

end PageCensus
