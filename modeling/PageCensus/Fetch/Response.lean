import PageCensus.Charset.Basic
import PageCensus.Fetch.Head
import PageCensus.Url.Parser
import PageCensus.Url.Requestable

/-!
# Answers of a server

What a server sends back when it is asked for a page, as far as it matters here.

* `Response.answer` — the answer in what a server sends, or what is wrong with it.
* `Answer.redirect?` — where an answer leads instead of giving a page.
* `Answer.text` — the page as text, in the charset that was declared, or what is wrong with it.
* `Server`, `Server.answer?` — a server that gives its answers in a fixed order.
-/

set_option autoImplicit false

namespace PageCensus

/-- What a server sends back. -/
structure Response where
  /-- The number that says how the request went. -/
  status : Nat := 200
  /-- What kind of text the page is. -/
  contentType : Option String := none
  /-- Where else to look. -/
  location : Option String := none
  /-- The bytes of the page. -/
  body : List UInt8 := []
  /-- How many of the announced bytes never came. -/
  missing : Nat := 0
deriving Repr

/-- An answer to a request. -/
structure Answer where
  /-- The number that says how the request went. -/
  status : Nat
  /-- What kind of text the page is. -/
  contentType : Option String
  /-- Where else to look. -/
  location : Option String
  /-- The bytes of the page, or what is wrong with them. -/
  page : Except PageFault (List UInt8)

namespace Response

/-- What stands in front of the page. -/
def head (response : Response) : Except HeadFault Head :=
  let line (name : String) (value : Option String) := value.toList.map fun value => (name, value)
  Head.ofTexts response.status
    (line "content-type" response.contentType ++ line "location" response.location ++
      [("content-length", toString (response.body.length + response.missing))])

/-- Whether an answer of this status only says that the answer is still to come. -/
def isInterim (status : Nat) : Bool := 100 ≤ status && status < 200 && status != 101

/-- The answer that begins with this, when these bytes come behind it, if it is found behind at most
`bound` that only say that it is still to come. -/
def answerWithin : Nat → Head → List UInt8 → Except HeadFault Answer
  | 0, _, _ => .error .endsEarly
  | bound + 1, head, bytes => do
    if isInterim head.status then
      let (head, bytes) ← Head.read bytes
      answerWithin bound head bytes
    else
      return { status := head.status, contentType := head.text? "content-type",
               location := head.text? "location", page := ← head.page bytes }

/-- The answer in a response.  Where it only says that the answer is still to come, that one is in
the page. -/
def answer (response : Response) : Except HeadFault Answer := do
  answerWithin (response.body.length + 1) (← response.head) response.body

end Response

namespace Answer

/-- Whether an answer says that the request went well. -/
def isSuccess (answer : Answer) : Bool := 200 ≤ answer.status && answer.status ≤ 299

/-! ## Where it leads -/

/-- Whether an answer of this status leads elsewhere. -/
def isRedirectStatus (status : Nat) : Bool := [301, 302, 303, 307, 308].contains status

/-- Where an answer leads when `url` was asked for.  A place that cannot be asked for leads
nowhere. -/
def redirect? (answer : Answer) (url : Url) : Option Url :=
  if isRedirectStatus answer.status then
    match answer.location.map url.join with
    | some (.ok next) => if next.isRequestable then some next else none
    | _ => none
  else none

/-! ## The page -/

/-- How bytes are read in the charset that was declared along with the page; in UTF-8 if none was,
or one that is not known. -/
def decoder (charsets : Charsets) (answer : Answer) : List UInt8 → List Char :=
  ((answer.contentType.bind MediaType.charset?).bind charsets).getD Utf8.decode

/-- Bytes of the page as text. -/
def read (charsets : Charsets) (answer : Answer) (bytes : List UInt8) : String :=
  String.ofList (decodePage (answer.decoder charsets) bytes)

/-- The page as text. -/
def text (charsets : Charsets) (answer : Answer) : Except PageFault String :=
  answer.page.map (answer.read charsets)

end Answer

/-- A server, as the answers it gives one after the other. -/
abbrev Server := List Response

/-- The answer to the request before which there were `n`: the last answer is given again and
again.  A server without any answer is not there. -/
def Server.answer? (server : Server) (n : Nat) : Option Response :=
  (server[n]?).or server.getLast?

end PageCensus
