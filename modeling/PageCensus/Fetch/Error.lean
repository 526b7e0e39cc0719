import PageCensus.Url.Error

/-!
# Why a page could not be fetched

Either its address is none, so that nothing was asked for, or the request for it failed.  In both
cases the error carries the address as it was given, never one that a redirect led to.

* `HeadFault`, `PageFault`, `RequestFault` — what can go wrong with the front of an answer, with the
  page behind it, and with a request.
* `FetchError`, `FetchError.message` — the error and its wording.
-/

set_option autoImplicit false

namespace PageCensus

/-- What is wrong with the lines in front of a page. -/
inductive HeadFault where
  /-- The status is no number of three digits. -/
  | status
  /-- A line holds a character that no line may hold. -/
  | line
  /-- They do not begin as answers do. -/
  | version
  /-- The announced length is none. -/
  | length
  /-- A page in pieces is announced by an answer of a kind that has none. -/
  | pieces
  /-- There are too many lines, or the announced length is too great. -/
  | tooLarge
  /-- They end too early. -/
  | endsEarly
deriving DecidableEq, Repr

/-- How the fault is worded. -/
def HeadFault.message : HeadFault → String
  | status => "invalid HTTP status-code parsed"
  | line => "invalid HTTP header parsed"
  | version => "invalid HTTP version parsed"
  | length => "invalid content-length parsed"
  | pieces => "unexpected transfer-encoding parsed"
  | tooLarge => "message head is too large"
  | endsEarly => "connection closed before message completed"

/-- What is wrong with the bytes of a page. -/
inductive PageFault where
  /-- They end before their announced length, or inside a piece. -/
  | endsEarly
  /-- They end outside the pieces. -/
  | lineEndsEarly
  /-- A piece has no length. -/
  | noLength
  /-- The length of a piece is no number. -/
  | length
  /-- The length of a piece is too great. -/
  | lengthTooGreat
  /-- Blanks behind the length of a piece are followed by something else than remarks. -/
  | blanks
  /-- Remarks behind the length of a piece hold a line feed. -/
  | remarks
  /-- A carriage return behind the length of a piece is not followed by a line feed. -/
  | lengthEnd
  /-- A piece is not followed by a carriage return. -/
  | behind
  /-- A carriage return behind a piece is not followed by a line feed. -/
  | behindEnd
  /-- A carriage return in a line behind the last piece is not followed by a line feed. -/
  | trailerEnd
  /-- A carriage return in the empty line behind the last piece is not followed by a line feed. -/
  | lastEnd
deriving DecidableEq, Repr

/-- How the fault is worded. -/
def PageFault.message : PageFault → String
  | endsEarly => "end of file before message length reached"
  | lineEndsEarly => "unexpected EOF during chunk size line"
  | noLength => "Invalid chunk size line: missing size digit"
  | length => "Invalid chunk size line: Invalid Size"
  | lengthTooGreat => "invalid chunk size: overflow"
  | blanks => "Invalid chunk size linear white space"
  | remarks => "invalid chunk extension contains newline"
  | lengthEnd => "Invalid chunk size LF"
  | behind => "Invalid chunk body CR"
  | behindEnd => "Invalid chunk body LF"
  | trailerEnd => "Invalid trailer end LF"
  | lastEnd => "Invalid chunk end LF"

/-- Why a request failed.  The addresses in here are written in full, with nothing left to
defaults. -/
inductive RequestFault where
  /-- The address is of a scheme that is not served. -/
  | unsupportedScheme (url : String)
  /-- The address cannot stand in a request. -/
  | notRequestable (url : String)
  /-- One redirect led to another too often. -/
  | tooManyRedirects (url : String)
  /-- Nobody listens at the address. -/
  | connectionRefused (url : String)
  /-- What was answered is no answer. -/
  | badHead (url : String) (fault : HeadFault)
  /-- The answer is one, but the page is not as it was announced. -/
  | badPage (fault : PageFault)
deriving DecidableEq, Repr

/-- How a failed request is worded. -/
def RequestFault.message : RequestFault → String
  | unsupportedScheme url => "builder error for url (" ++ url ++ "): URL scheme is not allowed"
  | notRequestable url => "builder error for url (" ++ url ++ "): Parsed Url is not a valid Uri"
  | tooManyRedirects url =>
    "error following redirect for url (" ++ url ++ "): too many redirects"
  | connectionRefused url =>
    "error sending request for url (" ++ url ++
      "): error trying to connect: tcp connect error: Connection refused (os error 111)"
  | badHead url fault => "error sending request for url (" ++ url ++ "): " ++ fault.message
  | badPage fault =>
    "request or response body error: error reading a body from connection: " ++ fault.message

/-- Why a page could not be fetched. -/
inductive FetchError where
  /-- The address is none. -/
  | invalidUrl (url : String) (cause : UrlError)
  /-- The request failed. -/
  | request (url : String) (cause : RequestFault)
deriving DecidableEq, Repr

/-- How the error is worded. -/
def FetchError.message : FetchError → String
  | invalidUrl url cause => "invalid URL " ++ url ++ ": " ++ cause.message
  | request url cause => "request to " ++ url ++ " failed: " ++ cause.message

end PageCensus
