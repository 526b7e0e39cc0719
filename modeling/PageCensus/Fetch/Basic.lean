import PageCensus.Event
import PageCensus.Fetch.Response

/-!
# Fetching a page

To fetch a page is to ask for its address, to follow redirects, and to read what the last answer
brought as text.  An answer that says something went wrong is taken for the page all the same, with
a warning; what is no answer at all is not.  At most ten requests are made for one page, so a chain
of redirects always comes to an end.

Whoever fetches a page says which charsets it may be in.  Nothing else depends on them.

* `follow` — ask, and follow redirects.
* `fetch`, `fetchPage` — the text of a page, with an error or without.
-/

set_option autoImplicit false

namespace PageCensus

/-- The greatest number of requests for one page. -/
def requestLimit : Nat := 10

/-- Whether an address is of a scheme that is served. -/
def isServed (url : Url) : Bool := ["http", "https"].contains url.scheme

/-- What came of asking for an address and of following redirects. -/
inductive Pursuit where
  /-- An answer that leads nowhere else. -/
  | answered (answer : Answer)
  /-- Something else than an answer. -/
  | garbled (fault : HeadFault)
  /-- Nobody answered. -/
  | refused
  /-- The next address is of a scheme that is not served. -/
  | unserved
  /-- Another request would have been one too many. -/
  | tooMany

/-- Ask for an address, and follow redirects with at most `left` requests, when there were `sent`
before.  The result holds all addresses that were asked for. -/
def follow (server : Server) (sent : Nat) : Nat → Url → Pursuit × List Url
  | 0, _ => (.tooMany, [])
  | left + 1, url =>
    if !isServed url then (.unserved, [])
    else match server.answer? sent with
      | none => (.refused, [url])
      | some response =>
        match response.answer with
        | .error fault => (.garbled fault, [url])
        | .ok answer =>
          match answer.redirect? url with
          | none => (.answered answer, [url])
          | some next =>
            let (pursuit, asked) := follow server (sent + 1) left next
            (pursuit, url :: asked)

/-- No more requests are made than are left. -/
theorem length_follow_le (server : Server) (sent left : Nat) (url : Url) :
    (follow server sent left url).2.length ≤ left := by
  induction left generalizing sent url with
  | zero => exact Nat.le_refl 0
  | succ left ih =>
    rw [follow]
    split
    · exact Nat.zero_le _
    · split
      · simp
      · split
        · simp
        · split
          · simp
          · next next _ => simpa using ih (sent + 1) next

/-- All that came of fetching a page. -/
structure Fetched where
  /-- Its text, or why there is none. -/
  result : Except FetchError String
  /-- What the server was asked for. -/
  requests : List String
  /-- The events on the way. -/
  log : List Event

/-- The events and the text of the last answer. -/
def readAnswer (charsets : Charsets) (address : String) (answer : Answer) :
    List Event × Except FetchError String :=
  let warning := if answer.isSuccess then [] else [.statusIgnored address answer.status]
  match answer.text charsets with
  | .error fault => (warning, .error (.request address (.badPage fault)))
  | .ok text => (warning ++ [.pageFetched address text.utf8ByteSize], .ok text)

/-- Fetch a page from a server, to be read in these charsets.  Errors are about the address as it
was given, and what they say of the request names it without the user. -/
def fetch (server : Server) (address : String) (charsets : Charsets := Charsets.builtIn) :
    Fetched :=
  match Url.ofText address with
  | .error cause => ⟨.error (.invalidUrl address cause), [], []⟩
  | .ok url =>
    let url := url.withoutUser
    let failed (fault : RequestFault) : Except FetchError String := .error (.request address fault)
    if isServed url && !url.isRequestable then ⟨failed (.notRequestable url.text), [], []⟩
    else
      let (pursuit, asked) := follow server 0 requestLimit url
      let requests := asked.map fun url => "GET " ++ url.requestTarget
      match pursuit with
      | .answered answer =>
        let (log, result) := readAnswer charsets address answer
        ⟨result, requests, log⟩
      | .garbled fault => ⟨failed (.badHead url.text fault), requests, []⟩
      | .refused => ⟨failed (.connectionRefused url.text), [], []⟩
      | .unserved => ⟨failed (.unsupportedScheme url.text), requests, []⟩
      | .tooMany => ⟨failed (.tooManyRedirects url.text), requests, []⟩

/-- Fetch a page for a run, in which an error is an event and no more. -/
def fetchPage (server : Server) (address : String) (charsets : Charsets := Charsets.builtIn) :
    Option String × List String × List Event :=
  let fetched := fetch server address charsets
  match fetched.result with
  | .ok text => (some text, fetched.requests, fetched.log)
  | .error error => (none, fetched.requests, fetched.log ++ [.pageSkipped address error])

end PageCensus
