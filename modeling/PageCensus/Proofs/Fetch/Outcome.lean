import PageCensus.Proofs.Fetch.Answer
import PageCensus.Proofs.Fetch.Redirects

/-!
# What a page turns out to be

Redirects lead over some addresses to the one whose answer is the last.  If all of its page came,
the text of the page is what was fetched, whatever the status says; the status is worth a warning
at most.  If the page was cut off, or if there is no last answer because the way of redirects does
not come to an end, the request failed, and the error names the address that was given.

The charsets that a reader knows decide how the bytes of the page become its text, and nothing else.
So they are the same throughout, and any will do.

* `Server.Settles` — which answer of a server is the last one.
* `fetch_of_settles`, `fetch_of_exhausted`, `fetch_of_not_settles` — the ways in which fetching a
  page ends.
* `Server.Settles.withStatus` — another status changes nothing about where the way ends.
* `Server.GivesLastPage`, `givesLastPage` — **what is fetched is the page of the last answer**.
-/

set_option autoImplicit false

namespace PageCensus

/-- The address that an error is about. -/
def FetchError.address : FetchError → String
  | invalidUrl url _ => url
  | request url _ => url

/-- What a status is worth: a warning, unless it says that all went well. -/
def warning (address : String) (status : Nat) : List Event :=
  if 200 ≤ status ∧ status ≤ 299 then [] else [.statusIgnored address status]

/-- What a server is asked for along a way. -/
def requestsFor (way : List Url) : List String := way.map fun url => "GET " ++ url.requestTarget

/-- **The last answer**: redirects lead from `start` over the addresses `front` to the address
`last`, for which there is a request left, and the answer to it leads nowhere else. -/
structure Server.Settles (server : Server) (start : Url) (front : List Url) (last : Url)
    (response : Response) (answer : Answer) : Prop where
  /-- The first address can stand in a request. -/
  requestable : start.isRequestable = true
  /-- The way leads to the last address, -/
  leads : server.Leads 0 start front last
  /-- for which there is a request left, -/
  inTime : front.length < requestLimit
  /-- and which somebody can be asked for. -/
  served : isServed last = true
  /-- This is what is sent back, -/
  received : server.answer? front.length = some response
  /-- this is the answer in it, -/
  reads : response.answer = .ok answer
  /-- and it leads nowhere else. -/
  stays : answer.redirect? last = none

variable {server : Server} {charsets : Charsets} {address : String} {url start last : Url}
  {front asked : List Url} {response : Response} {answer : Answer} {pursuit : Pursuit}

/-! ## The ways in which fetching a page ends -/

theorem warning_eq (answer : Answer) : warning address answer.status =
    if answer.isSuccess then [] else [.statusIgnored address answer.status] := by
  simp only [warning, Answer.isSuccess, Bool.and_eq_true, decide_eq_true_eq]

theorem readAnswer_of_complete {bytes : List UInt8} (h : answer.page = .ok bytes) :
    readAnswer charsets address answer =
      (warning address answer.status ++ [.pageFetched address
        (answer.read charsets bytes).utf8ByteSize],
      .ok (answer.read charsets bytes)) := by
  rw [readAnswer, Answer.text, h, warning_eq]
  rfl

theorem readAnswer_of_cutOff {fault : PageFault} (h : answer.page = .error fault) :
    readAnswer charsets address answer =
      (warning address answer.status, .error (.request address (.badPage fault))) := by
  rw [readAnswer, Answer.text, h, warning_eq]
  rfl

/-- An answer that is no page is an error about the address as it was given. -/
theorem address_of_readAnswer {error : FetchError}
    (h : (readAnswer charsets address answer).2 = .error error) : error.address = address := by
  cases hpage : answer.page with
  | ok bytes =>
    rw [readAnswer_of_complete hpage] at h
    cases h
  | error fault =>
    rw [readAnswer_of_cutOff hpage] at h
    cases h
    rfl

/-- What is fetched where the way of redirects ended in this way. -/
def Pursuit.fetched (charsets : Charsets) (address : String) (start : Url) (asked : List Url) :
    Pursuit → Fetched
  | answered answer =>
    ⟨(readAnswer charsets address answer).2, requestsFor asked,
      (readAnswer charsets address answer).1⟩
  | garbled fault =>
    ⟨.error (.request address (.badHead start.text fault)), requestsFor asked, []⟩
  | refused => ⟨.error (.request address (.connectionRefused start.text)), [], []⟩
  | unserved =>
    ⟨.error (.request address (.unsupportedScheme start.text)), requestsFor asked, []⟩
  | tooMany => ⟨.error (.request address (.tooManyRedirects start.text)), requestsFor asked, []⟩

theorem fetch_of_follow (hurl : Url.ofText address = .ok url)
    (hstart : (isServed url.withoutUser && !url.withoutUser.isRequestable) = false)
    (hfollow : follow server 0 requestLimit url.withoutUser = (pursuit, asked)) :
    fetch server address charsets = pursuit.fetched charsets address url.withoutUser asked := by
  simp only [fetch, hurl, hstart, hfollow, Bool.false_eq_true, if_false]
  cases pursuit <;> rfl

theorem isServed_and_not_isRequestable (h : start.isRequestable = true) :
    (isServed start && !start.isRequestable) = false := by
  rw [h, Bool.not_true, Bool.and_false]

/-- The way to the last answer is gone. -/
theorem Server.Settles.follow_eq (h : server.Settles start front last response answer) :
    follow server 0 requestLimit start = (.answered answer, front ++ [last]) := by
  refine follow_of_leads_of_ends h.leads h.inTime ?_
  exact .answered h.served ((Nat.zero_add _).symm ▸ h.received) h.reads h.stays

/-- **What is fetched is what the last answer is read as.** -/
theorem fetch_of_settles (hurl : Url.ofText address = .ok url)
    (h : server.Settles url.withoutUser front last response answer) :
    fetch server address charsets = ⟨(readAnswer charsets address answer).2,
      requestsFor (front ++ [last]), (readAnswer charsets address answer).1⟩ :=
  fetch_of_follow hurl (isServed_and_not_isRequestable h.requestable) h.follow_eq

/-- **Ten redirects are too many.** -/
theorem fetch_of_exhausted (hurl : Url.ofText address = .ok url)
    (hrequestable : url.withoutUser.isRequestable = true)
    (hleads : server.Leads 0 url.withoutUser front last) (hlength : front.length = requestLimit) :
    fetch server address charsets =
      ⟨.error (.request address (.tooManyRedirects url.withoutUser.text)), requestsFor front,
        []⟩ :=
  fetch_of_follow hurl (isServed_and_not_isRequestable hrequestable)
    (follow_of_exhausted hleads hlength)

/-- A way that ends where somebody can be asked begins there too. -/
theorem Server.Leads.isServed_start {sent : Nat} (h : server.Leads sent start front last)
    (hserved : isServed last = true) : isServed start = true := by
  cases h with
  | here => exact hserved
  | next hserved => exact hserved

/-- **Without a last answer the request fails**, and nothing is said about it. -/
theorem fetch_of_not_settles (hurl : Url.ofText address = .ok url)
    (h : ∀ front last response answer,
      ¬server.Settles url.withoutUser front last response answer) :
    ∃ fault requests, requests.length ≤ requestLimit ∧
      fetch server address charsets = ⟨.error (.request address fault), requests, []⟩ := by
  cases hstart : isServed url.withoutUser && !url.withoutUser.isRequestable with
  | true =>
    refine ⟨.notRequestable url.withoutUser.text, [], Nat.zero_le _, ?_⟩
    simp only [fetch, hurl, hstart, if_true]
  | false =>
    have hbound := length_follow_le server 0 requestLimit url.withoutUser
    rcases exists_leads server 0 requestLimit url.withoutUser with
      ⟨front, last, hleads, hlength⟩ | ⟨front, last, pursuit, more, hleads, hlt, hends⟩
    · rw [fetch_of_follow hurl hstart (follow_of_exhausted hleads hlength)]
      exact ⟨_, _, Nat.le_of_eq ((List.length_map _).trans hlength), rfl⟩
    · have hfollow := follow_of_leads_of_ends hleads hlt hends
      rw [hfollow, ← List.length_map fun url : Url => "GET " ++ url.requestTarget] at hbound
      rw [fetch_of_follow hurl hstart hfollow]
      cases hends with
      | unserved => exact ⟨_, _, hbound, rfl⟩
      | refused => exact ⟨_, _, Nat.zero_le _, rfl⟩
      | garbled => exact ⟨_, _, hbound, rfl⟩
      | answered hserved hresponse hanswer hnext =>
        -- this would be a last answer
        have hrequestable : url.withoutUser.isRequestable = true := by
          rw [hleads.isServed_start hserved, Bool.true_and, Bool.not_eq_false'] at hstart
          exact hstart
        rw [Nat.zero_add] at hresponse
        exact absurd ⟨hrequestable, hleads, hlt, hserved, hresponse, hanswer, hnext⟩
          (h front last _ _)

/-- There is no address, or a last answer, or the request fails. -/
theorem fetch_cases (server : Server) (charsets : Charsets) (address : String) :
    (∃ cause, Url.ofText address = .error cause ∧
      fetch server address charsets = ⟨.error (.invalidUrl address cause), [], []⟩) ∨
    (∃ url front last response answer, Url.ofText address = .ok url ∧
      server.Settles url.withoutUser front last response answer) ∨
    ∃ fault requests, requests.length ≤ requestLimit ∧
      fetch server address charsets = ⟨.error (.request address fault), requests, []⟩ := by
  cases hurl : Url.ofText address with
  | error cause => exact Or.inl ⟨cause, rfl, by simp only [fetch, hurl]⟩
  | ok url =>
    refine Or.inr ?_
    by_cases h : ∃ front last response answer,
      server.Settles url.withoutUser front last response answer
    · obtain ⟨front, last, response, answer, h⟩ := h
      exact Or.inl ⟨url, front, last, response, answer, rfl, h⟩
    · refine Or.inr (fetch_of_not_settles hurl fun front last response answer hsettles => ?_)
      exact h ⟨front, last, response, answer, hsettles⟩

/-! ## Another status -/

theorem redirect?_withStatus {status : Nat} (h : Answer.isRedirectStatus status = false)
    (url : Url) : ({ answer with status := status } : Answer).redirect? url = none := by
  rw [Answer.redirect?, h]
  rfl

/-- The status is no part of what an answer is read as. -/
theorem readAnswer_withStatus {status : Nat} :
    (readAnswer charsets address { answer with status := status }).2 =
      (readAnswer charsets address answer).2 := by
  obtain ⟨_, contentType, location, page⟩ := answer
  cases page <;> rfl

/-- **Another status changes nothing about where the way ends**, if it does not lead on. -/
theorem Server.Settles.withStatus {other : Server} {status : Nat}
    (h : server.Settles start front last response answer)
    (hpage : Head.hasPage response.status = true) (hpage' : Head.hasPage status = true)
    (hstatus : Head.isStatus status = true) (hstays : Answer.isRedirectStatus status = false)
    (hsame : ∀ n < front.length, other.answer? n = server.answer? n)
    (hother : other.answer? front.length = some { response with status := status }) :
    other.Settles start front last { response with status := status }
      { answer with status := status } where
  requestable := h.requestable
  leads := h.leads.congr fun n _ hn => hsame n (by omega)
  inTime := h.inTime
  served := h.served
  received := hother
  reads := Response.answer_withStatus hpage hpage' hstatus h.reads
  stays := redirect?_withStatus hstays last

/-! ## All of it -/

/-- **What it means that the page of the last answer is fetched**, whatever a server answers and
wherever its answers lead. -/
structure Server.GivesLastPage (server : Server) (charsets : Charsets) (address : String) :
    Prop where
  /-- At most ten requests are made. -/
  atMostTen : (fetch server address charsets).requests.length ≤ 10
  /-- What is no address is an error, and nothing is asked for. -/
  noAddress : ∀ cause, Url.ofText address = .error cause →
    fetch server address charsets = ⟨.error (.invalidUrl address cause), [], []⟩
  /-- An answer leads to the address that it names if its status is one of these and the address can
  be asked for. -/
  leads : ∀ (answer : Answer) (url next : Url), answer.redirect? url = some next ↔
    answer.status ∈ [301, 302, 303, 307, 308] ∧ ∃ place, answer.location = some place ∧
      url.join place = .ok next ∧ next.isRequestable = true
  /-- If the page of the last answer is complete, its text is what is fetched, whatever the status.
  There is a warning about the status unless it says that all went well, then a note of how many
  bytes the text has, and nothing else. -/
  complete : ∀ url front last response answer bytes, Url.ofText address = .ok url →
    server.Settles url.withoutUser front last response answer → answer.page = .ok bytes →
      let text := answer.read charsets bytes
      fetch server address charsets = ⟨.ok text, requestsFor (front ++ [last]),
        warning address answer.status ++ [.pageFetched address text.utf8ByteSize]⟩
  /-- If it is cut off, or comes in a way in which no page comes, the request failed.  There is a
  warning about the status unless it says that all went well, and nothing else. -/
  cutOff : ∀ url front last response answer fault, Url.ofText address = .ok url →
    server.Settles url.withoutUser front last response answer → answer.page = .error fault →
      fetch server address charsets = ⟨.error (.request address (.badPage fault)),
        requestsFor (front ++ [last]), warning address answer.status⟩
  /-- A response that breaks no rule and leads nowhere else is such an answer.  Its page is complete
  if no byte of it is missing, and cut off otherwise. -/
  plain : ∀ url front last response, Url.ofText address = .ok url →
    url.withoutUser.isRequestable = true → server.Leads 0 url.withoutUser front last →
    front.length < 10 → isServed last = true → server.answer? front.length = some response →
    response.IsPlain → Head.hasPage response.status = true →
    response.arrival.redirect? last = none →
      let text := response.arrival.read charsets response.body
      fetch server address charsets =
        if response.missing = 0 then
          ⟨.ok text, requestsFor (front ++ [last]),
            warning address response.status ++ [.pageFetched address text.utf8ByteSize]⟩
        else
          ⟨.error (.request address (.badPage .endsEarly)), requestsFor (front ++ [last]),
            warning address response.status⟩
  /-- Another status that has a page and leads nowhere changes neither what is fetched nor what is
  asked for. -/
  otherStatus : ∀ url front last response answer status (other : Server),
    Url.ofText address = .ok url →
    server.Settles url.withoutUser front last response answer →
    Head.hasPage response.status = true → Head.hasPage status = true →
    Head.isStatus status = true → Answer.isRedirectStatus status = false →
    (∀ n < front.length, other.answer? n = server.answer? n) →
    other.answer? front.length = some { response with status := status } →
      (fetch other address charsets).result = (fetch server address charsets).result ∧
        (fetch other address charsets).requests = (fetch server address charsets).requests
  /-- If there is no last answer, the request failed, and nothing is said about it. -/
  unsettled : ∀ url, Url.ofText address = .ok url →
    (∀ front last response answer, ¬server.Settles url.withoutUser front last response answer) →
      (∃ fault, (fetch server address charsets).result = .error (.request address fault)) ∧
        (fetch server address charsets).log = []
  /-- So it is if redirects would lead on after ten requests. -/
  tooMany : ∀ url front last, Url.ofText address = .ok url →
    url.withoutUser.isRequestable = true → server.Leads 0 url.withoutUser front last →
    front.length = 10 →
      fetch server address charsets =
        ⟨.error (.request address (.tooManyRedirects url.withoutUser.text)), requestsFor front, []⟩
  /-- Every error is about the address as it was given. -/
  named : ∀ error, (fetch server address charsets).result = .error error → error.address = address
  /-- For a run there is a page if and only if there is no error. -/
  paged : ∀ text, (fetchPage server address charsets).1 = some text ↔
    (fetch server address charsets).result = .ok text

/-- **The page of the last answer is fetched.** -/
theorem givesLastPage (server : Server) (charsets : Charsets) (address : String) :
    server.GivesLastPage charsets address where
  atMostTen := by
    rcases fetch_cases server charsets address with ⟨cause, -, hfetch⟩ |
      ⟨url, front, last, response, answer, hurl, h⟩ | ⟨fault, requests, hbound, hfetch⟩
    · rw [hfetch]
      exact Nat.zero_le 10
    · rw [fetch_of_settles hurl h, requestsFor, List.length_map, List.length_append]
      exact h.inTime
    · rw [hfetch]
      exact hbound
  noAddress := by
    intro cause hurl
    simp only [fetch, hurl]
  leads := fun _ _ _ => redirect?_eq_some_iff
  complete := by
    intro url front last response answer bytes hurl h hpage
    rw [fetch_of_settles hurl h, readAnswer_of_complete hpage]
  cutOff := by
    intro url front last response answer fault hurl h hpage
    rw [fetch_of_settles hurl h, readAnswer_of_cutOff hpage]
  plain := by
    intro url front last response hurl hrequestable hleads hlt hserved hresponse hplain hpage
      hstays text
    have h : server.Settles url.withoutUser front last response response.arrival :=
      ⟨hrequestable, hleads, hlt, hserved, hresponse, Response.answer_of_isPlain hplain, hstays⟩
    have harrival := Response.page_arrival hpage
    rw [fetch_of_settles hurl h]
    by_cases hmissing : response.missing = 0
    · rw [if_pos hmissing] at harrival ⊢
      rw [readAnswer_of_complete harrival]
      rfl
    · rw [if_neg hmissing] at harrival ⊢
      rw [readAnswer_of_cutOff harrival]
      rfl
  otherStatus := by
    intro url front last response answer status other hurl h hpage hpage' hstatus hstays hsame
      hother
    have hsettles := h.withStatus hpage hpage' hstatus hstays hsame hother
    rw [fetch_of_settles hurl h, fetch_of_settles hurl hsettles]
    exact ⟨readAnswer_withStatus, rfl⟩
  unsettled := by
    intro url hurl h
    obtain ⟨fault, requests, -, hfetch⟩ := fetch_of_not_settles hurl h
    rw [hfetch]
    exact ⟨⟨fault, rfl⟩, rfl⟩
  tooMany := by
    intro url front last hurl hrequestable hleads hlength
    exact fetch_of_exhausted hurl hrequestable hleads hlength
  named := by
    intro error herror
    rcases fetch_cases server charsets address with ⟨cause, -, hfetch⟩ |
      ⟨url, front, last, response, answer, hurl, h⟩ | ⟨fault, requests, hbound, hfetch⟩
    · rw [hfetch] at herror
      exact Except.error.inj herror ▸ rfl
    · rw [fetch_of_settles hurl h] at herror
      exact address_of_readAnswer herror
    · rw [hfetch] at herror
      exact Except.error.inj herror ▸ rfl
  paged := by
    intro text
    rw [fetchPage]
    cases (fetch server address charsets).result with
    | error error => simp only [reduceCtorEq]
    | ok body => simp only [Option.some.injEq, Except.ok.injEq]

/-- Behind two redirects stands a page that is not found, in a charset that does not come with this
library. -/
theorem givesLastPage_behindRedirects :
    let charsets : Charsets := fun label =>
      if label = "iso-8859-2" then some fun bytes => bytes.map fun b =>
        if b = 0xE8 then '\u010d' else if b = 0xB9 then '\u0161' else Char.ofNat b.toNat
      else Charsets.builtIn label
    let server : Server := [{ status := 302, location := some "a" },
      { status := 307, location := some "/b#c" },
      { status := 404, contentType := some "text/html; charset=iso-8859-2", body := [0xE8, 0xB9] }]
    ∃ url front last response answer bytes, Url.ofText "http://page/x" = .ok url ∧
      server.Settles url.withoutUser front last response answer ∧ front.length = 2 ∧
      answer.page = .ok bytes ∧
      fetch server "http://page/x" charsets =
        ⟨.ok "\u010d\u0161", ["GET /x", "GET /a", "GET /b"],
          [.statusIgnored "http://page/x" 404, .pageFetched "http://page/x" 4]⟩ := by
  intro charsets server
  let first : Url :=
    { scheme := "http", host := some (.name "page"), path := .segments [['x']] }
  let second : Url := { first with path := .segments [['a']] }
  let third : Url := { first with path := .segments [['b']], fragment := some ['c'] }
  have hfirst : Url.ofText "http://page/x" = .ok first := by decide +kernel
  have harrival : ∀ response ∈ server, response.answer = .ok response.arrival := by
    have hplain : ∀ response ∈ server, response.IsPlain := by decide +kernel
    exact fun response hresponse => Response.answer_of_isPlain (hplain response hresponse)
  have hleads : server.Leads 0 first [first, second] third :=
    .next (by decide +kernel) rfl (harrival server[0] List.mem_cons_self) (by decide +kernel) <|
      .next (by decide +kernel) rfl (harrival server[1] (by simp [server])) (by decide +kernel) <|
        .here 2 third
  have hsettles : server.Settles first.withoutUser [first, second] third server[2]
      server[2].arrival := by
    have huser : first.withoutUser = first := by decide +kernel
    rw [huser]
    exact ⟨by decide +kernel, hleads, by decide, by decide +kernel, rfl,
      harrival server[2] (by simp [server]), by decide +kernel⟩
  have hpage : server[2].arrival.page = .ok [0xE8, 0xB9] := by decide +kernel
  have htext : server[2].arrival.read charsets [0xE8, 0xB9] = "\u010d\u0161" := by decide +kernel
  have hrequests : requestsFor ([first, second] ++ [third]) = ["GET /x", "GET /a", "GET /b"] := by
    decide +kernel
  have hfetch := (givesLastPage server charsets "http://page/x").complete first [first, second]
    third server[2] server[2].arrival [0xE8, 0xB9] hfirst hsettles hpage
  rw [htext, hrequests] at hfetch
  exact ⟨first, [first, second], third, server[2], server[2].arrival, [0xE8, 0xB9], hfirst,
    hsettles, rfl, hpage, hfetch⟩

/-- Redirects in a circle come to an end. -/
example : (fetch [{ status := 302, location := some "a" }, { status := 301, location := some "/" }]
    "http://page/").requests = ["GET /", "GET /a"] ++ List.replicate 8 "GET /" := by
  decide +kernel

end PageCensus
