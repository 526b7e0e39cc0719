import PageCensus.Fetch.Basic

/-!
# The way of redirects

One address leads to the next one as long as the answers say so.  The way is the same however many
requests may be made, and the bound only decides how much of it is gone: to an address that leads
nowhere else, or to the one for which there is no request left.

* `Server.Leads`, `Server.Ends` — a way over addresses, and how it can end.
* `redirect?_eq_some_iff` — where an answer leads.
* `follow_of_leads`, `follow_of_ends` — the way is gone as it leads, and ends as it does.
* `follow_of_leads_of_ends`, `follow_of_exhausted` — so it is gone to its end, or no further than
  there are requests.
* `exists_leads` — there is no third case.
-/

set_option autoImplicit false

namespace PageCensus

/-- A way over addresses: if `sent` requests were made before, asking for `url` leads over the
addresses `asked`, one after the other, to the address `last`, which was not yet asked for. -/
inductive Server.Leads (server : Server) : Nat → Url → List Url → Url → Prop where
  /-- Nothing was asked yet. -/
  | here (sent : Nat) (url : Url) : Leads server sent url [] url
  /-- The answer leads to another address. -/
  | next {sent : Nat} {url next last : Url} {asked : List Url} {response : Response}
      {answer : Answer} (hserved : isServed url = true)
      (hresponse : server.answer? sent = some response) (hanswer : response.answer = .ok answer)
      (hnext : answer.redirect? url = some next) (hlast : Leads server (sent + 1) next asked last) :
      Leads server sent url (url :: asked) last

/-- How a way ends at the address `last` when `sent` requests were made before, and the addresses
that are still asked for. -/
inductive Server.Ends (server : Server) (sent : Nat) (last : Url) : Pursuit → List Url → Prop where
  /-- Nobody can be asked for the address. -/
  | unserved (hserved : isServed last = false) : Ends server sent last .unserved []
  /-- Nobody answers. -/
  | refused (hserved : isServed last = true) (hresponse : server.answer? sent = none) :
      Ends server sent last .refused [last]
  /-- What is answered is no answer. -/
  | garbled {response : Response} {fault : HeadFault} (hserved : isServed last = true)
      (hresponse : server.answer? sent = some response)
      (hanswer : response.answer = .error fault) : Ends server sent last (.garbled fault) [last]
  /-- The answer leads nowhere else. -/
  | answered {response : Response} {answer : Answer} (hserved : isServed last = true)
      (hresponse : server.answer? sent = some response) (hanswer : response.answer = .ok answer)
      (hnext : answer.redirect? last = none) : Ends server sent last (.answered answer) [last]

variable {server : Server} {sent left : Nat} {url next last : Url} {asked more : List Url}
  {pursuit : Pursuit}

/-! ## One request -/

/-- **Where an answer leads**: to the address that it names, if its status says so and the address
can be asked for. -/
theorem redirect?_eq_some_iff {answer : Answer} : answer.redirect? url = some next ↔
    answer.status ∈ [301, 302, 303, 307, 308] ∧ ∃ place, answer.location = some place ∧
      url.join place = .ok next ∧ next.isRequestable = true := by
  constructor
  · intro h
    rw [Answer.redirect?] at h
    split at h
    · next hstatus =>
      refine ⟨List.contains_iff_mem.1 hstatus, ?_⟩
      split at h
      · next target hjoin =>
        obtain ⟨place, hlocation, hplace⟩ := Option.map_eq_some_iff.1 hjoin
        by_cases hrequestable : target.isRequestable = true
        · rw [if_pos hrequestable] at h
          cases h
          exact ⟨place, hlocation, hplace, hrequestable⟩
        · rw [if_neg hrequestable] at h
          cases h
      · cases h
    · cases h
  · rintro ⟨hstatus, place, hlocation, hplace, hrequestable⟩
    have hredirect : Answer.isRedirectStatus answer.status = true :=
      List.contains_iff_mem.2 hstatus
    simp only [Answer.redirect?, hredirect, hlocation, Option.map_some, hplace, hrequestable,
      if_true]

theorem follow_of_redirect {response : Response} {answer : Answer} (hserved : isServed url = true)
    (hresponse : server.answer? sent = some response) (hanswer : response.answer = .ok answer)
    (hnext : answer.redirect? url = some next)
    (hfollow : follow server (sent + 1) left next = (pursuit, asked)) :
    follow server sent (left + 1) url = (pursuit, url :: asked) := by
  simp only [follow, hserved, hresponse, hanswer, hnext, hfollow, Bool.not_true,
    Bool.false_eq_true, if_false]

/-- **A way ends as it does**, if there is a request left. -/
theorem follow_of_ends (h : server.Ends sent last pursuit more) (left : Nat) :
    follow server sent (left + 1) last = (pursuit, more) := by
  cases h with
  | unserved hserved => simp only [follow, hserved, Bool.not_false, if_true]
  | refused hserved hresponse =>
    simp only [follow, hserved, hresponse, Bool.not_true, Bool.false_eq_true, if_false]
  | garbled hserved hresponse hanswer =>
    simp only [follow, hserved, hresponse, hanswer, Bool.not_true, Bool.false_eq_true, if_false]
  | answered hserved hresponse hanswer hnext =>
    simp only [follow, hserved, hresponse, hanswer, hnext, Bool.not_true, Bool.false_eq_true,
      if_false]

/-- An answer leads to another address, or the way ends. -/
theorem leads_or_ends (server : Server) (sent : Nat) (url : Url) :
    (∃ next, server.Leads sent url [url] next) ∨
      ∃ pursuit more, server.Ends sent url pursuit more := by
  cases hserved : isServed url with
  | false => exact Or.inr ⟨_, _, .unserved hserved⟩
  | true =>
    cases hresponse : server.answer? sent with
    | none => exact Or.inr ⟨_, _, .refused hserved hresponse⟩
    | some response =>
      cases hanswer : response.answer with
      | error fault => exact Or.inr ⟨_, _, .garbled hserved hresponse hanswer⟩
      | ok answer =>
        cases hnext : answer.redirect? url with
        | none => exact Or.inr ⟨_, _, .answered hserved hresponse hanswer hnext⟩
        | some next =>
          exact Or.inl ⟨next, .next hserved hresponse hanswer hnext (.here _ _)⟩

/-! ## The whole way -/

/-- **A way is gone as it leads**, if there are requests enough. -/
theorem follow_of_leads (h : server.Leads sent url asked last)
    (hlast : follow server (sent + asked.length) left last = (pursuit, more)) :
    follow server sent (asked.length + left) url = (pursuit, asked ++ more) := by
  induction h with
  | here sent url =>
    rw [List.length_nil, Nat.zero_add, List.nil_append]
    exact hlast
  | @next sent url next last asked response answer hserved hresponse hanswer hnext _ ih =>
    rw [List.length_cons, Nat.add_right_comm, List.cons_append]
    refine follow_of_redirect hserved hresponse hanswer hnext (ih ?_)
    rw [Nat.add_right_comm, Nat.add_assoc]
    exact hlast

/-- It is gone to its end if there is one more request, -/
theorem follow_of_leads_of_ends (h : server.Leads sent url asked last) (hlt : asked.length < left)
    (hends : server.Ends (sent + asked.length) last pursuit more) :
    follow server sent left url = (pursuit, asked ++ more) := by
  obtain ⟨rest, hrest⟩ := Nat.exists_eq_add_of_lt hlt
  rw [hrest, Nat.add_assoc]
  exact follow_of_leads h (follow_of_ends hends rest)

/-- and no further if there is none. -/
theorem follow_of_exhausted (h : server.Leads sent url asked last) (hleft : asked.length = left) :
    follow server sent left url = (.tooMany, asked) := by
  have hfollow : follow server sent (asked.length + 0) url = (.tooMany, asked ++ []) :=
    follow_of_leads h rfl
  rwa [Nat.add_zero, List.append_nil, hleft] at hfollow

/-- A way goes on where another one begins. -/
theorem Server.Leads.trans {middle : Url} {front : List Url}
    (h : server.Leads sent url front middle)
    (hlast : server.Leads (sent + front.length) middle asked last) :
    server.Leads sent url (front ++ asked) last := by
  induction h with
  | here sent url => exact hlast
  | @next sent url next middle front response answer hserved hresponse hanswer hnext _ ih =>
    refine .next hserved hresponse hanswer hnext (ih ?_)
    rw [Nat.add_right_comm, Nat.add_assoc]
    exact hlast

/-- **A way is gone to its end, or as far as there are requests.** -/
theorem exists_leads (server : Server) (sent left : Nat) (url : Url) :
    (∃ asked last, server.Leads sent url asked last ∧ asked.length = left) ∨
      ∃ asked last pursuit more, server.Leads sent url asked last ∧ asked.length < left ∧
        server.Ends (sent + asked.length) last pursuit more := by
  induction left with
  | zero => exact Or.inl ⟨[], url, .here _ _, rfl⟩
  | succ left ih =>
    rcases ih with ⟨asked, last, hleads, rfl⟩ | ⟨asked, last, pursuit, more, hleads, hlt, hends⟩
    · rcases leads_or_ends server (sent + asked.length) last with ⟨next, hnext⟩ | ⟨pursuit, more, h⟩
      · exact Or.inl ⟨asked ++ [last], next, hleads.trans hnext, List.length_append⟩
      · exact Or.inr ⟨asked, last, pursuit, more, hleads, Nat.lt_succ_self _, h⟩
    · exact Or.inr ⟨asked, last, pursuit, more, hleads, Nat.lt_succ_of_lt hlt, hends⟩

/-- Servers that give the same answers lead the same way. -/
theorem Server.Leads.congr {other : Server} (h : server.Leads sent url asked last)
    (hsame : ∀ n, sent ≤ n → n < sent + asked.length → other.answer? n = server.answer? n) :
    other.Leads sent url asked last := by
  induction h with
  | here sent url => exact .here sent url
  | @next sent url next last asked response answer hserved hresponse hanswer hnext _ ih =>
    rw [List.length_cons] at hsame
    refine .next hserved ?_ hanswer hnext (ih fun n hn hlt => hsame n (by omega) (by omega))
    rw [hsame sent (Nat.le_refl _) (by omega), hresponse]

end PageCensus
