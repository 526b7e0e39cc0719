import PageCensus.Proofs.Run.Skips
import PageCensus.Proofs.Run.Transcript

/-!
# The log of a run

What a run with output for everything reports while it works, event by event, and that it agrees
with what the run tells in the end.  The events of a page depend on the pages before it in one point
only: whether one of them was at least as long.

* `Event.Says` — what is written down of an event.
* `VisitsLogged`, `visitsLogged_visitsScript` — the events for the pages: a relation between pages
  and events, with one case for each way in which a page can be visited.
* `SaveLogged`, `saveLogged_saveAction` — the event for a file.
* `RunEvents`, `runEvents_runScript` — the events of a run, in order.
* `RunLogged`, `run_logged` — how the events of a run agree with its summary.
-/

set_option autoImplicit false

namespace PageCensus

/-! ## What is written down -/

/-- Whether an event is written down with a level, with a message, and with some details among its
fields. -/
structure Event.Says (event : Event) (level : Level) (message : String)
    (details : List (String × FieldValue)) : Prop where
  /-- The level. -/
  level_eq : event.level = level
  /-- The message. -/
  message_eq : event.message = message
  /-- The details, in this order. -/
  details_sublist : details.Sublist event.fields

/-- Whether an event reports that the file at a path was written. -/
def Event.SaysWritten (event : Event) (path : String) : Prop :=
  event.Says .info "Wrote counts file" [("file_path", .plainText (quoted path))]

/-- The events with a message. -/
def said (message : String) (events : List Event) : List Event :=
  events.filter fun event => event.message == message

section

variable {message other : String} {level : Level} {details : List (String × FieldValue)}
  {event : Event}

@[simp] theorem said_nil (message : String) : said message [] = [] := rfl

theorem said_append (message : String) (a b : List Event) :
    said message (a ++ b) = said message a ++ said message b := List.filter_append a b

theorem said_cons_of_message (h : event.Says level message details) (rest : List Event) :
    said message (event :: rest) = event :: said message rest :=
  List.filter_cons_of_pos (by rw [h.message_eq, beq_self_eq_true])

theorem said_cons_of_ne (h : event.Says level other details) (hne : other ≠ message)
    (rest : List Event) : said message (event :: rest) = said message rest :=
  List.filter_cons_of_neg (by rw [h.message_eq, beq_iff_eq]; exact hne)

end

/-! ## The events for the pages -/

/-- **The events for several pages**, where `earlier` are the pages fetched before them. -/
inductive VisitsLogged : List PageText → List Page → List Event → Prop where
  /-- Without pages there are none. -/
  | nil {earlier : List PageText} : VisitsLogged earlier [] []
  /-- A page that could not be fetched is reported with the reason. -/
  | skipped {earlier : List PageText} {page : Page} {pages : List Page} {error : FetchError}
      {event : Event} {events : List Event} (hresult : page.result = .error error)
      (hevent : event.Says .error "Skipping page"
        [("url", .quotedText page.url), ("error", .plainText error.message)])
      (rest : VisitsLogged earlier pages events) :
      VisitsLogged earlier (page :: pages) (event :: events)
  /-- A page that is longer than all fetched before is reported with the sizes of its tallies, and
  then with its length. -/
  | longer {earlier : List PageText} {page : Page} {pages : List Page} {body : String}
      {counted found : Event} {events : List Event} (hresult : page.result = .ok body)
      (hlonger : ∀ other ∈ earlier, other.body.length < body.length)
      (hcounted : counted.Says .debug "Counted page"
        [("unique_chars", .number (countChars body).size),
          ("unique_words", .number (countWords body).size)])
      (hfound : found.Says .info "New longest page"
        [("url", .plainText page.url), ("length", .number body.length)])
      (rest : VisitsLogged (earlier ++ [⟨page.url, body⟩]) pages events) :
      VisitsLogged earlier (page :: pages) (counted :: found :: events)
  /-- Any other page is reported with the sizes of its tallies only. -/
  | notLonger {earlier : List PageText} {page : Page} {pages : List Page} {body : String}
      {counted : Event} {events : List Event} (hresult : page.result = .ok body)
      (hother : ∃ other ∈ earlier, body.length ≤ other.body.length)
      (hcounted : counted.Says .debug "Counted page"
        [("unique_chars", .number (countChars body).size),
          ("unique_words", .number (countWords body).size)])
      (rest : VisitsLogged (earlier ++ [⟨page.url, body⟩]) pages events) :
      VisitsLogged earlier (page :: pages) (counted :: events)

/-- **The event for a file** of so many entries, and the paths that were written. -/
inductive SaveLogged (path : String) (entries : Nat) : List String → Event → Prop where
  /-- The file was written. -/
  | saved {event : Event} (h : event.Says .info "Wrote counts file"
      [("file_path", .plainText (quoted path)), ("entries", .number entries)]) :
      SaveLogged path entries [path] event
  /-- The file was not written, for some reason. -/
  | notSaved {event : Event} {fault : FileFault}
      (h : event.Says .error "Failed to write counts file"
        [("error", .plainText ("failed to write " ++ path ++ ": " ++ fault.message))]) :
      SaveLogged path entries [] event

/-! ## The log -/

/-- **The events of a run, in order**, for the summary that the run ends with. -/
inductive RunEvents (config : Config) (pages : List Page) (summary : Summary) :
    List Event → Prop where
  /-- The run begins, the pages are visited, the characters and the words are saved, and the run is
  over. -/
  | inOrder {first chars words last : Event} {visits : List Event}
      {savedChars savedWords : List String}
      (hfirst : first.Says .info "Starting run" [("url_count", .number pages.length)])
      (hvisits : VisitsLogged [] pages visits)
      (hchars : SaveLogged (charsPath config) summary.progress.census.chars.size savedChars chars)
      (hwords : SaveLogged (wordsPath config) summary.progress.census.words.size savedWords words)
      (hlast : last.Says .info "Run completed" [("pages_fetched", .number summary.progress.fetched),
        ("pages_skipped", .number summary.progress.skipped)])
      (hwritten : summary.filesWritten = savedChars ++ savedWords) :
      RunEvents config pages summary (first :: (visits ++ [chars, words, last]))

/-- **The log of a run**: its events, and how they agree with its summary. -/
structure RunLogged (config : Config) (pages : List Page) (summary : Summary)
    (events : List Event) : Prop where
  /-- The events, in order. -/
  order : RunEvents config pages summary events
  /-- Every skipped page is reported once. -/
  skipped : (said "Skipping page" events).length = summary.progress.skipped
  /-- Every fetched page is reported once. -/
  fetched : (said "Counted page" events).length = summary.progress.fetched
  /-- No longest page is reported exactly if there is none in the end. -/
  longest_none : said "New longest page" events = [] ↔ summary.progress.longest.url = none
  /-- Otherwise the last that was reported is the longest page in the end. -/
  longest_some : ∀ url, summary.progress.longest.url = some url →
    ∃ event, (said "New longest page" events).getLast? = some event ∧
      event.Says .info "New longest page"
        [("url", .plainText url), ("length", .number summary.progress.longest.length)]
  /-- The files that are reported as written are those of the summary. -/
  written : List.Forall₂ Event.SaysWritten (said "Wrote counts file" events) summary.filesWritten

/-! ## The longest page so far -/

section

variable {earlier : List PageText} {longest : LongestPage} {body : String}

theorem isBeatenBy_iff_of_isLongestOf (h : IsLongestOf earlier longest)
    (hlength : body.length < 1 <<< 63) :
    longest.isBeatenBy body.length = true ↔ ∀ other ∈ earlier, other.body.length < body.length := by
  rw [LongestPage.isBeatenBy_iff, signed64_of_lt hlength]
  cases h with
  | nothing hnil =>
    subst hnil
    refine ⟨fun _ => nofun, fun _ => ?_⟩
    show (-1 : Int) < body.length
    omega
  | @first page hmax =>
    refine ⟨fun hlt other hother => ?_, fun hall => Int.ofNat_lt.2 (hall page hmax.mem)⟩
    have hle : (other.body.length : Int) ≤ page.body.length := hmax.le hother
    exact Int.ofNat_lt.1 (Int.lt_of_le_of_lt hle hlt)

/-- There is only one longest page. -/
theorem IsLongestOf.unique {longest' : LongestPage} (h : IsLongestOf earlier longest)
    (h' : IsLongestOf earlier longest') : longest = longest' := by
  cases h with
  | nothing hnil =>
    cases h' with
    | nothing => rfl
    | first hmax => exact absurd (hnil ▸ hmax.mem) List.not_mem_nil
  | first hmax =>
    cases h' with
    | nothing hnil => exact absurd (hnil ▸ hmax.mem) List.not_mem_nil
    | first hmax' => rw [hmax.unique hmax']

/-- A page that is longer than all others takes the place. -/
theorem IsLongestOf.concat_of_lt (url : String)
    (h : ∀ other ∈ earlier, other.body.length < body.length) :
    IsLongestOf (earlier ++ [⟨url, body⟩]) ⟨some url, body.length⟩ :=
  @first _ ⟨url, body⟩ (.concat_of_lt fun other hother => Int.ofNat_lt.2 (h other hother))

/-- Any other page changes nothing. -/
theorem IsLongestOf.concat_of_le (h : IsLongestOf earlier longest) (url : String)
    (hother : ∃ other ∈ earlier, body.length ≤ other.body.length) :
    IsLongestOf (earlier ++ [⟨url, body⟩]) longest := by
  obtain ⟨other, hmem, hle⟩ := hother
  cases h with
  | nothing hnil => exact absurd (hnil ▸ hmem) List.not_mem_nil
  | first hmax =>
    exact .first (hmax.concat_of_le (Int.le_trans (Int.ofNat_le.2 hle) (hmax.le hmem)))

theorem exists_of_not_isBeatenBy (h : IsLongestOf earlier longest)
    (hlength : body.length < 1 <<< 63) (hbeaten : longest.isBeatenBy body.length = false) :
    ∃ other ∈ earlier, body.length ≤ other.body.length := by
  by_contra hnone
  simp only [not_exists, not_and, Nat.not_le] at hnone
  rw [(isBeatenBy_iff_of_isLongestOf h hlength).2 hnone] at hbeaten
  cases hbeaten

/-- **One more page**: what is kept is the longest of all again. -/
theorem IsLongestOf.observe (h : IsLongestOf earlier longest) (url : String)
    (hlength : body.length < 1 <<< 63) :
    IsLongestOf (earlier ++ [⟨url, body⟩]) (longest.observe url body.length) := by
  cases hbeaten : longest.isBeatenBy body.length with
  | true =>
    rw [LongestPage.observe_of_isBeatenBy hbeaten, signed64_of_lt hlength]
    exact .concat_of_lt url ((isBeatenBy_iff_of_isLongestOf h hlength).1 hbeaten)
  | false =>
    rw [LongestPage.observe_of_not_isBeatenBy hbeaten]
    exact h.concat_of_le url (exists_of_not_isBeatenBy h hlength hbeaten)

end

/-! ## The events of the script -/

variable {config : Config}

theorem events_pageScript (fs : FileSystem) (longest : LongestPage) (url body : String) :
    Script.events fs (pageScript config longest url body) =
      .pageCounted (countChars body).size (countWords body).size ::
        if longest.isBeatenBy body.length then
          [.longestPageFound url (longest.observe url body.length).length]
        else [] := by
  rw [pageScript, lengthScript]
  split <;> rfl

theorem events_visitsScript_cons (fs : FileSystem) (longest : LongestPage) (page : Page)
    (rest : List Page) :
    Script.events fs (visitsScript config longest (page :: rest)) =
      Script.events fs (visitScript config longest page) ++
        Script.events (Script.files fs (visitScript config longest page))
          (visitsScript config (longest.afterPage page) rest) := by
  rw [visitsScript, Script.events_append]

/-- **The script reports the visits.** -/
theorem visitsLogged_visitsScript {earlier : List PageText} {pages : List Page}
    {longest : LongestPage} (h : IsLongestOf earlier longest)
    (hlength : ∀ body ∈ texts pages, body.length < 1 <<< 63) (fs : FileSystem) :
    VisitsLogged earlier pages (Script.events fs (visitsScript config longest pages)) := by
  induction pages generalizing earlier longest fs with
  | nil => exact .nil
  | cons page rest ih =>
    rw [events_visitsScript_cons]
    cases hpage : page.result with
    | error error =>
      rw [texts_cons_of_error hpage] at hlength
      rw [visitScript_of_error hpage, LongestPage.afterPage_of_error hpage]
      exact .skipped hpage ⟨rfl, rfl, List.sublist_append_right _ _⟩ (ih h hlength _)
    | ok body =>
      rw [texts_cons_of_ok hpage, List.forall_mem_cons] at hlength
      have hrest := ih (h.observe page.url hlength.1) hlength.2
      rw [visitScript_of_ok hpage, LongestPage.afterPage_of_ok hpage, events_pageScript]
      cases hbeaten : longest.isBeatenBy body.length with
      | true =>
        have hkept : (longest.observe page.url body.length).length = body.length := by
          rw [LongestPage.observe_of_isBeatenBy hbeaten]
          exact signed64_of_lt hlength.1
        rw [if_pos rfl, hkept]
        exact .longer hpage ((isBeatenBy_iff_of_isLongestOf h hlength.1).1 hbeaten)
          ⟨rfl, rfl, List.sublist_append_right _ _⟩ ⟨rfl, rfl, List.sublist_append_right _ _⟩
          (hrest _)
      | false =>
        rw [if_neg Bool.false_ne_true]
        exact .notLonger hpage (exists_of_not_isBeatenBy h hlength.1 hbeaten)
          ⟨rfl, rfl, List.sublist_append_right _ _⟩ (hrest _)

/-- **The script reports a save**, whether the file was written or not. -/
theorem saveLogged_saveAction {κ : Type} [Token κ] (fs : FileSystem) (path : String)
    (tally : Tally κ) :
    ∃ event, (saveAction path tally).events fs = [event] ∧
      SaveLogged path tally.size ((saveAction path tally).saved fs) event := by
  cases hsave : fs.save path (CountFile.render tally) with
  | ok fs' =>
    simp only [saveAction, Action.events, Action.saved, hsave]
    exact ⟨_, rfl, .saved ⟨rfl, rfl, List.sublist_append_right _ _⟩⟩
  | error fault =>
    simp only [saveAction, Action.events, Action.saved, hsave]
    exact ⟨_, rfl, .notSaved ⟨rfl, rfl, List.sublist_append_right _ _⟩⟩

/-- The events for the two files. -/
theorem exists_events_filesScript (config : Config) (fs : FileSystem) (census : Census) :
    ∃ chars words savedChars savedWords,
      Script.events fs (filesScript config census) = [chars, words] ∧
      Script.saved fs (filesScript config census) = savedChars ++ savedWords ∧
      SaveLogged (charsPath config) census.chars.size savedChars chars ∧
      SaveLogged (wordsPath config) census.words.size savedWords words := by
  obtain ⟨chars, hcharsEvents, hchars⟩ := saveLogged_saveAction fs (charsPath config) census.chars
  obtain ⟨words, hwordsEvents, hwords⟩ := saveLogged_saveAction
    ((saveAction (charsPath config) census.chars).files fs) (wordsPath config) census.words
  refine ⟨chars, words, _, _, ?_, ?_, hchars, hwords⟩
  · rw [filesScript, Script.events, Script.events, hcharsEvents, hwordsEvents]
    rfl
  · rw [filesScript, Script.saved, Script.saved, Script.saved, List.append_nil]

/-- The events of the whole script. -/
theorem events_runScript (fs : FileSystem) (pages : List Page) (elapsed : Duration) :
    Script.events fs (runScript config pages elapsed) =
      .runStarted pages.length :: (Script.events fs (visitsScript config .initial pages) ++
        (Script.events fs (filesScript config (Census.ofTexts (texts pages))) ++
          [.runCompleted (texts pages).length (skipped pages)])) := by
  have hreport : Script.events fs (reportScript config pages) =
      .runStarted pages.length :: Script.events fs (visitsScript config .initial pages) := by
    rw [reportScript, Script.events_report_cons, Script.events_append]
    -- what comes behind the pages is printed only
    exact congrArg _ (List.append_nil _)
  rw [runScript, Script.events_append, Script.events_append, hreport, List.cons_append,
    Script.files_of_not_saves fun _ => saves_of_mem_reportScript]
  rfl

/-! ## The events with a message -/

section

variable {message : String} {earlier : List PageText} {pages : List Page} {events : List Event}

/-- Every page that was skipped is reported once. -/
theorem length_said_skipping (h : VisitsLogged earlier pages events) :
    (said "Skipping page" events).length = skipped pages := by
  rw [skipped_eq_countP]
  induction h with
  | nil => rfl
  | skipped hresult hevent _ ih =>
    rw [said_cons_of_message hevent, List.length_cons, ih,
      List.countP_cons_of_pos (by rw [hresult]; rfl)]
  | longer hresult _ hcounted hfound _ ih =>
    rw [said_cons_of_ne hcounted (by decide), said_cons_of_ne hfound (by decide), ih,
      List.countP_cons_of_neg (by rw [hresult]; exact Bool.false_ne_true)]
  | notLonger hresult _ hcounted _ ih =>
    rw [said_cons_of_ne hcounted (by decide), ih,
      List.countP_cons_of_neg (by rw [hresult]; exact Bool.false_ne_true)]

/-- Every page that was fetched is reported once. -/
theorem length_said_counted (h : VisitsLogged earlier pages events) :
    (said "Counted page" events).length = (texts pages).length := by
  induction h with
  | nil => rfl
  | skipped hresult hevent _ ih =>
    rw [said_cons_of_ne hevent (by decide), ih, texts_cons_of_error hresult]
  | longer hresult _ hcounted hfound _ ih =>
    rw [said_cons_of_message hcounted, said_cons_of_ne hfound (by decide), List.length_cons, ih,
      texts_cons_of_ok hresult, List.length_cons]
  | notLonger hresult _ hcounted _ ih =>
    rw [said_cons_of_message hcounted, List.length_cons, ih, texts_cons_of_ok hresult,
      List.length_cons]

/-- **The last longest page that is reported is the longest of all**; if none is reported, that is
still the longest of the pages before. -/
theorem getLast?_said_longest {longest : LongestPage} (h : VisitsLogged earlier pages events)
    (hlongest : IsLongestOf earlier longest) :
    ∃ last, IsLongestOf (earlier ++ pageTexts pages) last ∧
      ((said "New longest page" events = [] ∧ last = longest) ∨
        ∃ url event, last.url = some url ∧
          (said "New longest page" events).getLast? = some event ∧
          event.Says .info "New longest page"
            [("url", .plainText url), ("length", .number last.length)]) := by
  induction h generalizing longest with
  | nil => exact ⟨longest, by rwa [pageTexts, List.filterMap_nil, List.append_nil], .inl ⟨rfl, rfl⟩⟩
  | skipped hresult hevent _ ih =>
    rw [said_cons_of_ne hevent (by decide), pageTexts_cons_of_error hresult]
    exact ih hlongest
  | @longer earlier page _ body _ found _ hresult hlonger hcounted hfound _ ih =>
    obtain ⟨last, hlast, hreported⟩ := ih (.concat_of_lt page.url hlonger)
    rw [said_cons_of_ne hcounted (by decide), said_cons_of_message hfound,
      pageTexts_cons_of_ok hresult, List.append_cons]
    -- this page was reported, so it is the last one unless a later one was reported too
    refine ⟨last, hlast, .inr ?_⟩
    rcases hreported with ⟨hnone, rfl⟩ | ⟨url, event, hurl, hevent, hrecord⟩
    · rw [hnone]
      exact ⟨page.url, found, rfl, rfl, hfound⟩
    · exact ⟨url, event, hurl, by rw [List.getLast?_cons, hevent, Option.getD_some], hrecord⟩
  | @notLonger earlier page _ body _ _ hresult hother hcounted _ ih =>
    rw [said_cons_of_ne hcounted (by decide), pageTexts_cons_of_ok hresult, List.append_cons]
    exact ih (hlongest.concat_of_le page.url hother)

/-- Nothing else is reported of pages. -/
theorem said_eq_nil_of_visitsLogged (h : VisitsLogged earlier pages events)
    (hskipping : "Skipping page" ≠ message) (hcounting : "Counted page" ≠ message)
    (hfinding : "New longest page" ≠ message) : said message events = [] := by
  induction h with
  | nil => rfl
  | skipped _ hevent _ ih => rw [said_cons_of_ne hevent hskipping, ih]
  | longer _ _ hcounted hfound _ ih =>
    rw [said_cons_of_ne hcounted hcounting, said_cons_of_ne hfound hfinding, ih]
  | notLonger _ _ hcounted _ ih => rw [said_cons_of_ne hcounted hcounting, ih]

variable {path : String} {entries : Nat} {saved : List String} {event : Event}

theorem said_cons_of_saveLogged_of_ne (h : SaveLogged path entries saved event)
    (hsaved : "Wrote counts file" ≠ message) (hnotSaved : "Failed to write counts file" ≠ message)
    (rest : List Event) : said message (event :: rest) = said message rest := by
  cases h with
  | saved h => exact said_cons_of_ne h hsaved rest
  | notSaved h => exact said_cons_of_ne h hnotSaved rest

/-- A file is reported as written exactly if it is one of the paths that were written. -/
theorem forall₂_said_cons (h : SaveLogged path entries saved event) {rest : List Event}
    {others : List String}
    (hrest : List.Forall₂ Event.SaysWritten (said "Wrote counts file" rest) others) :
    List.Forall₂ Event.SaysWritten (said "Wrote counts file" (event :: rest))
      (saved ++ others) := by
  cases h with
  | saved h =>
    rw [said_cons_of_message h]
    have hpath : [("file_path", FieldValue.plainText (quoted path))].Sublist event.fields :=
      .trans (List.sublist_append_left _ [_]) h.details_sublist
    exact .cons ⟨h.level_eq, h.message_eq, hpath⟩ hrest
  | notSaved h => rwa [said_cons_of_ne h (by decide)]

/-! ## The log of a run -/

variable {config : Config} {summary : Summary}

/-- A message that belongs to pages is found among the visits. -/
theorem said_of_runEvents (message : String) (h : RunEvents config pages summary events)
    (hmessage : message ∉ ["Starting run", "Wrote counts file", "Failed to write counts file",
      "Run completed"]) :
    ∃ visits, VisitsLogged [] pages visits ∧ said message events = said message visits := by
  simp only [List.mem_cons, List.not_mem_nil, or_false, not_or, ← ne_eq] at hmessage
  obtain ⟨hstarting, hsaved, hnotSaved, hcompleted⟩ := hmessage
  cases h with
  | inOrder hfirst hvisits hchars hwords hlast =>
    refine ⟨_, hvisits, ?_⟩
    rw [said_cons_of_ne hfirst hstarting.symm, said_append,
      said_cons_of_saveLogged_of_ne hchars hsaved.symm hnotSaved.symm,
      said_cons_of_saveLogged_of_ne hwords hsaved.symm hnotSaved.symm,
      said_cons_of_ne hlast hcompleted.symm, said_nil, List.append_nil]

theorem forall₂_said_written (h : RunEvents config pages summary events) :
    List.Forall₂ Event.SaysWritten (said "Wrote counts file" events) summary.filesWritten := by
  cases h with
  | inOrder hfirst hvisits hchars hwords hlast hwritten =>
    rw [said_cons_of_ne hfirst (by decide), said_append,
      said_eq_nil_of_visitsLogged hvisits (by decide) (by decide) (by decide), List.nil_append,
      hwritten, ← List.append_nil (_ ++ _), List.append_assoc]
    refine forall₂_said_cons hchars (forall₂_said_cons hwords ?_)
    rw [said_cons_of_ne hlast (by decide), said_nil]
    exact .nil

/-- **The events agree with the summary**, if that has the right longest page and the right
counts. -/
theorem runLogged_of_runEvents (h : RunEvents config pages summary events)
    (hlongest : IsLongestOf (pageTexts pages) summary.progress.longest)
    (hfetched : summary.progress.fetched = (texts pages).length)
    (hskipped : summary.progress.skipped = skipped pages) :
    RunLogged config pages summary events := by
  obtain ⟨visits, hvisits, hsaid⟩ := said_of_runEvents "New longest page" h (by decide)
  obtain ⟨last, hlast, hreported⟩ := getLast?_said_longest hvisits (.nothing rfl)
  obtain rfl := hlast.unique hlongest
  constructor
  case order => exact h
  case skipped =>
    obtain ⟨visits, hvisits, hsaid⟩ := said_of_runEvents "Skipping page" h (by decide)
    rw [hsaid, length_said_skipping hvisits, hskipped]
  case fetched =>
    obtain ⟨visits, hvisits, hsaid⟩ := said_of_runEvents "Counted page" h (by decide)
    rw [hsaid, length_said_counted hvisits, hfetched]
  case longest_none =>
    rw [hsaid]
    rcases hreported with ⟨hnone, hkept⟩ | ⟨url, event, hurl, hevent, -⟩
    · exact iff_of_true hnone (by rw [hkept])
    · refine iff_of_false (fun hnone => ?_) (fun hnone => ?_)
      · rw [hnone] at hevent
        cases hevent
      · rw [hnone] at hurl
        cases hurl
  case longest_some =>
    intro url hurl
    rw [hsaid]
    rcases hreported with ⟨-, hkept⟩ | ⟨url', event, hurl', hevent, hrecord⟩
    · rw [hkept] at hurl
      cases hurl
    · rw [hurl] at hurl'
      obtain rfl := Option.some.inj hurl'
      exact ⟨event, hevent, hrecord⟩
  case written => exact forall₂_said_written h

end

/-- **The events of the script** are those of a run, in order. -/
theorem runEvents_runScript {config : Config} {pages : List Page}
    (h : totalLength (texts pages) < 1 <<< 63) (fs : FileSystem) (elapsed : Duration) :
    RunEvents config pages
      ⟨foundBy pages, Script.saved fs (filesScript config (Census.ofTexts (texts pages))), elapsed⟩
      (Script.events fs (runScript config pages elapsed)) := by
  have hvisits : VisitsLogged [] pages (Script.events fs (visitsScript config .initial pages)) :=
    visitsLogged_visitsScript (.nothing rfl)
      (fun body hbody => Nat.lt_of_le_of_lt (length_le_totalLength hbody) h) fs
  obtain ⟨chars, words, savedChars, savedWords, hevents, hsaved, hchars, hwords⟩ :=
    exists_events_filesScript config fs (Census.ofTexts (texts pages))
  rw [events_runScript, hevents]
  exact .inOrder ⟨rfl, rfl, List.sublist_append_right _ _⟩ hvisits hchars hwords
    ⟨rfl, rfl, List.sublist_append_right _ _⟩ hsaved

/-- **The log of a run agrees with its outcome**, as long as its output takes everything and the
lengths of its pages fit into 64 bits with a sign, for which it is enough that those of all pages
together do. -/
theorem run_logged {pages : List Page} (h : totalLength (texts pages) < 1 <<< 63) {world : World}
    (hroom : world.stdout.room = none) (config : Config) (elapsed : Duration) :
    ∃ summary world' events, run config pages elapsed world = .ok summary world' ∧
      world'.log = world.log ++ events ∧ RunLogged config pages summary events :=
  ⟨_, _, _, run_of_room_none (lt_countLimit_of_lt h) hroom config elapsed, rfl,
    runLogged_of_runEvents (runEvents_runScript h world.files elapsed) (isLongestOf_longestOf h)
      rfl rfl⟩

/-- The longest page changes once, a page is as long as it, and one is skipped. -/
theorem run_logged_of_records :
    let pages : List Page := [⟨"http://a/", .ok "or"⟩, ⟨"http://b/", .ok "not to be"⟩,
      ⟨"c", .error (.invalidUrl "c" .relativeWithoutBase)⟩, ⟨"http://d/", .ok "to be not"⟩]
    totalLength (texts pages) < 1 <<< 63 ∧ (World.start .unlimited .fresh).stdout.room = none ∧
      ∃ summary world' events,
        run {} pages ⟨0, 0⟩ (.start .unlimited .fresh) = .ok summary world' ∧
          world'.log = (World.start .unlimited .fresh).log ++ events ∧
          RunLogged {} pages summary events := by
  intro pages
  have h : totalLength (texts pages) < 1 <<< 63 := by decide
  have hroom : (World.start .unlimited .fresh).stdout.room = none := rfl
  exact ⟨h, hroom, run_logged h hroom {} ⟨0, 0⟩⟩

end PageCensus
