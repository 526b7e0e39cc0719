import PageCensus.Proofs.CommandLine.Step

/-!
# Command lines are read by their grammar

A reader that succeeds looks at every value sooner or later.  So what it collects can be said word
by word as if nothing ever waited: a phrase gives its settings at once, and a word that asks for a
number makes a phrase together with the next word.

* `collects_iff_sentence` — what a reader collects from the words of a command line.
* `parse_iff_sentence` — which command lines make sense, and what they say.
* `parse_obeysGrammar` — the same, with what follows for their order and spelling.
-/

set_option autoImplicit false

namespace PageCensus

open CommandLine

variable {given settings : List Setting} {waiting : Option (CommandOption × Option String)}
  {onlyPlain : Bool} {option : CommandOption} {reader : CommandReader} {word text : String}
  {words : List String}

namespace CommandReader

/-- **Whether a reader reads some words to the end**, with these settings given then. -/
def Collects (reader : CommandReader) (words : List String) (settings : List Setting) : Prop :=
  ∃ last rested, words.foldlM read reader = .ok last ∧ last.settled = .ok rested ∧
    rested.given = settings

theorem collects_nil (reader : CommandReader) : reader.Collects [] settings ↔
    ∃ rested, reader.settled = .ok rested ∧ rested.given = settings := by
  constructor
  · rintro ⟨last, rested, hlast, hrested⟩
    obtain rfl := Except.ok.inj hlast
    exact ⟨rested, hrested⟩
  · rintro ⟨rested, hrested⟩
    exact ⟨reader, rested, rfl, hrested⟩

theorem collects_cons : reader.Collects (word :: words) settings ↔
    ∃ next, reader.read word = .ok next ∧ next.Collects words settings := by
  constructor
  · rintro ⟨last, rested, hlast, hrested⟩
    rw [List.foldlM_cons, bind_eq_ok_iff] at hlast
    obtain ⟨next, hnext, hlast⟩ := hlast
    exact ⟨next, hnext, last, rested, hlast, hrested⟩
  · rintro ⟨next, hnext, last, rested, hlast, hrested⟩
    refine ⟨last, rested, ?_, hrested⟩
    rw [List.foldlM_cons, hnext]
    exact hlast

/-- When nothing waits, what is given in the end is what was given. -/
theorem collects_nil_none : Collects ⟨given, none, onlyPlain⟩ [] settings ↔ given = settings := by
  rw [collects_nil]
  constructor
  · rintro ⟨rested, hrested, hsettings⟩
    obtain rfl := Except.ok.inj hrested
    exact hsettings
  · exact fun hsettings => ⟨_, rfl, hsettings⟩

/-- A value that waits in the end is looked at. -/
theorem collects_nil_value :
    Collects ⟨given, some (option, some text), onlyPlain⟩ [] settings ↔
      option ∉ given.map Prod.fst ∧ ∃ n, Numeral text n ∧
        Collects ⟨given ++ [(option, n)], none, onlyPlain⟩ [] settings := by
  simp only [collects_nil ⟨given, some (option, some text), onlyPlain⟩, collects_nil_none,
    settled_value_eq_ok_iff]
  constructor
  · rintro ⟨rested, ⟨hnew, n, hn, rfl⟩, hsettings⟩
    exact ⟨hnew, n, hn, hsettings⟩
  · rintro ⟨hnew, n, hn, hsettings⟩
    exact ⟨_, ⟨hnew, n, hn, rfl⟩, hsettings⟩

/-- A value that is to come in the end is missing. -/
theorem not_collects_nil_asks :
    ¬ Collects ⟨given, some (option, none), onlyPlain⟩ [] settings := by
  rw [collects_nil]
  rintro ⟨rested, hrested, -⟩
  cases hrested

/-- When only plain words may follow, none is expected. -/
theorem not_collects_onlyPlain : ¬ Collects ⟨given, waiting, true⟩ (word :: words) settings := by
  rw [collects_cons]
  rintro ⟨next, hnext, -⟩
  cases hnext

theorem collects_stop : Collects ⟨given, waiting, false⟩ ("--" :: words) settings ↔
    Collects ⟨given, waiting, true⟩ words settings := by
  rw [collects_cons]
  constructor
  · rintro ⟨next, hnext, hwords⟩
    obtain rfl := Except.ok.inj hnext
    exact hwords
  · exact fun hwords => ⟨_, rfl, hwords⟩

/-- **The value that waits is looked at sooner or later**, so it might as well be now. -/
theorem collects_value : Collects ⟨given, some (option, some text), false⟩ words settings ↔
    option ∉ given.map Prod.fst ∧ ∃ n, Numeral text n ∧
      Collects ⟨given ++ [(option, n)], none, false⟩ words settings := by
  match words with
  | [] => exact collects_nil_value
  | word :: words =>
    by_cases hstop : word = "--"
    · subst hstop
      simp only [collects_stop]
      cases words with
      | nil => exact collects_nil_value
      | cons word words => simp only [not_collects_onlyPlain, and_false, exists_false]
    simp only [collects_cons]
    by_cases hword : ∃ c rest, word.toList = '-' :: c :: rest
    case neg =>
      -- no other word is expected, whether a value waits or not
      simp only [read_plain hword]
      constructor
      · rintro ⟨next, hnext, -⟩
        cases hnext
      · rintro ⟨-, n, -, next, hnext, -⟩
        cases hnext
    case pos =>
      constructor
      · rintro ⟨next, hnext, hwords⟩
        obtain ⟨rested, hrested, hread⟩ := (read_eq_ok_iff_settled hword hstop).1 hnext
        obtain ⟨hnew, n, hn, rfl⟩ := settled_value_eq_ok_iff.1 hrested
        exact ⟨hnew, n, hn, next, hread, hwords⟩
      · rintro ⟨hnew, n, hn, next, hread, hwords⟩
        have hrested : settled ⟨given, some (option, some text), false⟩ =
            .ok ⟨given ++ [(option, n)], none, false⟩ :=
          settled_value_eq_ok_iff.2 ⟨hnew, n, hn, rfl⟩
        exact ⟨next, (read_eq_ok_iff_settled hword hstop).2 ⟨_, hrested, hread⟩, hwords⟩

/-- **A number that is to come is the next word.** -/
theorem collects_asks : Collects ⟨given, some (option, none), false⟩ (word :: words) settings ↔
    option ∉ given.map Prod.fst ∧ ∃ n, Numeral word n ∧
      Collects ⟨given ++ [(option, n)], none, false⟩ words settings := by
  by_cases hword : ∃ c rest, word.toList = '-' :: c :: rest
  case neg =>
    rw [collects_cons, read_plain hword, ← collects_value]
    constructor
    · rintro ⟨next, hnext, hwords⟩
      obtain rfl := Except.ok.inj hnext
      exact hwords
    · exact fun hwords => ⟨_, rfl, hwords⟩
  case pos =>
    refine iff_of_false (fun h => ?_) ?_
    · by_cases hstop : word = "--"
      · subst hstop
        cases words with
        | nil => exact not_collects_nil_asks (collects_stop.1 h)
        | cons word words => exact not_collects_onlyPlain (collects_stop.1 h)
      · obtain ⟨next, hnext, -⟩ := collects_cons.1 h
        obtain ⟨rested, hrested, -⟩ := (read_eq_ok_iff_settled hword hstop).1 hnext
        cases hrested
    · -- a number does not begin with a hyphen
      rintro ⟨-, n, hn, -⟩
      obtain ⟨c, rest, hlist⟩ := hword
      obtain ⟨d, back, hback, hd⟩ := hn.exists_cons
      obtain rfl : '-' = d := (List.cons.inj (hlist.symm.trans hback)).1
      exact absurd hd (by decide)

/-- **What a grammatical command line gives is collected.** -/
theorem collects_of_sentence (h : Sentence settings words) (hnew : Distinct (given ++ settings)) :
    Collects ⟨given, none, false⟩ words (given ++ settings) := by
  induction h generalizing given with
  | nil => exact collects_nil_none.2 (List.append_nil given).symm
  | stop => exact collects_stop.2 (collects_nil_none.2 (List.append_nil given).symm)
  | @append more settings words rest hgiven hrest ih =>
    rw [← List.append_assoc] at hnew ⊢
    have hmore := hnew.of_append_left
    have hcollects := ih hnew
    match words, hgiven with
    | [word], hphrase =>
      exact collects_cons.2 ⟨_, read_of_step (.phrase hphrase hmore), hcollects⟩
    | [word, text], .next hword hn =>
      rw [← List.append_assoc] at hmore hcollects ⊢
      exact collects_cons.2 ⟨_, read_asks hword hmore.of_append_left,
        collects_asks.2 ⟨hmore.not_mem, _, hn, hcollects⟩⟩

/-- **Nothing else is.**  The induction is on how many words are left: a word that asks for a number
takes the next one with it. -/
theorem exists_sentence_of_collects {given : List Setting} {words : List String}
    (hgiven : Distinct given) (h : Collects ⟨given, none, false⟩ words settings) :
    ∃ more, Sentence more words ∧ Distinct (given ++ more) ∧ given ++ more = settings := by
  match words with
  | [] =>
    have hend := collects_nil_none.1 h
    exact ⟨[], .nil, by rwa [List.append_nil], by rwa [List.append_nil]⟩
  | word :: words =>
    obtain ⟨next, hnext, hwords⟩ := collects_cons.1 h
    cases (read_eq_ok_iff hgiven).1 hnext with
    | stop hword =>
      subst hword
      cases words with
      | nil =>
        have hend := collects_nil_none.1 hwords
        exact ⟨[], .stop, by rwa [List.append_nil], by rwa [List.append_nil]⟩
      | cons word words => exact absurd hwords not_collects_onlyPlain
    | @phrase more hphrase hnew =>
      obtain ⟨rest, hrest, hdistinct, hend⟩ := exists_sentence_of_collects hnew hwords
      rw [List.append_assoc] at hdistinct hend
      exact ⟨more ++ rest, .append hphrase hrest, hdistinct, hend⟩
    | @asks front option hword hnew =>
      match words with
      | [] => exact absurd hwords not_collects_nil_asks
      | text :: words =>
        obtain ⟨hoption, n, hn, hcollects⟩ := collects_asks.1 hwords
        have hnext := (distinct_append_singleton (n := n) hnew).2 hoption
        obtain ⟨rest, hrest, hdistinct, hend⟩ := exists_sentence_of_collects hnext hcollects
        rw [List.append_assoc, List.append_assoc, ← List.append_assoc front] at hdistinct hend
        exact ⟨front ++ [(option, n)] ++ rest, .append (.next hword hn) hrest, hdistinct, hend⟩
termination_by words.length

theorem collects_iff_sentence :
    Collects {} words settings ↔ Sentence settings words ∧ Distinct settings := by
  constructor
  · intro h
    obtain ⟨more, hsentence, hnew, rfl⟩ := exists_sentence_of_collects .nil h
    exact ⟨hsentence, hnew⟩
  · rintro ⟨hsentence, hnew⟩
    exact collects_of_sentence hsentence hnew

end CommandReader

namespace Arguments

open CommandReader

variable {arguments : Arguments}

/-- The arguments are what is collected. -/
theorem parse_iff_collects : parse words = .ok arguments ↔
    ∃ settings, Collects {} words settings ∧
      CommandReader.arguments { given := settings } = arguments := by
  rw [parse, bind_eq_ok_iff]
  simp only [bind_eq_ok_iff]
  constructor
  · rintro ⟨last, hlast, rested, hrested, harguments⟩
    exact ⟨rested.given, ⟨last, rested, hlast, hrested, rfl⟩, Except.ok.inj harguments⟩
  · rintro ⟨settings, ⟨last, rested, hlast, hrested, rfl⟩, harguments⟩
    exact ⟨last, hlast, rested, hrested, congrArg Except.ok harguments⟩

/-- Where nothing is given twice, the settings say one thing, and this is what is read. -/
theorem says_iff (h : Distinct settings) :
    Says settings arguments ↔ CommandReader.arguments { given := settings } = arguments := by
  constructor
  · intro hsays
    obtain ⟨top, delay, verbose, listUrls⟩ := arguments
    have htop := (isValue_iff h).1 hsays.top
    have hdelay := (isValue_iff h).1 hsays.delay
    have hhas := has_eq_true_iff { given := settings }
    have hverbose := hsays.verbose.trans (hhas .verbose).symm
    have hlistUrls := hsays.listUrls.trans (hhas .listUrls).symm
    rw [CommandReader.arguments, Arguments.mk.injEq]
    exact ⟨htop.symm, hdelay.symm, (Bool.eq_iff_iff.2 hverbose).symm,
      (Bool.eq_iff_iff.2 hlistUrls).symm⟩
  · rintro rfl
    exact ⟨(isValue_iff h).2 rfl, (isValue_iff h).2 rfl, has_eq_true_iff _ _,
      has_eq_true_iff _ _⟩

/-- **The grammatical command lines make sense if nothing is given twice, and no others do.** -/
theorem parse_iff_sentence : parse words = .ok arguments ↔
    ∃ settings, Sentence settings words ∧ Distinct settings ∧ Says settings arguments := by
  simp only [parse_iff_collects, collects_iff_sentence, and_assoc]
  exact exists_congr fun settings => and_congr_right fun _ => and_congr_right fun hnew =>
    (says_iff hnew).symm

theorem invalid?_isSome_iff : arguments.invalid?.isSome = true ↔ arguments.top = 0 := by
  rw [invalid?]
  split
  case isTrue h => exact iff_of_true rfl h
  case isFalse h => exact iff_of_false Bool.false_ne_true h

/-- **Command lines are read by their grammar**, and neither their order nor their spelling matters.
What they say can be used unless no entry would be shown. -/
theorem parse_obeysGrammar (words : List String) :
    (∀ arguments, parse words = .ok arguments ↔
      ∃ settings, Sentence settings words ∧ Distinct settings ∧ Says settings arguments) ∧
    (∀ settings other words', Sentence settings words → Distinct settings →
      Sentence other words' → settings.Perm other → parse words' = parse words) ∧
    ∀ arguments, parse words = .ok arguments →
      (arguments.invalid?.isSome = true ↔ arguments.top = 0) := by
  refine ⟨fun arguments => parse_iff_sentence,
    fun settings other words' hsentence hnew hother hperm => ?_,
    fun arguments _ => invalid?_isSome_iff⟩
  have hsays := (says_iff hnew).2 rfl
  have hdistinct : Distinct other := (hperm.map Prod.fst).nodup_iff.1 hnew
  rw [parse_iff_sentence.2 ⟨settings, hsentence, hnew, hsays⟩,
    parse_iff_sentence.2 ⟨other, hother, hdistinct, hsays.perm hperm⟩]

/-- Two command lines that say the same. -/
theorem parse_otherOrder :
    parse ["--delay-ms=+07", "-t", "5", "--verbose", "--"] = parse ["-vt5", "-d", "7"] := by
  have h5 : Numeral "5" 5 := readNumber_eq_ok_iff.1 rfl
  have h7 : Numeral "7" 7 := readNumber_eq_ok_iff.1 rfl
  have h07 : Numeral "+07" 7 := readNumber_eq_ok_iff.1 rfl
  have hsentence : Sentence [(.verbose, 1), (.top, 5), (.delay, 7)] ["-vt5", "-d", "7"] :=
    .append (.behind .verbose .top h5) (.append (.next (.letter .hyphen .delay) h7) .nil)
  have hother : Sentence [(.delay, 7), (.top, 5), (.verbose, 1)]
      ["--delay-ms=+07", "-t", "5", "--verbose", "--"] :=
    .append (.equals (.long .delay) h07)
      (.append (.next (.letter .hyphen .top) h5) (.append .verbose .stop))
  exact (parse_obeysGrammar _).2.1 _ _ _ hsentence (by decide) hother (by decide)

end Arguments

end PageCensus
