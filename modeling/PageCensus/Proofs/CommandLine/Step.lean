import PageCensus.Proofs.CommandLine.Waiting

/-!
# What is made of a word

When nothing waits, there are three things that a word can be: a phrase by itself, a word that asks
for a number, or the two hyphens in front of plain words.  The reader takes no other word, and it
takes these only if nothing in them was given before.

* `Step` — the three ways.
* `read_of_step` — a reader goes these ways.
* `read_eq_ok_iff` — it goes no others.
-/

set_option autoImplicit false

namespace PageCensus

namespace CommandLine

variable {option : CommandOption} {letter long : String}

/-- An option with a number has a letter, which is no hyphen, and a spelling. -/
theorem Spelled.exists_letter (h : Spelled option letter long) :
    ∃ c, letter = String.ofList [c] ∧ option.letter? = some c ∧ c ≠ '-' ∧
      option.takesValue = true ∧ long = option.long := by
  cases h with
  | top => exact ⟨'t', by decide, rfl, by decide, rfl, rfl⟩
  | delay => exact ⟨'d', by decide, rfl, by decide, rfl, rfl⟩

theorem exists_spelled (h : option.takesValue = true) :
    ∃ c, option.letter? = some c ∧ Spelled option (String.ofList [c]) option.long := by
  cases option with
  | top => exact ⟨'t', rfl, .top⟩
  | delay => exact ⟨'d', rfl, .delay⟩
  | _ => cases h

/-- What a reader makes of a word when nothing waits. -/
inductive Step (given : List Setting) (word : String) : CommandReader → Prop where
  /-- Only plain words may follow. -/
  | stop (hword : word = "--") : Step given word ⟨given, none, true⟩
  /-- The word is a phrase. -/
  | phrase {settings : List Setting} (hphrase : Phrase settings [word])
    (hnew : Distinct (given ++ settings)) : Step given word ⟨given ++ settings, none, false⟩
  /-- The number is to come. -/
  | asks {front : List Setting} {option : CommandOption} (hword : Asks front option word)
    (hnew : Distinct (given ++ front)) :
    Step given word ⟨given ++ front, some (option, none), false⟩

end CommandLine

namespace CommandReader

open CommandLine

variable {given front : List Setting} {onlyPlain : Bool} {option : CommandOption}
  {after : CommandReader} {word text before letter long : String} {n : Nat} {c d : Char}
  {rest : List Char}

/-! ## What is taken -/

theorem readSwitch_eq_ok_iff (hoption : option = .verbose ∨ option = .listUrls) :
    readSwitch ⟨given, none, false⟩ option = .ok after ↔
      option ∉ given.map Prod.fst ∧ ⟨given ++ [(option, 1)], none, false⟩ = after := by
  have hread : readSwitch ⟨given, none, false⟩ option =
      if has ⟨given, none, false⟩ option then .error (.refused (.repeated option))
      else .ok ⟨given ++ [(option, 1)], none, false⟩ := by
    rcases hoption with rfl | rfl <;> rfl
  rw [hread, ← has_eq_true_iff ⟨given, none, false⟩]
  split
  case isTrue h => exact iff_of_false (fun hafter => by cases hafter) fun hnew => hnew.1 h
  case isFalse h => rw [Except.ok.injEq, and_iff_right h]

/-- The other options without a number ask for a text. -/
theorem switch_of_readSwitch (hvalue : option.takesValue = false)
    (h : readSwitch ⟨given, none, false⟩ option = .ok after) :
    option = .verbose ∨ option = .listUrls := by
  cases option with
  | top => cases hvalue
  | delay => cases hvalue
  | verbose => exact Or.inl rfl
  | listUrls => exact Or.inr rfl
  | help => cases h
  | version => cases h

theorem readSwitch_eq_ok (hoption : option = .verbose ∨ option = .listUrls)
    (hnew : Distinct (given ++ [(option, 1)])) :
    readSwitch ⟨given, none, false⟩ option = .ok ⟨given ++ [(option, 1)], none, false⟩ :=
  (readSwitch_eq_ok_iff hoption).2 ⟨hnew.not_mem, rfl⟩

theorem settled_eq_ok (hn : Numeral text n) (hnew : Distinct (given ++ [(option, n)])) :
    settled ⟨given, some (option, some text), onlyPlain⟩ =
      .ok ⟨given ++ [(option, n)], none, onlyPlain⟩ :=
  settled_value_eq_ok_iff.2 ⟨hnew.not_mem, n, hn, rfl⟩

theorem readLetters_verbose (hnew : Distinct (given ++ [(.verbose, 1)])) :
    readLetters ⟨given, none, false⟩ ('v' :: rest) =
      readLetters ⟨given ++ [(.verbose, 1)], none, false⟩ rest := by
  have hletter : CommandOption.letter? .verbose = some 'v' := rfl
  rw [readLetters_switch hletter rfl, readSwitch_eq_ok (Or.inl rfl) hnew]
  rfl

/-- The letter of the switch may stand in front of another letter. -/
theorem read_front (hfront : Front front before) (hnew : Distinct (given ++ front))
    (hword : word.toList = before.toList ++ c :: rest) (hc : c ≠ '-') :
    read ⟨given, none, false⟩ word = readLetters ⟨given ++ front, none, false⟩ (c :: rest) := by
  cases hfront with
  | hyphen =>
    rw [List.append_nil]
    exact read_letters hword hc
  | verbose =>
    have hlist : word.toList = '-' :: 'v' :: c :: rest := hword
    rw [read_letters hlist (by decide), readLetters_verbose hnew]

/-- A word that asks for a number makes the reader wait. -/
theorem read_asks (hword : Asks front option word) (hnew : Distinct (given ++ front)) :
    read ⟨given, none, false⟩ word = .ok ⟨given ++ front, some (option, none), false⟩ := by
  cases hword with
  | @letter _ before _ _ _ hfront hoption =>
    obtain ⟨c, rfl, hletter, hc, hvalue, -⟩ := hoption.exists_letter
    have hlist : (before ++ String.ofList [c]).toList = before.toList ++ [c] := by
      rw [String.toList_append, String.toList_ofList]
    rw [read_front hfront hnew hlist hc, readLetters_singleton hletter hvalue]
    rfl
  | long hoption =>
    obtain ⟨c, -, -, -, hvalue, rfl⟩ := hoption.exists_letter
    have hlist : ("--" ++ option.long).toList = '-' :: '-' :: option.long.toList :=
      String.toList_append ..
    have hlong : option.long.toList ≠ [] := by cases hoption <;> decide
    rw [read_long hlist hlong, readLong_long, if_pos hvalue, List.append_nil]
    rfl

/-- What stands around an equals sign. -/
theorem toList_equals (word text : String) :
    (word ++ "=" ++ text).toList = word.toList ++ '=' :: text.toList := by
  rw [String.append_assoc, String.toList_append, String.toList_append]
  rfl

/-- A number behind an equals sign is looked at. -/
theorem read_equals (hword : Asks front option word) (hnew : Distinct (given ++ front)) :
    read ⟨given, none, false⟩ (word ++ "=" ++ text) =
      settled ⟨given ++ front, some (option, some text), false⟩ := by
  cases hword with
  | @letter _ before _ _ _ hfront hoption =>
    obtain ⟨c, rfl, hletter, hc, hvalue, -⟩ := hoption.exists_letter
    have hlist : (before ++ String.ofList [c] ++ "=" ++ text).toList =
        before.toList ++ c :: '=' :: text.toList := by
      rw [toList_equals, String.toList_append, String.toList_ofList, List.append_assoc,
        List.singleton_append]
    rw [read_front hfront hnew hlist hc, readLetters_equals hletter hvalue, String.ofList_toList]
    rfl
  | long hoption =>
    obtain ⟨c, -, -, -, hvalue, rfl⟩ := hoption.exists_letter
    have hlist : ("--" ++ option.long ++ "=" ++ text).toList =
        '-' :: '-' :: (option.long.toList ++ '=' :: text.toList) := by
      rw [toList_equals, String.toList_append, List.append_assoc]
      rfl
    rw [read_long hlist (List.append_ne_nil_of_right_ne_nil _ (List.cons_ne_nil _ _)),
      readLong_equals, if_pos hvalue, String.ofList_toList, List.append_nil]
    rfl

/-- So is a number behind a letter, unless an equals sign hides it. -/
theorem read_behind (hfront : Front front before) (hoption : Spelled option letter long)
    (hnew : Distinct (given ++ front)) (htext : text.toList = d :: rest) (hd : d ≠ '=') :
    read ⟨given, none, false⟩ (before ++ letter ++ text) =
      settled ⟨given ++ front, some (option, some text), false⟩ := by
  obtain ⟨c, rfl, hletter, hc, hvalue, -⟩ := hoption.exists_letter
  have hlist : (before ++ String.ofList [c] ++ text).toList = before.toList ++ c :: d :: rest := by
    rw [String.toList_append, String.toList_append, String.toList_ofList, htext, List.append_assoc]
    rfl
  rw [read_front hfront hnew hlist hc, readLetters_behind hletter hvalue hd, ← htext,
    String.ofList_toList]
  rfl

/-- **A reader goes these ways.** -/
theorem read_of_step (h : Step given word after) : read ⟨given, none, false⟩ word = .ok after := by
  cases h with
  | stop hword =>
    subst hword
    rfl
  | asks hword hnew => exact read_asks hword hnew
  | phrase hphrase hnew =>
    cases hphrase with
    | verbose => exact readSwitch_eq_ok (Or.inl rfl) hnew
    | verboseLetter =>
      have hlist : "-v".toList = ['-', 'v'] := rfl
      rw [read_letters hlist (by decide), readLetters_verbose hnew]
      rfl
    | listUrls => exact readSwitch_eq_ok (Or.inr rfl) hnew
    | equals hword hn =>
      rw [← List.append_assoc] at hnew ⊢
      rw [read_equals hword hnew.of_append_left, settled_eq_ok hn hnew]
    | behind hfront hoption hn =>
      rw [← List.append_assoc] at hnew ⊢
      obtain ⟨d, rest, htext, hd⟩ := hn.exists_cons
      have hequals : d ≠ '=' := by
        rintro rfl
        exact absurd hd (by decide)
      rw [read_behind hfront hoption hnew.of_append_left htext hequals, settled_eq_ok hn hnew]

/-! ## Nothing else is -/

/-- A value that came along is a number. -/
theorem step_of_settled (hnew : Distinct (given ++ front))
    (hphrase : ∀ n, Numeral text n → Phrase (front ++ [(option, n)]) [word])
    (h : settled ⟨given ++ front, some (option, some text), false⟩ = .ok after) :
    Step given word after := by
  obtain ⟨hoption, n, hn, rfl⟩ := settled_value_eq_ok_iff.1 h
  rw [List.append_assoc]
  refine .phrase (hphrase n hn) ?_
  rwa [← List.append_assoc, distinct_append_singleton hnew]

/-- Behind the letter of an option with a number there is nothing, an equals sign or the number. -/
theorem step_of_letter (hfront : Front front before) (hnew : Distinct (given ++ front))
    (hletter : option.letter? = some c) (hvalue : option.takesValue = true)
    (hword : word.toList = before.toList ++ c :: rest)
    (h : readLetters ⟨given ++ front, none, false⟩ (c :: rest) = .ok after) :
    Step given word after := by
  obtain ⟨c', hletter', hoption⟩ := exists_spelled hvalue
  obtain rfl : c = c' := Option.some.inj (hletter.symm.trans hletter')
  have hwhole : ∀ text : String, text.toList = rest →
      before ++ String.ofList [c] ++ text = word := by
    intro text htext
    apply String.toList_inj.1
    rw [String.toList_append, String.toList_append, String.toList_ofList, htext, hword,
      List.append_assoc, List.singleton_append]
  match rest with
  | [] =>
    rw [readLetters_singleton hletter hvalue] at h
    obtain rfl := Except.ok.inj h
    rw [← hwhole "" rfl, String.append_empty]
    exact .asks (.letter hfront hoption) hnew
  | d :: value =>
    by_cases hd : d = '='
    · subst hd
      have htext : ("=" ++ String.ofList value).toList = '=' :: value := by
        simp only [String.toList_append, String.toList_ofList]
        rfl
      rw [readLetters_equals hletter hvalue] at h
      refine step_of_settled hnew (fun n hn => ?_) h
      rw [← hwhole _ htext, ← String.append_assoc]
      exact .equals (.letter hfront hoption) hn
    · rw [readLetters_behind hletter hvalue hd] at h
      refine step_of_settled hnew (fun n hn => ?_) h
      rw [← hwhole _ String.toList_ofList]
      exact .behind hfront hoption hn

/-- A letter that is read belongs to an option with a number, or to the switch. -/
theorem letter_cases (hgiven : Distinct given)
    (h : readLetters ⟨given, none, false⟩ (c :: rest) = .ok after) :
    (∃ option : CommandOption, option.letter? = some c ∧ option.takesValue = true) ∨
      c = 'v' ∧ Distinct (given ++ [(.verbose, 1)]) ∧
        readLetters ⟨given ++ [(.verbose, 1)], none, false⟩ rest = .ok after := by
  cases hoption : CommandOption.ofLetter? c with
  | none => simp only [readLetters, hoption, reduceCtorEq] at h
  | some option =>
    have hletter := CommandOption.letter?_of_ofLetter? hoption
    cases hvalue : option.takesValue with
    | true => exact Or.inl ⟨option, hletter, hvalue⟩
    | false =>
      rw [readLetters_switch hletter hvalue, bind_eq_ok_iff] at h
      obtain ⟨switched, hread, hrest⟩ := h
      have hswitch := switch_of_readSwitch hvalue hread
      obtain ⟨hnew, rfl⟩ := (readSwitch_eq_ok_iff hswitch).1 hread
      rcases hswitch with rfl | rfl
      · obtain rfl := Option.some.inj hletter
        exact Or.inr ⟨rfl, (distinct_append_singleton hgiven).2 hnew, hrest⟩
      · cases hletter

theorem step_of_readLetters (hgiven : Distinct given) (hword : word.toList = '-' :: c :: rest)
    (h : readLetters ⟨given, none, false⟩ (c :: rest) = .ok after) : Step given word after := by
  rcases letter_cases hgiven h with ⟨option, hletter, hvalue⟩ | ⟨rfl, hnew, hrest⟩
  · rw [← List.append_nil given] at h hgiven
    exact step_of_letter .hyphen hgiven hletter hvalue hword h
  · match rest with
    | [] =>
      obtain rfl := Except.ok.inj hrest
      obtain rfl : "-v" = word := String.toList_inj.1 hword.symm
      exact .phrase .verboseLetter hnew
    | d :: rest =>
      rcases letter_cases hnew hrest with ⟨option, hletter, hvalue⟩ | ⟨rfl, htwice, -⟩
      · exact step_of_letter .verbose hnew hletter hvalue hword hrest
      · -- the letter of the switch stands there twice
        have hgiven : .verbose ∈ (given ++ [(CommandOption.verbose, 1)]).map Prod.fst :=
          List.mem_map_of_mem (List.mem_append_right given List.mem_cons_self)
        exact absurd hgiven htwice.not_mem

theorem step_of_readLong {body : List Char} (hgiven : Distinct given)
    (hword : word.toList = '-' :: '-' :: body)
    (h : readLong ⟨given, none, false⟩ body = .ok after) : Step given word after := by
  have hnew : Distinct (given ++ []) := by rwa [List.append_nil]
  have hwhole : ∀ text : String, text.toList = body → "--" ++ text = word := by
    intro text htext
    apply String.toList_inj.1
    rw [String.toList_append, htext, hword]
    rfl
  cases hname : CommandOption.ofLong? (String.ofList (body.takeWhile (· != '='))) with
  | none => simp only [readLong, hname, reduceCtorEq] at h
  | some option =>
    obtain rfl | ⟨value, rfl⟩ := eq_long_or_equals hname
    · rw [readLong_long] at h
      rw [← hwhole option.long rfl]
      cases hvalue : option.takesValue with
      | true =>
        obtain ⟨c, -, hoption⟩ := exists_spelled hvalue
        have hstep := Step.asks (.long hoption) hnew
        rw [if_pos hvalue] at h
        obtain rfl := Except.ok.inj h
        rwa [List.append_nil] at hstep
      | false =>
        rw [hvalue] at h
        have hswitch := switch_of_readSwitch hvalue h
        obtain ⟨hmem, rfl⟩ := (readSwitch_eq_ok_iff hswitch).1 h
        refine .phrase ?_ ((distinct_append_singleton hgiven).2 hmem)
        rcases hswitch with rfl | rfl
        · exact .verbose
        · exact .listUrls
    · rw [readLong_equals] at h
      cases hvalue : option.takesValue with
      | true =>
        obtain ⟨c, -, hoption⟩ := exists_spelled hvalue
        have htext : (option.long ++ "=" ++ String.ofList value).toList =
            option.long.toList ++ '=' :: value := by
          rw [toList_equals, String.toList_ofList]
        rw [if_pos hvalue, ← List.append_nil given] at h
        refine step_of_settled hnew (fun n hn => ?_) h
        rw [← hwhole _ htext, ← String.append_assoc, ← String.append_assoc]
        exact .equals (.long hoption) hn
      | false =>
        rw [hvalue] at h
        cases h

/-- **A reader goes these ways and no others.** -/
theorem read_eq_ok_iff (hgiven : Distinct given) :
    read ⟨given, none, false⟩ word = .ok after ↔ Step given word after := by
  refine ⟨fun h => ?_, read_of_step⟩
  by_cases hword : ∃ c rest, word.toList = '-' :: c :: rest
  case neg =>
    rw [read_plain hword] at h
    cases h
  case pos =>
    obtain ⟨c, rest, hlist⟩ := hword
    by_cases hc : c = '-'
    · subst hc
      by_cases hrest : rest = []
      · subst hrest
        obtain rfl : "--" = word := String.toList_inj.1 hlist.symm
        obtain rfl := Except.ok.inj h
        exact .stop rfl
      · rw [read_long hlist hrest] at h
        exact step_of_readLong hgiven hlist h
    · rw [read_letters hlist hc] at h
      exact step_of_readLetters hgiven hlist h

end CommandReader

end PageCensus
