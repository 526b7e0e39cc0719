import PageCensus.Proofs.CommandLine.Grammar

/-!
# The value that waits

The value of an option is looked at when the next option is read, or at the end.  What is read then
is read as if nothing had waited, so for a reader that succeeds it does not matter when the value is
looked at.

* `settled_value_eq_ok_iff` — which values are taken.
* `LooksFirst` — a step that looks at the value and goes on from there; reading what stands behind
  hyphens is such a step.
* `read_eq_ok_iff_settled` — so is reading an option.
-/

set_option autoImplicit false

namespace PageCensus

open CommandLine

namespace CommandReader

variable {given : List Setting} {waiting : Option (CommandOption × Option String)}
  {onlyPlain : Bool} {option : CommandOption} {reader after : CommandReader} {word text : String}
  {c d : Char} {rest : List Char}

theorem has_eq_true_iff (reader : CommandReader) (option : CommandOption) :
    reader.has option = true ↔ option ∈ reader.given.map Prod.fst := by
  rw [has, List.any_eq_true, List.mem_map]
  exact exists_congr fun setting => and_congr_right fun _ => beq_iff_eq

/-! ## The value that waits -/

/-- **A value that waits is a number**, of an option that was not given before. -/
theorem settled_value_eq_ok_iff :
    settled ⟨given, some (option, some text), onlyPlain⟩ = .ok after ↔
      option ∉ given.map Prod.fst ∧ ∃ n, Numeral text n ∧
        ⟨given ++ [(option, n)], none, onlyPlain⟩ = after := by
  cases hhas : has ⟨given, some (option, some text), onlyPlain⟩ option with
  | true =>
    simp only [settled, settle, hhas, if_true, reduceCtorEq, false_iff]
    exact fun h => h.1 ((has_eq_true_iff _ _).1 hhas)
  | false =>
    have hnew : option ∉ given.map Prod.fst :=
      fun hgiven => Bool.false_ne_true (hhas.symm.trans ((has_eq_true_iff _ _).2 hgiven))
    simp only [settled, settle, hhas, Bool.false_eq_true, if_false, ← readNumber_eq_ok_iff]
    cases readNumber text with
    | ok n => simp [hnew]
    | error fault => simp

/-- Nothing waits behind that. -/
theorem exists_of_settled (h : settled ⟨given, waiting, onlyPlain⟩ = .ok after) :
    ∃ more, after = ⟨given ++ more, none, onlyPlain⟩ := by
  match waiting with
  | none =>
    cases h
    exact ⟨[], by rw [List.append_nil]⟩
  | some (option, none) => cases h
  | some (option, some text) =>
    obtain ⟨-, n, -, rfl⟩ := settled_value_eq_ok_iff.1 h
    exact ⟨[(option, n)], rfl⟩

/-- So it can be looked at twice. -/
theorem settled_of_settled (h : reader.settled = .ok after) : after.settled = .ok after := by
  obtain ⟨more, rfl⟩ := exists_of_settled h
  rfl

/-- **Whether a step looks at the value that waits, and goes on from there.** -/
def LooksFirst (step : CommandReader → Except Halt CommandReader) : Prop :=
  ∀ reader after, step reader = .ok after ↔
    ∃ rested, reader.settled = .ok rested ∧ step rested = .ok after

/-- A step that never succeeds may do so. -/
theorem looksFirst_error (halt : CommandReader → Halt) :
    LooksFirst fun reader => .error (halt reader) := by
  intro reader after
  constructor
  · intro h
    cases h
  · rintro ⟨rested, -, h⟩
    cases h

/-- What comes after the first look does not matter. -/
theorem looksFirst_bind_settled (next : CommandReader → Except Halt CommandReader) :
    LooksFirst fun reader => reader.settled >>= next := by
  intro reader after
  simp only [bind_eq_ok_iff]
  constructor
  · rintro ⟨rested, hrested, hnext⟩
    exact ⟨rested, hrested, rested, settled_of_settled hrested, hnext⟩
  · rintro ⟨rested, hrested, again, hagain, hnext⟩
    obtain rfl := Except.ok.inj ((settled_of_settled hrested).symm.trans hagain)
    exact ⟨rested, hrested, hnext⟩

theorem LooksFirst.bind {step : CommandReader → Except Halt CommandReader} (h : LooksFirst step)
    (next : CommandReader → Except Halt CommandReader) :
    LooksFirst fun reader => step reader >>= next := by
  intro reader after
  simp only [bind_eq_ok_iff]
  constructor
  · rintro ⟨middle, hmiddle, hnext⟩
    obtain ⟨rested, hrested, hstep⟩ := (h reader middle).1 hmiddle
    exact ⟨rested, hrested, middle, hstep, hnext⟩
  · rintro ⟨rested, hrested, middle, hmiddle, hnext⟩
    exact ⟨middle, (h reader middle).2 ⟨rested, hrested, hmiddle⟩, hnext⟩

theorem looksFirst_readSwitch (option : CommandOption) : LooksFirst (readSwitch · option) :=
  looksFirst_bind_settled _

theorem looksFirst_readValued (option : CommandOption) (value? : Option String) :
    LooksFirst (readValued · option value?) :=
  looksFirst_bind_settled _

/-! ## Behind two hyphens -/

theorem readLong_long (reader : CommandReader) (option : CommandOption) :
    reader.readLong option.long.toList =
      if option.takesValue then reader.readValued option none else reader.readSwitch option := by
  cases option <;> rfl

theorem readLong_equals (reader : CommandReader) (option : CommandOption) (value : List Char) :
    reader.readLong (option.long.toList ++ '=' :: value) =
      if option.takesValue then reader.readValued option (some (String.ofList value))
      else .error (.refused (.unneededValue option (String.ofList value) reader.used)) := by
  cases option <;> rfl

/-- A name that is the spelling of an option is all there is, or an equals sign is behind it. -/
theorem eq_long_or_equals {body : List Char}
    (h : CommandOption.ofLong? (String.ofList (body.takeWhile (· != '='))) = some option) :
    body = option.long.toList ∨ ∃ value, body = option.long.toList ++ '=' :: value := by
  have hbody : body.takeWhile (· != '=') ++ body.dropWhile (· != '=') = body :=
    List.takeWhile_append_dropWhile
  have hd := List.head?_dropWhile_not (· != '=') body
  rw [CommandOption.long_of_ofLong? h, String.toList_ofList]
  cases hback : body.dropWhile (· != '=') with
  | nil =>
    rw [hback, List.append_nil] at hbody
    exact Or.inl hbody.symm
  | cons d value =>
    rw [hback] at hbody hd
    obtain rfl : d = '=' := by simpa using hd
    exact Or.inr ⟨value, hbody.symm⟩

theorem looksFirst_readLong (body : List Char) : LooksFirst (readLong · body) := by
  cases hname : CommandOption.ofLong? (String.ofList (body.takeWhile (· != '='))) with
  | none =>
    simp only [readLong, hname]
    exact looksFirst_error _
  | some option =>
    obtain rfl | ⟨value, rfl⟩ := eq_long_or_equals hname
    · simp only [readLong_long]
      split
      · exact looksFirst_readValued option none
      · exact looksFirst_readSwitch option
    · simp only [readLong_equals]
      split
      · exact looksFirst_readValued option _
      · exact looksFirst_error _

/-! ## Behind one hyphen -/

/-- The letter of an option that takes a value: it is the next word, or what stands behind. -/
theorem readLetters_singleton (hletter : option.letter? = some c)
    (hvalue : option.takesValue = true) :
    reader.readLetters [c] = reader.readValued option none := by
  rw [readLetters, CommandOption.ofLetter?_letter hletter]
  simp only [hvalue, if_true]

theorem readLetters_equals (hletter : option.letter? = some c) (hvalue : option.takesValue = true)
    (value : List Char) : reader.readLetters (c :: '=' :: value) =
      reader.readValued option (some (String.ofList value)) := by
  rw [readLetters, CommandOption.ofLetter?_letter hletter]
  simp only [hvalue, if_true]

theorem readLetters_behind (hletter : option.letter? = some c) (hvalue : option.takesValue = true)
    (hd : d ≠ '=') : reader.readLetters (c :: d :: rest) =
      reader.readValued option (some (String.ofList (d :: rest))) := by
  rw [readLetters, CommandOption.ofLetter?_letter hletter]
  simp only [hvalue, if_true]
  split
  case h_1 h => cases h
  case h_2 h => exact absurd (List.cons.inj h).1 hd
  case h_3 => rfl

/-- The letter of an option that takes none. -/
theorem readLetters_switch (hletter : option.letter? = some c)
    (hvalue : option.takesValue = false) : reader.readLetters (c :: rest) =
      reader.readSwitch option >>= (·.readLetters rest) := by
  rw [readLetters, CommandOption.ofLetter?_letter hletter]
  simp only [hvalue, Bool.false_eq_true, if_false]

theorem looksFirst_readLetters (c : Char) (rest : List Char) :
    LooksFirst (readLetters · (c :: rest)) := by
  cases hoption : CommandOption.ofLetter? c with
  | none =>
    simp only [readLetters, hoption]
    exact looksFirst_error _
  | some option =>
    have hletter := CommandOption.letter?_of_ofLetter? hoption
    cases hvalue : option.takesValue with
    | false =>
      simp only [readLetters_switch hletter hvalue]
      exact (looksFirst_readSwitch option).bind _
    | true =>
      match rest with
      | [] =>
        simp only [readLetters_singleton hletter hvalue]
        exact looksFirst_readValued option none
      | d :: value =>
        by_cases hd : d = '='
        · subst hd
          simp only [readLetters_equals hletter hvalue]
          exact looksFirst_readValued option _
        · simp only [readLetters_behind hletter hvalue hd]
          exact looksFirst_readValued option _

/-! ## Words -/

theorem read_long {body : List Char} (hword : word.toList = '-' :: '-' :: body)
    (hbody : body ≠ []) :
    read ⟨given, waiting, false⟩ word = readLong ⟨given, waiting, false⟩ body := by
  rw [read, hword]
  obtain ⟨c, rest, rfl⟩ := List.exists_cons_of_ne_nil hbody
  rfl

theorem read_letters (hword : word.toList = '-' :: c :: rest) (hc : c ≠ '-') :
    read ⟨given, waiting, false⟩ word = readLetters ⟨given, waiting, false⟩ (c :: rest) := by
  rw [read, hword]
  simp only [Bool.false_eq_true, if_false]
  split
  case h_1 h => exact absurd (List.cons.inj (List.cons.inj h).2).1 hc
  case h_2 h => exact absurd (List.cons.inj (List.cons.inj h).2).1 hc
  case h_3 h => rw [(List.cons.inj h).2]
  case h_4 h => exact absurd rfl (h c rest)

theorem read_plain (hword : ¬ ∃ c rest, word.toList = '-' :: c :: rest) :
    read ⟨given, waiting, false⟩ word = readPlain ⟨given, waiting, false⟩ word := by
  rw [read]
  simp only [Bool.false_eq_true, if_false]
  split
  case h_1 h => exact absurd ⟨_, _, h⟩ hword
  case h_2 h => exact absurd ⟨_, _, h⟩ hword
  case h_3 h => exact absurd ⟨_, _, h⟩ hword
  case h_4 => rfl

/-- **An option makes the reader look at the value that waits.** -/
theorem read_eq_ok_iff_settled (hword : ∃ c rest, word.toList = '-' :: c :: rest)
    (hstop : word ≠ "--") :
    read ⟨given, waiting, false⟩ word = .ok after ↔
      ∃ rested, settled ⟨given, waiting, false⟩ = .ok rested ∧ read rested word = .ok after := by
  obtain ⟨c, rest, hlist⟩ := hword
  have hread : ∃ step, LooksFirst step ∧
      ∀ given waiting, read ⟨given, waiting, false⟩ word = step ⟨given, waiting, false⟩ := by
    by_cases hc : c = '-'
    · subst hc
      have hrest : rest ≠ [] := by
        rintro rfl
        exact hstop (String.toList_inj.1 hlist)
      exact ⟨_, looksFirst_readLong rest, fun _ _ => read_long hlist hrest⟩
    · exact ⟨_, looksFirst_readLetters c rest, fun _ _ => read_letters hlist hc⟩
  obtain ⟨step, hstep, hread⟩ := hread
  rw [hread, hstep]
  refine exists_congr fun rested => and_congr_right fun hrested => ?_
  obtain ⟨more, rfl⟩ := exists_of_settled hrested
  rw [hread]

end CommandReader

end PageCensus
