import PageCensus.CommandLine.Parser
import PageCensus.Proofs.Text.Number

/-!
# The grammar of the command line

A command line is made of phrases.  A phrase is a switch, or an option with its number, which comes
as the next word, behind an equals sign or directly behind the letter; in front of that letter there
may be the letter of the switch.  In the end there may be a word of two hyphens.

The phrases say what is given.  Nothing may be given twice, however it is spelled, and what is not
given has its default.

* `Phrase`, `Sentence` — what is written.
* `Distinct`, `Says` — what it means.
-/

set_option autoImplicit false

namespace PageCensus

/-- An option that is given, and its number.  The number of a switch is one. -/
abbrev Setting := CommandOption × Nat

namespace CommandLine

/-- The letter and the spelling of an option with a number. -/
inductive Spelled : CommandOption → String → String → Prop where
  | top : Spelled .top "t" "top"
  | delay : Spelled .delay "d" "delay-ms"

/-- What stands in front of the letter of an option with a number: a hyphen, and perhaps the letter
of the switch. -/
inductive Front : List Setting → String → Prop where
  | hyphen : Front [] "-"
  | verbose : Front [(.verbose, 1)] "-v"

/-- **A word that asks for a number**, and what it gives before. -/
inductive Asks : List Setting → CommandOption → String → Prop where
  | letter {front : List Setting} {before : String} {option : CommandOption} {letter long : String}
    (hfront : Front front before) (hoption : Spelled option letter long) :
    Asks front option (before ++ letter)
  | long {option : CommandOption} {letter long : String} (hoption : Spelled option letter long) :
    Asks [] option ("--" ++ long)

/-- **One or two words that give something.** -/
inductive Phrase : List Setting → List String → Prop where
  /-- The switch for more events. -/
  | verbose : Phrase [(.verbose, 1)] ["--verbose"]
  /-- Its letter. -/
  | verboseLetter : Phrase [(.verbose, 1)] ["-v"]
  /-- The switch for the list of addresses. -/
  | listUrls : Phrase [(.listUrls, 1)] ["--list-urls"]
  /-- A number is the next word. -/
  | next {front : List Setting} {option : CommandOption} {word text : String} {n : Nat}
    (hword : Asks front option word) (hn : Numeral text n) :
    Phrase (front ++ [(option, n)]) [word, text]
  /-- A number stands behind an equals sign. -/
  | equals {front : List Setting} {option : CommandOption} {word text : String} {n : Nat}
    (hword : Asks front option word) (hn : Numeral text n) :
    Phrase (front ++ [(option, n)]) [word ++ "=" ++ text]
  /-- A number stands behind a letter. -/
  | behind {front : List Setting} {before : String} {option : CommandOption}
    {letter long text : String} {n : Nat} (hfront : Front front before)
    (hoption : Spelled option letter long) (hn : Numeral text n) :
    Phrase (front ++ [(option, n)]) [before ++ letter ++ text]

/-- **The words of a command line**, and all they give, from left to right. -/
inductive Sentence : List Setting → List String → Prop where
  /-- No words are needed. -/
  | nil : Sentence [] []
  /-- In the end there may be two hyphens. -/
  | stop : Sentence [] ["--"]
  /-- A phrase is followed by more. -/
  | append {given settings : List Setting} {words rest : List String} (hgiven : Phrase given words)
    (hrest : Sentence settings rest) : Sentence (given ++ settings) (words ++ rest)

/-- Whether nothing is given twice. -/
def Distinct (settings : List Setting) : Prop := (settings.map Prod.fst).Nodup

instance (settings : List Setting) : Decidable (Distinct settings) :=
  inferInstanceAs (Decidable (settings.map Prod.fst).Nodup)

/-- Whether a number is the one that is given for an option, or else its default. -/
def IsValue (settings : List Setting) (option : CommandOption) (default n : Nat) : Prop :=
  (option, n) ∈ settings ∨ option ∉ settings.map Prod.fst ∧ n = default

/-- **What the settings say**, in any order. -/
structure Says (settings : List Setting) (arguments : Arguments) : Prop where
  /-- Five entries are shown if nothing else is said. -/
  top : IsValue settings .top 5 arguments.top
  /-- The delay is half a second if nothing else is said. -/
  delay : IsValue settings .delay 500 arguments.delay
  /-- More events are shown if this is said. -/
  verbose : arguments.verbose = true ↔ .verbose ∈ settings.map Prod.fst
  /-- The list of addresses is printed if this is said. -/
  listUrls : arguments.listUrls = true ↔ .listUrls ∈ settings.map Prod.fst

variable {given settings other : List Setting} {option : CommandOption} {n default : Nat}
  {arguments : Arguments}

theorem Distinct.nil : Distinct [] := List.nodup_nil

theorem Distinct.of_append_left (h : Distinct (given ++ settings)) : Distinct given := by
  rw [Distinct, List.map_append] at h
  exact (List.nodup_append.1 h).1

theorem distinct_append_singleton (h : Distinct given) :
    Distinct (given ++ [(option, n)]) ↔ option ∉ given.map Prod.fst := by
  rw [Distinct, List.map_append, List.map_singleton, List.nodup_append]
  constructor
  · rintro ⟨-, -, hnot⟩ hmem
    exact hnot option hmem option (List.mem_singleton.2 rfl) rfl
  · intro hnot
    refine ⟨h, List.nodup_cons.2 ⟨List.not_mem_nil, List.nodup_nil⟩, ?_⟩
    rintro x hx y hy rfl
    obtain rfl := List.mem_singleton.1 hy
    exact hnot hx

/-- What comes last was not given before. -/
theorem Distinct.not_mem (h : Distinct (given ++ [(option, n)])) : option ∉ given.map Prod.fst :=
  (distinct_append_singleton h.of_append_left).1 h

/-- Where nothing is given twice, looking an option up gives its number. -/
theorem lookup_eq_some_iff (h : Distinct settings) :
    settings.lookup option = some n ↔ (option, n) ∈ settings := by
  constructor
  · intro hn
    obtain ⟨front, back, rfl, -⟩ := List.lookup_eq_some_iff.1 hn
    exact List.mem_append_right front List.mem_cons_self
  · intro hn
    obtain ⟨front, back, rfl⟩ := List.append_of_mem hn
    rw [Distinct, List.map_append, List.nodup_append] at h
    refine List.lookup_eq_some_iff.2 ⟨front, back, rfl, fun setting hsetting => ?_⟩
    have hother := h.2.2 setting.1 (List.mem_map_of_mem hsetting) option List.mem_cons_self
    exact bne_iff_ne.2 hother.symm

/-- An option has one value. -/
theorem isValue_iff (h : Distinct settings) :
    IsValue settings option default n ↔ n = (settings.lookup option).getD default := by
  rw [IsValue, ← lookup_eq_some_iff h]
  cases hlookup : settings.lookup option with
  | none =>
    have hnot : option ∉ settings.map Prod.fst := by
      intro hmem
      obtain ⟨⟨o, m⟩, hsetting, rfl⟩ := List.mem_map.1 hmem
      rw [(lookup_eq_some_iff h).2 hsetting] at hlookup
      cases hlookup
    simp [hnot]
  | some m =>
    have hmem : option ∈ settings.map Prod.fst :=
      List.mem_map_of_mem ((lookup_eq_some_iff h).1 hlookup)
    simp [hmem, eq_comm]

theorem IsValue.perm (hperm : settings.Perm other) (h : IsValue settings option default n) :
    IsValue other option default n := by
  rwa [IsValue, ← hperm.mem_iff, ← (hperm.map Prod.fst).mem_iff]

/-- **In which order the settings are given does not matter.** -/
theorem Says.perm (hperm : settings.Perm other) (h : Says settings arguments) :
    Says other arguments where
  top := h.top.perm hperm
  delay := h.delay.perm hperm
  verbose := by rw [h.verbose, (hperm.map Prod.fst).mem_iff]
  listUrls := by rw [h.listUrls, (hperm.map Prod.fst).mem_iff]

end CommandLine

end PageCensus
