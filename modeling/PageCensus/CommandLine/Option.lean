/-!
# The options of the command line

Two options take a number, two are switches, and two ask for a text and nothing else.

* `CommandOption` — the options.
* `CommandOption.long`, `CommandOption.letter?` — how each is spelled.
* `CommandOption.shown` — how messages name it.
-/

set_option autoImplicit false

namespace PageCensus

/-- What can be given on the command line. -/
inductive CommandOption where
  /-- How many entries of each ranking are printed. -/
  | top
  /-- How long to wait after each page. -/
  | delay
  /-- Whether to show more events. -/
  | verbose
  /-- Whether to print the list of addresses and do nothing else. -/
  | listUrls
  /-- Print the help. -/
  | help
  /-- Print the version. -/
  | version
deriving DecidableEq, Repr

namespace CommandOption

/-- All options, in the order of the help. -/
def all : List CommandOption := [top, delay, verbose, listUrls, help, version]

/-- The spelling behind two hyphens. -/
def long : CommandOption → String
  | top => "top"
  | delay => "delay-ms"
  | verbose => "verbose"
  | listUrls => "list-urls"
  | help => "help"
  | version => "version"

/-- The letter behind one hyphen, if there is one. -/
def letter? : CommandOption → Option Char
  | top => some 't'
  | delay => some 'd'
  | verbose => some 'v'
  | listUrls => none
  | help => some 'h'
  | version => some 'V'

/-- What messages call the value of an option, if it takes one. -/
def valueName? : CommandOption → Option String
  | top => some "TOP"
  | delay => some "DELAY_MS"
  | _ => none

/-- Whether an option takes a value. -/
def takesValue (option : CommandOption) : Bool := option.valueName?.isSome

/-- How messages name an option. -/
def shown (option : CommandOption) : String :=
  match option.valueName? with
  | none => "--" ++ option.long
  | some name => "--" ++ option.long ++ " <" ++ name ++ ">"

/-- The option with this spelling behind two hyphens. -/
def ofLong? (name : String) : Option CommandOption := all.find? fun option => option.long == name

/-- The option with this letter behind one hyphen. -/
def ofLetter? (c : Char) : Option CommandOption := all.find? fun option => option.letter? == some c

/-- No two options share a letter. -/
theorem ofLetter?_letter {option : CommandOption} {c : Char} (h : option.letter? = some c) :
    ofLetter? c = some option := by
  cases option <;> simp only [letter?, Option.some.injEq, reduceCtorEq] at h <;> subst h <;> decide

theorem long_of_ofLong? {option : CommandOption} {name : String} (h : ofLong? name = some option) :
    option.long = name := by
  have hlong := List.find?_some h
  exact beq_iff_eq.1 hlong

theorem letter?_of_ofLetter? {option : CommandOption} {c : Char} (h : ofLetter? c = some option) :
    option.letter? = some c := by
  have hletter := List.find?_some h
  exact beq_iff_eq.1 hletter

end CommandOption

end PageCensus
