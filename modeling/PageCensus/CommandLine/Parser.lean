import PageCensus.CommandLine.Option
import PageCensus.CommandLine.Similarity
import PageCensus.Text.Number

/-!
# Reading the command line

The words of a command line are read from left to right.  Behind two hyphens stands the spelling of
an option, behind one hyphen letters of options; a value follows as the next word, behind an equals
sign, or directly behind the letter.  After a word of two hyphens only plain words may follow, and
none is expected.

**A value waits.**  The value of an option is not looked at before the next option, or the end, is
reached: only then can it turn out to be missing, repeated or no number.  If the next word is no
option at all, that is reported, and nothing is said about the value that waits.

* `Arguments` — what a command line says.
* `Arguments.parse` — reading it; `Halt` says why there may be nothing to run.
-/

set_option autoImplicit false

namespace PageCensus

/-- What a command line says. -/
structure Arguments where
  /-- How many entries of each ranking are printed. -/
  top : Nat := 5
  /-- How long to wait after each page, in milliseconds. -/
  delay : Nat := 500
  /-- Whether to show more events. -/
  verbose : Bool := false
  /-- Whether to print the list of addresses and do nothing else. -/
  listUrls : Bool := false
deriving DecidableEq, Repr

/-- Why a command line makes no sense. -/
inductive Refusal where
  /-- Nothing of this kind is expected. -/
  | unexpected (word : String)
  /-- No option has this spelling; perhaps a similar one is meant. -/
  | unknownOption (name : String) (similar : Option CommandOption) (used : List CommandOption)
  /-- An option is given twice. -/
  | repeated (option : CommandOption)
  /-- The value of an option is missing. -/
  | missingValue (option : CommandOption)
  /-- The value of an option is no number. -/
  | badNumber (option : CommandOption) (text : String) (fault : NumberFault)
  /-- An option has a value and takes none. -/
  | unneededValue (option : CommandOption) (text : String) (used : List CommandOption)
deriving DecidableEq, Repr

/-- Why there is nothing to run. -/
inductive Halt where
  /-- The help was asked for. -/
  | help
  /-- The version was asked for. -/
  | version
  /-- The command line makes no sense. -/
  | refused (refusal : Refusal)
deriving DecidableEq, Repr

/-- A reader of a command line. -/
structure CommandReader where
  /-- The options read so far, with their values; the value of a switch does not matter. -/
  given : List (CommandOption × Nat) := []
  /-- An option whose value has not been looked at, and the value if it is known. -/
  waiting : Option (CommandOption × Option String) := none
  /-- Whether only plain words may follow. -/
  onlyPlain : Bool := false
deriving DecidableEq, Repr

namespace CommandReader

/-- Whether an option was given. -/
def has (reader : CommandReader) (option : CommandOption) : Bool :=
  reader.given.any fun entry => entry.1 == option

/-- The options given so far. -/
def used (reader : CommandReader) : List CommandOption := reader.given.map Prod.fst

/-- Look at the value that waits.  The reader goes on without it, whatever comes of it: an option
that turns out to be repeated counts as not given, one without a number as given. -/
def settle (reader : CommandReader) : CommandReader × Option Refusal :=
  let rest := { reader with waiting := none }
  match reader.waiting with
  | none => (rest, none)
  | some (option, none) => (rest, some (.missingValue option))
  | some (option, some text) =>
    if reader.has option then
      ({ rest with given := reader.given.filter fun entry => entry.1 != option },
        some (.repeated option))
    else
      match readNumber text with
      | .ok n => ({ rest with given := reader.given ++ [(option, n)] }, none)
      | .error fault =>
        ({ rest with given := reader.given ++ [(option, 0)] },
          some (.badNumber option text fault))

/-- Look at the value that waits, and stop if something is wrong with it. -/
def settled (reader : CommandReader) : Except Halt CommandReader :=
  match reader.settle with
  | (reader, none) => .ok reader
  | (_, some refusal) => .error (.refused refusal)

/-- Read an option without a value. -/
def readSwitch (reader : CommandReader) (option : CommandOption) :
    Except Halt CommandReader := do
  let reader ← reader.settled
  match option with
  | .help => .error .help
  | .version => .error .version
  | _ =>
    if reader.has option then .error (.refused (.repeated option))
    else return { reader with given := reader.given ++ [(option, 1)] }

/-- Read an option with a value, which may come as the next word.  A value that came along is looked
at at once. -/
def readValued (reader : CommandReader) (option : CommandOption) (value? : Option String) :
    Except Halt CommandReader := do
  let reader ← reader.settled
  let reader := { reader with waiting := some (option, value?) }
  if value?.isSome then reader.settled else return reader

/-- Read what stands behind two hyphens. -/
def readLong (reader : CommandReader) (body : List Char) : Except Halt CommandReader :=
  let name := body.takeWhile (· != '=')
  let value? := match body.drop name.length with
    | [] => none
    | _ :: value => some (String.ofList value)
  match CommandOption.ofLong? (String.ofList name) with
  | none =>
    let similar := mostSimilar? name (fun option => option.long.toList) CommandOption.all
    .error (.refused (.unknownOption (String.ofList name) similar reader.settle.1.used))
  | some option =>
    if option.takesValue then reader.readValued option value?
    else match value? with
      | none => reader.readSwitch option
      | some value => .error (.refused (.unneededValue option value reader.used))

/-- Read what stands behind one hyphen. -/
def readLetters (reader : CommandReader) : List Char → Except Halt CommandReader
  | [] => .ok reader
  | c :: rest =>
    match CommandOption.ofLetter? c with
    | none => .error (.refused (.unexpected (String.ofList ['-', c])))
    | some option =>
      if option.takesValue then
        match rest with
        | [] => reader.readValued option none
        | '=' :: value => reader.readValued option (some (String.ofList value))
        | value => reader.readValued option (some (String.ofList value))
      else do
        let reader ← reader.readSwitch option
        reader.readLetters rest

/-- Read a word that is no option: the value that is missing, or nothing that is expected. -/
def readPlain (reader : CommandReader) (word : String) : Except Halt CommandReader :=
  match reader.onlyPlain, reader.waiting with
  | false, some (option, none) => .ok { reader with waiting := some (option, some word) }
  | _, _ => .error (.refused (.unexpected word))

/-- Read a word.  A single hyphen is a plain word. -/
def read (reader : CommandReader) (word : String) : Except Halt CommandReader :=
  if reader.onlyPlain then reader.readPlain word
  else match word.toList with
    | ['-', '-'] => .ok { reader with onlyPlain := true }
    | '-' :: '-' :: body => reader.readLong body
    | '-' :: c :: rest => reader.readLetters (c :: rest)
    | _ => reader.readPlain word

/-- The value of an option, if it was given. -/
def value? (reader : CommandReader) (option : CommandOption) : Option Nat :=
  reader.given.lookup option

/-- What the options given so far say. -/
def arguments (reader : CommandReader) : Arguments :=
  let default : Arguments := {}
  { top := (reader.value? .top).getD default.top
    delay := (reader.value? .delay).getD default.delay
    verbose := reader.has .verbose
    listUrls := reader.has .listUrls }

end CommandReader

namespace Arguments

/-- What the words of a command line, behind the name of the program, say. -/
def parse (words : List String) : Except Halt Arguments := do
  let reader ← words.foldlM CommandReader.read {}
  return (← reader.settled).arguments

/-- Why the values of a command line cannot be used, although it makes sense. -/
def invalid? (arguments : Arguments) : Option String :=
  if arguments.top = 0 then some "--top must be greater than 0" else none

/-- Options in any order and spelling; no words on the command line are needed. -/
example : parse ["-vt5", "--delay-ms=0"] = .ok ⟨5, 0, true, false⟩ ∧ parse [] = .ok {} :=
  ⟨rfl, rfl⟩

end Arguments

end PageCensus
