import PageCensus.CommandLine.Parser
import PageCensus.FileSystem.Route
import PageCensus.Text.Plain

/-!
# What is said about a command line

Words of the command line, and the name of the program, are shown without commands to a terminal.

* `programName` — what the program calls itself.
* `Halt.text` — the help, the version, or what is wrong, with a hint how to do better.
* `Halt.exitCode` — how the program ends then.
-/

set_option autoImplicit false

namespace PageCensus

/-- What the program is called when nobody says otherwise. -/
def defaultName : String := "pagefreq"

/-- What the program calls itself when it was started by `path`: the last name on the way there.  A
point on the way says nothing. -/
def programName (path : Option String) : String :=
  let names := (Route.ofPath (path.getD "")).names.filter (· != ".")
  match names.getLast? with
  | none => defaultName
  | some name => if name = ".." then defaultName else name

/-- How the program is used, with what matters here behind its name. -/
def usageLine (program : String) (shown : List String) : String :=
  "Usage: " ++ " ".intercalate (plain program :: shown) ++ "\n"

/-- Any options may follow. -/
def anyOptions : List String := ["[OPTIONS]"]

/-- The options that do not end the program. -/
def runOptions : List CommandOption := [.top, .delay, .verbose, .listUrls]

/-- At least one of several options follows. -/
def alternatives (options : List CommandOption) : String :=
  "<" ++ "|".intercalate (options.map CommandOption.shown) ++ ">"

/-- The help. -/
def helpText (program : String) : String :=
  "Fetch a fixed set of web pages and report their character and word frequencies\n\n" ++
  usageLine program anyOptions ++
  "\nOptions:\n" ++
  "  -t, --top <TOP>            Number of entries shown in each \"most used\" list " ++
    "[default: 5]\n" ++
  "  -d, --delay-ms <DELAY_MS>  Pause between pages, in milliseconds [default: 500]\n" ++
  "  -v, --verbose              Enable verbose logging\n" ++
  "      --list-urls            Print the embedded URL list and exit\n" ++
  "  -h, --help                 Print help\n" ++
  "  -V, --version              Print version\n"

/-- The version. -/
def versionText : String := defaultName ++ " 0.1.0\n"

namespace Refusal

/-- What is wrong. -/
def reason : Refusal → String
  | unexpected word => "unexpected argument '" ++ plain word ++ "' found"
  | unknownOption name _ _ => "unexpected argument '--" ++ plain name ++ "' found"
  | repeated option => "the argument '" ++ option.shown ++ "' cannot be used multiple times"
  | missingValue option => "a value is required for '" ++ option.shown ++ "' but none was supplied"
  | badNumber option text fault =>
    "invalid value '" ++ plain text ++ "' for '" ++ option.shown ++ "': " ++ fault.message
  | unneededValue option text _ =>
    "unexpected value '" ++ plain text ++ "' for '" ++ option.shown ++
      "' found; no more were expected"

/-- What the line on usage shows; some refusals have no such line.  A value that is not needed
points to all options that could have been meant, unless it is the first thing that was given. -/
def usage? : Refusal → Option (List String)
  | unexpected _ => some anyOptions
  | unknownOption _ similar used =>
    let options := (used ++ similar.toList).eraseDups
    some (if options.isEmpty then anyOptions else options.map CommandOption.shown)
  | repeated _ => some anyOptions
  | missingValue _ => none
  | badNumber .. => none
  | unneededValue option _ used =>
    some (if used.isEmpty then [option.shown]
      else (if runOptions.contains option then [] else [option.shown]) ++ [alternatives runOptions])

/-- The option that is perhaps meant. -/
def similar? : Refusal → Option CommandOption
  | unknownOption _ similar _ => similar
  | _ => none

/-- What is wrong, and how to do better. -/
def text (refusal : Refusal) (program : String) : String :=
  let tip := match refusal.similar? with
    | none => ""
    | some option => "  tip: a similar argument exists: '--" ++ option.long ++ "'\n\n"
  let usage := match refusal.usage? with
    | none => ""
    | some shown => usageLine program shown ++ "\n"
  "error: " ++ refusal.reason ++ "\n\n" ++ tip ++ usage ++
    "For more information, try '--help'.\n"

end Refusal

namespace Halt

/-- What is printed instead of a report. -/
def text (halt : Halt) (program : String) : String :=
  match halt with
  | help => helpText program
  | version => versionText
  | refused refusal => refusal.text program

/-- How the program ends: well if it gave what was asked for. -/
def exitCode : Halt → Nat
  | help => 0
  | version => 0
  | refused _ => 2

end Halt

example : [none, some "", some "/usr/bin/other", some "a/.", some ".."].map programName =
    ["pagefreq", "pagefreq", "other", "a", "pagefreq"] := by decide

end PageCensus
