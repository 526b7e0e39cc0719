import PageCensus.Fetch.Basic
import PageCensus.Program

/-!
# The executable

The outer layer of the program: it looks at the files that a run may replace, lets `execute` decide
everything, and then carries it out.  No transport is linked in, so nobody answers a request and
every page is skipped.
-/

set_option autoImplicit false

namespace PageCensus

/-- The environment variable with the setting for the log. -/
def logVariable : String := "RUST_LOG"

/-- The working directory, as far as a run can change it. -/
def readWorkingDirectory : IO FileSystem := do
  let mut files := FileSystem.fresh
  for name in [CountFile.charsName, CountFile.wordsName] do
    match ← (IO.FS.readBinFile name).toBaseIO with
    | .ok _ => files := files.withFile name ""
    | .error (.noFileOrDirectory ..) => pure ()
    | .error _ => files := files.withDirectory name
  return files

/-- Replace the files that a run has written. -/
def writeFiles (outcome : Outcome) : IO Unit := do
  for event in outcome.world.log do
    match event with
    | .countsSaved path _ =>
      let name := (Route.ofPath path).names.getLast?
      for (file, text) in outcome.world.files.filesBelowHome do
        if some file == name then IO.FS.writeFile file text
    | _ => pure ()

end PageCensus

open PageCensus in
/-- Start the program. -/
def main (words : List String) : IO UInt32 := do
  let launch : Launch := ⟨none, words, ← IO.getEnv logVariable⟩
  let start ← IO.monoMsNow
  let files ← readWorkingDirectory
  let elapsed := (← IO.monoMsNow) - start
  let outcome := execute launch (fun url => (fetch [] url).result)
    ⟨elapsed / 1000, elapsed % 1000 * 1000000⟩ ⟨.unlimited, files, [], []⟩
  writeFiles outcome
  (← IO.getStdout).write outcome.world.stdout.written
  let stderr ← IO.getStderr
  for event in outcome.shown do
    stderr.putStrLn event.line
  stderr.putStr outcome.stderr
  return UInt32.ofNat outcome.exitCode
