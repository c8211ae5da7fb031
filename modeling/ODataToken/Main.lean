import ODataToken.Cli.Run
import ODataToken.Config.Search

/-!
# The command line

The outer layer of the command-line program, and all of it that has effects.

## What is here

* `Cli.currentDirectory` reads the files of the current directory that a search may ask for, before
  anything is known of the arguments.  What the search would not have looked at makes no difference,
  as it is a function of the contents (`Search.run`).
* `Cli.currentEnvironment` is the environment in the order in which it is stored.  The order counts
  when one variable is about a part of what another one sets.
* `Cli.printEvent` prints one step of a run: what it puts out and its ordinary log lines go to the
  standard output, complaints, warnings and errors to the error stream.
* `main` puts these around `Cli.run`, which decides everything else, and returns the exit code.

A file that cannot be read counts as missing.  Nothing is proved about this layer; it decides
nothing that a proof would have to know.
-/

set_option autoImplicit false

namespace ODataToken
namespace Cli

/-- The contents of a file, if it can be read. -/
def readFile? (path : String) : IO (Option Text) := do
  try
    return some (Text.ofString (← IO.FS.readFile path))
  catch _ => return none

/-- The current directory with the files that a search may ask for. -/
def currentDirectory : IO Directory := do
  let path := (← IO.currentDir).toString
  let files ← Search.places.mapM fun place => do
    return (place.name, ← readFile? (path ++ "/" ++ place.name.toString))
  return ⟨Text.ofString path, fun name => (files.find? fun f => f.1 == name).bind Prod.snd⟩

/-- A variable from its entry in the environment, which is its name, `=` and its value. -/
def variableOf (entry : Text) : Text × Text :=
  let name := entry.takeWhile (· != CodeUnit.ofChar '=')
  (name, entry.drop (name.length + 1))

/-- The environment variables in order. -/
def currentEnvironment : IO Environment := do
  let entries := ((← readFile? "/proc/self/environ").getD []).splitOn 0
  return (entries.filter fun e => !e.isEmpty).map variableOf

/-- Prints one step of a run. -/
def printEvent : Event → IO Unit
  | .output line => IO.println line.toString
  | .complaint line => IO.eprintln line.toString
  | .logged line =>
    match line.channel with
    | .log => IO.println line.text.toString
    | .warn => IO.eprintln line.text.toString
    | .error => IO.eprintln line.text.toString

end Cli
end ODataToken

/-- Runs the command line and returns its exit code. -/
def main (args : List String) : IO UInt32 := do
  let directory ← ODataToken.Cli.currentDirectory
  let surroundings := ⟨ODataToken.Search.run directory, ← ODataToken.Cli.currentEnvironment⟩
  let report :=
    ODataToken.Cli.run surroundings .initial (args.map ODataToken.Text.ofString)
  report.events.forM ODataToken.Cli.printEvent
  return UInt32.ofNat report.exitCode
