import Precis.Plan.CommandLine

/-!
# The program

Reads the files and overrides that a command names, runs it, and prints what it gives.
-/

namespace Precis

/-- The text of a file, unless it cannot be read. -/
def fileText (path : String) : IO (Option String) := do
  try return some (← IO.FS.readFile path)
  catch _ => return none

/-- The files and overrides around a command. -/
def surroundings (command : CommandLine.Command) : IO CommandLine.Surroundings := do
  let files ← command.paths.mapM fun path => do return (path, ← fileText path)
  let overrides ← Settings.overrides.mapM fun o => do return (o.name, ← IO.getEnv o.name)
  return {
    file := fun path => (files.lookup path).join
    value := fun name => (overrides.lookup name).join
    objection := fun _ => "not an item" }

end Precis

open Precis in
def main (args : List String) : IO UInt32 := do
  let command := CommandLine.Command.ofArgs args
  match command.run (← surroundings command) with
  | .error overflow =>
    IO.eprintln overflow.message
    return 101
  | .ok result =>
    IO.print result.out
    for line in result.err do
      IO.eprintln line
    return result.code.toUInt32
