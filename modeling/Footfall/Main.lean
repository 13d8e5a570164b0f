import Footfall.Admin.Run
import Footfall.Settings.Environment

/-!
# The command line

The arguments are an administrative command. It runs on an empty store, once the settings of the
environment have been found usable, and its JSON is printed.
-/

open Footfall

/-- The variables that are read from the environment. -/
def readEnvironment : IO Environment := do
  let values ← Environment.names.mapM fun name => do
    return (name, ← IO.getEnv name)
  return fun name => (values.find? fun v => v.1 == name).bind (·.2)

/-- Print a message and fail. -/
def failWith (message : String) : IO UInt32 := do
  IO.eprintln ("Error: " ++ message)
  return 1

/-- Run the command that the arguments make. -/
def main (args : List String) : IO UInt32 := do
  match Settings.fromEnvironment (← readEnvironment) with
  | .error e => failWith e.message
  | .ok _ =>
    match Admin.Command.parse args with
    | .error e => failWith e.message
    | .ok none => failWith "no administrative command"
    | .ok (some command) =>
      match command.execute {} with
      | (.error f, _) => failWith f.message
      | (.ok output, _) =>
        IO.println output
        return 0
