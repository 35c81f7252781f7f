/-
# Trellis.Main — the program

Reads the arguments and the graph document that they name, runs the command,
and prints its result as one line of JSON.
-/
import Trellis.CommandLine
import Trellis.Json.Printer

namespace Trellis.CommandLine

set_option autoImplicit false

/-- The text of a file, if it can be read. -/
def contentsOf? (path? : Option String) : IO (Option String) :=
  match path? with
  | none => return none
  | some path =>
    try
      return some (← IO.FS.readFile path)
    catch _ => return none

/-- Runs the program with the arguments after its name; gives the exit code. -/
def runArgs (args : List String) : IO UInt32 := do
  if args.any fun arg => arg == "--help" || arg == "-h" then
    IO.println help
    return 0
  match parse args with
  | .error cause =>
    IO.eprintln ("error: " ++ cause.message)
    IO.eprint help
    return 2
  | .ok command =>
    let contents? ← contentsOf? command.graph
    match command.execute fun _ => contents? with
    | .ok result =>
      IO.println result.render
      return 0
    | .error cause =>
      IO.eprintln ("command failed: " ++ cause.message)
      return 1

end Trellis.CommandLine

def main (args : List String) : IO UInt32 := Trellis.CommandLine.runArgs args
