import Switchboard.Program

/-!
# The command line

The outermost layer: arguments and environment are handed to the library, and
what it answers is printed. No sockets are opened here, so the host is taken
to be offline.
-/

namespace Switchboard.Program

open Switchboard.CommandLine

/-- The words and flags of the program. -/
def usage : String :=
  "Usage: switchboard [OPTIONS] <serve|client> [OPTIONS]\n\nOptions:\n" ++
    String.join (Choice.all.map fun choice => "  --" ++ choice.flag ++ " <VALUE>\n") ++
    "  -h, --help\n  -V, --version"

/-- The values of the variables by which choices are made and logs filtered. -/
def readEnvironment : IO Environment := do
  let mut values : List (String × String) := []
  for name in filterVariable :: Choice.all.filterMap Choice.environmentName? do
    if let some value ← IO.getEnv name then
      values := (name, value) :: values
  return fun name => values.lookup name

end Switchboard.Program

open Switchboard in
def main (arguments : List String) : IO UInt32 := do
  let environment ← Program.readEnvironment
  match CommandLine.read environment arguments with
  | .error .version => IO.println "switchboard 0.1.0"
  | .error .help => IO.println Program.usage
  | .error _ => IO.eprintln Program.usage
  | .ok _ => pure ()
  match Program.exit? .offline environment arguments with
  | none => return 0
  | some exit =>
      exit.complaints.forM IO.eprintln
      if let some error := exit.error then
        IO.eprintln error
      return exit.code
