import Switchboard.CommandLine.Arguments
import Switchboard.LogFilter
import Switchboard.Server

/-!
# The program

What an invocation asks for, and how a run ends: with code 0 when help or the
version was asked for, with code 2 when the arguments make no sense, with code
1 and an explanation when the settings or the network are not as they should
be, and with code 101 when a server cannot be set up as its settings say, or
the log filter has a directive that cannot even be refused. Servers that have
started and clients that have connected go on.

The log filter comes from a variable of its own. If that is not set, or cannot
be used as a whole, the log level is taken as a filter, and what cannot be used
of it is complained about.
-/

namespace Switchboard.Program

open Switchboard.CommandLine

/-- What the program is asked to do. -/
inductive Invocation
  | serve (logging : Logging) (settings : Settings)
  | client (logging : Logging) (url : String)

/-- Why nothing is done. -/
inductive Failure
  | arguments (reason : Halt)
  | settings (error : SettingsError)
  deriving DecidableEq, Repr

/-- Read what the program is asked to do. -/
def invocation (environment : Environment) (arguments : List String) :
    Except Failure Invocation :=
  match CommandLine.read environment arguments with
  | .error reason => .error (.arguments reason)
  | .ok (.client, assignment) => .ok (.client assignment.logging assignment.serverUrl)
  | .ok (.serve, assignment) =>
      match assignment.settings.validate with
      | .error error => .error (.settings error)
      | .ok settings => .ok (.serve assignment.logging settings)

/-- The variable of the log filter that is preferred to the log level. -/
def filterVariable : String :=
  "RUST_LOG"

/-- The log filter, and the complaints about it. -/
def logFilter? (environment : Environment) (logging : Logging) :
    Option (LogFilter × List String) :=
  LogFilter.choose? (environment filterVariable) logging.level

/-- How a run ends. -/
structure Exit where
  code : UInt32
  /-- What was said about the log filter before the run ended. -/
  complaints : List String := []
  error : Option String := none
  deriving DecidableEq, Repr

namespace Exit

/-- An end with an explanation. -/
def failed (reason : String) : Exit :=
  { code := 1, error := some ("Error: " ++ reason) }

/-- An end without an explanation. -/
def broken : Exit :=
  { code := 101 }

/-- The end of a server that does not start. -/
def ofStartError : StartError → Exit
  | .unbindable address => failed ("failed to bind " ++ address.text)
  | .linesTooLong => broken
  | .pattern _ => broken

/-- The end of a run that has not come to its task. -/
def ofHalt : Halt → Exit
  | .help | .version => { code := 0 }
  | _ => { code := 2 }

end Exit

/-- How a task ends on a host, if it ends by itself. -/
def taskExit? (host : Network.Host) (task : Task) (assignment : Assignment) : Option Exit :=
  match task with
  | .client =>
      if host.isConnected then none
      else some (.failed ("failed to connect to " ++ assignment.serverUrl))
  | .serve =>
      match assignment.settings.validate with
      | .error error => some (.failed error.message)
      | .ok settings =>
          match Server.bind host settings with
          | .ok _ => none
          | .error error => some (.ofStartError error)

/-- How a run ends on a host, if it ends by itself. Complaints come first. -/
def exit? (host : Network.Host) (environment : Environment) (arguments : List String) :
    Option Exit :=
  match CommandLine.read environment arguments with
  | .error reason => some (.ofHalt reason)
  | .ok (task, assignment) =>
      match logFilter? environment assignment.logging with
      | none => some .broken
      | some (_, complaints) =>
          (taskExit? host task assignment).map fun exit => { exit with complaints }

end Switchboard.Program
