import Switchboard.LogFilter.Directive

/-!
# Log filters

A log filter is a list of directives with commas between them. It can be read
as a whole, or one directive at a time with a complaint about each that cannot
be used.
-/

namespace Switchboard

/-- Which log lines are written. -/
abbrev LogFilter := List LogFilter.Directive

namespace LogFilter

/-- The texts of the directives of a filter. Empty ones do not count. -/
def texts (filter : String) : List String :=
  (filter.toList.splitOn ',').filterMap fun characters =>
    if characters = [] then none else some (String.ofList characters)

/-- Read a filter all of whose directives can be used. -/
def read (filter : String) : Except DirectiveError LogFilter :=
  (texts filter).mapM Directive.read

/-- What is said about a directive that cannot be used. -/
def complaint (text : String) (error : DirectiveError) : String :=
  "ignoring \x60" ++ text ++ "\x60: " ++ error.message

/-- Read the directives that can be used, and complain about the others. -/
def readUsable : List String → Except DirectiveError (LogFilter × List String)
  | [] => .ok ([], [])
  | text :: rest =>
      match Directive.read text, readUsable rest with
      | .error .torn, _ => .error .torn
      | _, .error error => .error error
      | .ok directive, .ok (filter, complaints) => .ok (directive :: filter, complaints)
      | .error error, .ok (filter, complaints) =>
          .ok (filter, complaint text error :: complaints)

/-- The filter of a program with the complaints about it: a preferred one if it
can be used as a whole, or else what can be used of another one. There is none
if one of them holds a torn directive. -/
def choose? (preferred : Option String) (other : String) : Option (LogFilter × List String) :=
  let usable := (readUsable (texts other)).toOption
  match preferred.map read with
  | none => usable
  | some (.ok filter) => some (filter, [])
  | some (.error .torn) => none
  | some (.error _) => usable

end LogFilter

end Switchboard
