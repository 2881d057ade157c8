import Switchboard.Text.Blank

/-!
# Modes of reading an expression

Flags inside an expression change how what follows them is read.
-/

namespace Switchboard.LogFilter.Expression

open Text

/-- What flags have set. -/
structure Mode where
  /-- Only ASCII characters are considered. -/
  ascii : Bool := false
  caseless : Bool := false
  /-- White space and comments mean nothing. -/
  spaced : Bool := false
  deriving DecidableEq, Repr

namespace Mode

/-- Comparing a character with others needs a table. -/
def needsTable (mode : Mode) : Bool :=
  mode.caseless && !mode.ascii

/-- Set a flag. -/
def set (mode : Mode) (flag : Char) (value : Bool) : Mode :=
  match flag with
  | 'u' => { mode with ascii := !value }
  | 'i' => { mode with caseless := value }
  | 'x' => { mode with spaced := value }
  | _ => mode

/-- Set the flags in front of a minus sign and unset the ones behind it. -/
def setAll (mode : Mode) (flags : List Char) : Mode :=
  let unset := (flags.dropWhile (· ≠ '-')).drop 1
  unset.foldl (set · · false) ((flags.takeWhile (· ≠ '-')).foldl (set · · true) mode)

end Mode

/-- Whether some characters are flags, each at most once, and at most one minus
sign in front of the last of them. -/
def areFlags (flags : List Char) : Bool :=
  flags.all (['i', 'm', 's', 'U', 'u', 'R', 'x', '-'].contains ·) &&
    flags.all (fun flag => flags.count flag ≤ 1) && flags.getLast? ≠ some '-'

/-- What follows white space and comments. A comment ends with its line. -/
def afterBlanks : List Char → List Char
  | [] => []
  | character :: rest =>
      if isWhiteSpace character then
        afterBlanks rest
      else if character = '#' then
        afterBlanks (rest.drop ((rest.takeWhile (· ≠ '\n')).length + 1))
      else
        character :: rest
termination_by characters => characters.length
decreasing_by all_goals simp only [List.length_drop, List.length_cons]; omega

namespace Mode

/-- What follows the characters that mean nothing. -/
def skip (mode : Mode) (characters : List Char) : List Char :=
  if mode.spaced then afterBlanks characters else characters

/-- The next character that means something, in search of the end of a range.
Comments are not passed over here, but the sign in front of one is. -/
def next? (mode : Mode) (characters : List Char) : Option Char :=
  if mode.spaced then
    match characters.dropWhile isWhiteSpace with
    | '#' :: comment => (comment.dropWhile isWhiteSpace).head?
    | visible => visible.head?
  else
    characters.head?

end Mode

end Switchboard.LogFilter.Expression
