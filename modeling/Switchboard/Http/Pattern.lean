import Switchboard.Text.Ascii

/-!
# Patterns of paths

A pattern says under which paths something is found. Most of its bytes stand
for themselves. A colon and a name stand for what is left of a segment, and
an asterisk and a name, which can only come last, for all that is left of the
path. The names do not matter.

Where patterns part, a literal byte goes before something wider. Two patterns
conflict when they are the same, or when they part where neither has a literal
byte. Patterns can part within a character, because characters may share
their first bytes.
-/

namespace Switchboard.Http

open Text

/-- A piece of a pattern. -/
inductive Piece
  | literal (byte : UInt8)
  /-- What is left of a segment. -/
  | parameter
  /-- All that is left of the path. -/
  | remainder
  deriving DecidableEq, Repr

/-- A pattern is a run of pieces. -/
abbrev Pattern := List Piece

/-- Why a pattern cannot be used. -/
inductive PatternError
  /-- The pattern does not begin with a slash. -/
  | relative
  /-- A colon or an asterisk without a name. -/
  | unnamed
  /-- Two names in one segment. -/
  | crowded
  | tooManyParameters
  /-- A remainder before the end of the pattern. -/
  | earlyRemainder
  /-- A remainder that does not begin a segment. -/
  | detachedRemainder
  /-- Some paths are claimed by another pattern. -/
  | conflict
  deriving DecidableEq, Repr

namespace Pattern

/-- The bytes that begin the name of a piece. -/
def isMarker (byte : UInt8) : Bool :=
  byte = Ascii.colon || byte = Ascii.asterisk

/-- The most parameters that a pattern may have. -/
def parameterLimit : Nat :=
  25

/-- The pieces that some bytes write. -/
def pieces (bytes : Bytes) : Except PatternError Pattern :=
  match bytes with
  | [] => .ok []
  | byte :: rest =>
      if isMarker byte then
        let name := rest.takeWhile (· ≠ Ascii.slash)
        let after := rest.dropWhile (· ≠ Ascii.slash)
        if name = [] then
          .error .unnamed
        else if name.any isMarker then
          .error .crowded
        else if byte = Ascii.colon then
          (pieces after).map (.parameter :: ·)
        else if after = [] then
          .ok [.remainder]
        else
          .error .earlyRemainder
      else
        (pieces rest).map (.literal byte :: ·)
termination_by bytes.length
decreasing_by
  · have shorter := (List.dropWhile_suffix (l := rest) (· ≠ Ascii.slash)).length_le
    rw [List.length_cons]
    omega
  · exact Nat.lt_succ_self _

/-- Read a pattern. -/
def read (path : String) : Except PatternError Pattern :=
  if (utf8 path).head? = some Ascii.slash then
    match pieces (utf8 path) with
    | .error error => .error error
    | .ok pattern =>
        if parameterLimit < pattern.count .parameter then
          .error .tooManyParameters
        else
          .ok pattern
  else
    .error .relative

/-- Whether two patterns are the same, or part where neither has a literal
byte. -/
def conflicts : Pattern → Pattern → Bool
  | [], [] => true
  | [], _ :: _ | _ :: _, [] => false
  | .literal first :: pattern, .literal second :: other =>
      first = second && conflicts pattern other
  | .literal _ :: _, _ :: _ | _ :: _, .literal _ :: _ => false
  | .parameter :: pattern, .parameter :: other => conflicts pattern other
  | _ :: _, _ :: _ => true

/-- What stands before the remainder of a pattern that has one. -/
def stem? (pattern : Pattern) : Option Pattern :=
  if pattern.getLast? = some .remainder then some pattern.dropLast else none

/-- Whether a remainder may follow a stem: at the beginning of a segment, or
where another pattern leads past the stem. -/
def admitsRemainder (stem : Pattern) (others : List Pattern) : Bool :=
  stem.getLast? = some (.literal Ascii.slash) || others.any fun other => stem.isPrefixOf other

end Pattern

end Switchboard.Http
