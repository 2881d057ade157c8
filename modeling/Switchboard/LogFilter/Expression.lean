import Switchboard.LogFilter.Expression.Bracket
import Switchboard.Text.Alphanumeric

/-!
# Regular expressions

The fields of a span are compared with regular expressions. This file says
which texts are expressions.

Only what needs no tables of characters can be used. Kinds of characters such
as digits and comparisons without case need them, unless a flag has limited an
expression to ASCII. Within that limit nothing can be used that would also
take a part of a character. The boundaries of words are never found without
that limit.

Fields are written without commas and closing braces, so a count of
repetitions never ends, and neither does a braced name of a character.
-/

namespace Switchboard.LogFilter

open Text

/-- Why a text is no expression. -/
inductive ExpressionError
  | malformed
  /-- A boundary of words is looked for, but not among ASCII characters. -/
  | wordBoundary
  deriving DecidableEq, Repr

/-- The explanation of an error. -/
def ExpressionError.message : ExpressionError → String
  | malformed => "error building NFA"
  | wordBoundary =>
      "unsupported regex feature for DFAs: cannot build DFAs for regexes with Unicode word " ++
        "boundaries; switch to ASCII word boundaries, or heuristically enable Unicode word " ++
        "boundaries or use a different regex engine"

namespace Expression

/-- Whether some characters are the name of a group. -/
def isName (name : List Char) : Bool :=
  match name with
  | [] => false
  | first :: rest =>
      (first = '_' || isAlphabetic first) &&
        rest.all fun character =>
          isAlphanumeric character || ['_', '.', '[', ']'].contains character

/-- How far a group has been read, or the whole expression. -/
structure Level where
  mode : Mode := {}
  /-- The depths of the alternatives that have been read. -/
  branches : List Depth := []
  /-- The depths of the parts of the current alternative, the last first. -/
  parts : List Depth := []
  /-- The last part can be repeated. -/
  isRepeatable : Bool := false
  deriving DecidableEq, Repr

namespace Level

/-- The depth of what the group holds. -/
def content (level : Level) : Depth :=
  match level.branches with
  | [] => .row level.parts
  | branches => .around (.row level.parts :: branches)

/-- Add a part of some depth. -/
def add (level : Level) (depth : Depth) : Level :=
  { level with parts := depth :: level.parts, isRepeatable := true }

/-- Repeat the last part. -/
def repeat? (level : Level) : Option Level :=
  match level.parts with
  | last :: earlier =>
      if level.isRepeatable then some { level with parts := .around [last] :: earlier } else none
  | [] => none

/-- Begin another alternative. -/
def branch (level : Level) : Level :=
  { mode := level.mode, branches := .row level.parts :: level.branches }

end Level

/-- How far an expression has been read. -/
structure Reading where
  level : Level := {}
  /-- The groups around it, the innermost first. -/
  outer : List Level := []
  /-- The brackets that have not been closed. -/
  brackets : Option Brackets := none
  names : List (List Char) := []
  hasBoundary : Bool := false
  deriving DecidableEq, Repr

namespace Reading

/-- Add a part to the current group. -/
def add (reading : Reading) (depth : Depth) : Reading :=
  { reading with level := reading.level.add depth }

/-- Open a group. -/
def openGroup (reading : Reading) (mode : Mode) : Reading :=
  { reading with level := { mode }, outer := reading.level :: reading.outer }

/-- Open a group with a name. -/
def openNamed? (reading : Reading) (rest : List Char) : Option (Reading × List Char) :=
  let name := rest.takeWhile (· ≠ '>')
  match rest.drop name.length with
  | _ :: after =>
      if isName name ∧ name ∉ reading.names then
        some ({ reading.openGroup reading.level.mode with names := name :: reading.names }, after)
      else
        none
  | [] => none

/-- Read what stands behind an opening parenthesis: the name of a group, flags
for a group or for what follows, or the beginning of a plain group. -/
def openGroup? (reading : Reading) (rest : List Char) : Option (Reading × List Char) :=
  let level := reading.level
  match level.mode.skip rest with
  | '?' :: 'P' :: '<' :: behind | '?' :: '<' :: behind => reading.openNamed? behind
  | '?' :: behind =>
      let flags := behind.takeWhile fun character => character ≠ ':' && character ≠ ')'
      let mode := level.mode.setAll flags
      if areFlags flags then
        match behind.drop flags.length with
        | ':' :: after => some (reading.openGroup mode, after)
        | ')' :: after =>
            if flags = [] then none
            else
              some ({ reading with
                level := { level.add Depth.leaf with mode, isRepeatable := false } }, after)
        | _ => none
      else
        none
  | after => some (reading.openGroup level.mode, after)

/-- Close a group. -/
def closeGroup? (reading : Reading) : Option Reading :=
  match reading.outer with
  | [] => none
  | parent :: outer =>
      some { reading with level := parent.add (.around [reading.level.content]), outer }

/-- Read an atom. -/
def atom? (reading : Reading) (characters : List Char) : Option (Reading × List Char) :=
  let mode := reading.level.mode
  match Atom.read? mode characters with
  | none => none
  | some (.literal _, after) =>
      if mode.needsTable then none else some (reading.add Depth.leaf, after)
  | some (.boundary, after) => some ({ reading.add Depth.leaf with hasBoundary := true }, after)
  | some (_, after) => some (reading.add Depth.leaf, after)

/-- Read on in brackets. -/
def inside? (reading : Reading) (brackets : Brackets) (first : Char) (rest : List Char) :
    Option (Reading × List Char) :=
  (brackets.step? reading.level.mode first rest).map fun (bracketing, after) =>
    match bracketing with
    | .further next => ({ reading with brackets := some next }, after)
    | .closed depth => ({ reading.add depth with brackets := none }, after)

/-- Read on outside brackets. Repetitions may be marked as short ones. -/
def outside? (reading : Reading) (first : Char) (rest : List Char) : Option (Reading × List Char) :=
  let level := reading.level
  match first with
  | '(' => reading.openGroup? rest
  | ')' => reading.closeGroup?.map (·, rest)
  | '[' => some ({ reading with brackets := some {} }, rest)
  | '|' => some ({ reading with level := level.branch }, rest)
  | '?' | '*' | '+' =>
      level.repeat?.map fun level =>
        ({ reading with level }, if rest.head? = some '?' then rest.drop 1 else rest)
  | '\x7b' => none
  | '^' | '$' => some (reading.add Depth.leaf, rest)
  | '.' => if level.mode.ascii then none else some (reading.add Depth.leaf, rest)
  | _ => reading.atom? (first :: rest)

/-- Nothing is open. -/
def isDone (reading : Reading) : Bool :=
  reading.outer.isEmpty && reading.brackets.isNone

/-- Read to the end in a number of steps. Every step takes a character. -/
def run? (reading : Reading) (steps : Nat) (characters : List Char) : Option Reading :=
  match reading.level.mode.skip characters, steps with
  | [], _ => if reading.isDone then some reading else none
  | _ :: _, 0 => none
  | first :: rest, steps + 1 =>
      let further? := match reading.brackets with
        | some brackets => reading.inside? brackets first rest
        | none => reading.outside? first rest
      match further? with
      | some (next, after) => next.run? steps after
      | none => none

end Reading

/-- Check that a text is an expression. -/
def check (text : String) : Except ExpressionError Unit :=
  match ({} : Reading).run? text.length text.toList with
  | none => .error .malformed
  | some reading =>
      if Depth.limit < reading.level.content then .error .malformed
      else if reading.hasBoundary then .error .wordBoundary
      else .ok ()

end Expression

end Switchboard.LogFilter
