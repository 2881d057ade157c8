import Switchboard.LogFilter.Expression.Atom
import Switchboard.LogFilter.Expression.Depth

/-!
# Brackets in expressions

A bracket stands for one character out of several. It holds characters,
ranges of them, kinds of characters and further brackets, and operators may
stand between these. A caret at the beginning stands for all other characters,
which are not only ASCII ones. Where comparing characters needs a table only
brackets without any character can be used.
-/

namespace Switchboard.LogFilter.Expression

/-- Places in a bracket. -/
inductive Place
  | start
  /-- Behind the caret, or behind minus signs at the beginning. -/
  | leading
  | inside
  deriving DecidableEq, Repr

/-- How far a bracket has been read. -/
structure Bracket where
  place : Place := .start
  /-- The depth of what stands in front of the last operator. -/
  left : Option Depth := none
  /-- The depths of the members behind it. -/
  members : List Depth := []
  deriving DecidableEq, Repr

namespace Bracket

/-- The depth of what the bracket holds. -/
def content (bracket : Bracket) : Depth :=
  let right := Depth.row bracket.members
  match bracket.left with
  | none => right
  | some left => .around [left, right]

/-- Add a member of some depth. -/
def add (bracket : Bracket) (depth : Depth) : Bracket :=
  { bracket with members := depth :: bracket.members }

/-- Add a member that is no bracket. -/
def addLeaf? (bracket : Bracket) (mode : Mode) : Option Bracket :=
  if mode.needsTable then none else some (bracket.add .leaf)

/-- Add an operator. -/
def operate (bracket : Bracket) : Bracket :=
  { bracket with left := some bracket.content, members := [] }

end Bracket

/-- The names of kinds of characters in brackets. -/
def kindNames : List String :=
  ["alnum", "alpha", "ascii", "blank", "cntrl", "digit", "graph", "lower", "print", "punct",
    "space", "upper", "word", "xdigit"]

/-- Whether the characters behind a bracket name a kind of characters, whether a
caret turns it into the opposite, and what follows it. -/
def kindName? : List Char → Option (Bool × List Char)
  | ':' :: rest =>
      let hasCaret := rest.head? = some '^'
      let rest := if hasCaret then rest.drop 1 else rest
      let name := rest.takeWhile (· ≠ ':')
      match rest.drop name.length with
      | ':' :: ']' :: after =>
          if kindNames.contains (String.ofList name) then some (hasCaret, after) else none
      | _ => none
  | _ => none

/-- Whether an atom can stand in brackets. -/
def canBeMember (mode : Mode) : Atom → Bool
  | .literal code => !mode.ascii || code < 0x80
  | .kind => true
  | .anchor | .boundary => false

/-- Read an atom in brackets, or a range, and return what follows it. -/
def member? (mode : Mode) (characters : List Char) : Option (List Char) := do
  let (low, after) ← Atom.read? mode characters
  guard (canBeMember mode low)
  match mode.skip after with
  | '-' :: behind =>
      if mode.next? behind = some ']' ∨ mode.next? behind = some '-' then
        return '-' :: behind
      else
        let (high, rest) ← Atom.read? mode (mode.skip behind)
        guard (canBeMember mode high)
        match low, high with
        | .literal low, .literal high => if low ≤ high then return rest else failure
        | _, _ => failure
  | rest => return rest

/-- How far brackets inside one another have been read. -/
structure Brackets where
  current : Bracket := {}
  /-- The brackets around it, the innermost first. -/
  outer : List Bracket := []
  deriving DecidableEq, Repr

/-- What comes of reading on in brackets. -/
inductive Bracketing
  | further (brackets : Brackets)
  | closed (depth : Depth)
  deriving DecidableEq, Repr

namespace Brackets

/-- Close the innermost bracket. -/
def close (brackets : Brackets) : Bracketing :=
  let depth := Depth.around [brackets.current.content]
  match brackets.outer with
  | [] => .closed depth
  | parent :: outer => .further { current := parent.add depth, outer }

/-- Read on behind the beginning of a bracket. -/
def inside? (brackets : Brackets) (mode : Mode) (first : Char) (rest : List Char) :
    Option (Bracketing × List Char) :=
  let further (bracket : Bracket) : Bracketing := .further { brackets with current := bracket }
  if first = '[' then
    match kindName? rest with
    | some (hasCaret, after) =>
        if mode.ascii ∧ hasCaret then none
        else (brackets.current.addLeaf? mode).map fun bracket => (further bracket, after)
    | none => some (.further { outer := brackets.current :: brackets.outer }, rest)
  else if first = ']' then
    some (brackets.close, rest)
  else if ['&', '-', '~'].contains first ∧ rest.head? = some first then
    some (further brackets.current.operate, rest.drop 1)
  else do
    let after ← member? mode (first :: rest)
    let bracket ← brackets.current.addLeaf? mode
    return (further bracket, after)

/-- Read on in a bracket. Minus signs at the beginning are characters, and so
is a closing bracket without anything in front of it. -/
def step? (brackets : Brackets) (mode : Mode) (first : Char) (rest : List Char) :
    Option (Bracketing × List Char) :=
  let bracket := brackets.current
  let goTo (place : Place) (bracket : Bracket) : Brackets :=
    { brackets with current := { bracket with place } }
  if bracket.place = .start ∧ first = '^' then
    if mode.ascii then none else some (.further (goTo .leading bracket), rest)
  else if bracket.place ≠ .inside ∧ first = '-' then
    (bracket.addLeaf? mode).map fun next => (.further (goTo .leading next), rest)
  else if bracket.place ≠ .inside ∧ first = ']' ∧ bracket.members.isEmpty then
    (bracket.addLeaf? mode).map fun next => (.further (goTo .inside next), rest)
  else
    (goTo .inside bracket).inside? mode first rest

end Brackets

end Switchboard.LogFilter.Expression
