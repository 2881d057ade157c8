import Switchboard.LogFilter.Expression.Mode
import Switchboard.Text.Numeral

/-!
# Atoms of expressions

The smallest parts of an expression, which are characters or a backslash with
characters behind it.
-/

namespace Switchboard.LogFilter.Expression

open Text

/-- What a character, or a backslash with characters behind it, stands for. -/
inductive Atom
  | literal (code : Nat)
  /-- All digits, all spaces or all characters of words. -/
  | kind
  | anchor
  /-- A boundary of words that any characters may be made of. -/
  | boundary
  deriving DecidableEq, Repr

namespace Atom

/-- A given number of hexadecimal digits, and what follows them. -/
def digits? (mode : Mode) : Nat → List Char → Option (List Char × List Char)
  | 0, characters => some ([], characters)
  | _ + 1, [] => none
  | count + 1, digit :: rest =>
      if Numeral.isDigit 16 digit then
        (digits? mode count (mode.skip rest)).map fun (digits, after) => (digit :: digits, after)
      else
        none

/-- The character with a number of a given length, and what follows it. Among
ASCII characters two digits stand for a byte, which has to be a character. -/
def numbered? (mode : Mode) (count : Nat) (characters : List Char) :
    Option (Atom × List Char) := do
  let (digits, after) ← digits? mode count (mode.skip characters)
  let code := Numeral.value 16 digits
  guard (code.isValidChar ∧ ¬ (mode.ascii ∧ count = 2 ∧ 0x80 ≤ code))
  return (literal code, after)

/-- What a backslash and the characters behind it stand for, and what follows
these. Properties of characters need a table, and without them the kinds of
characters do. -/
def escaped? (mode : Mode) : List Char → Option (Atom × List Char)
  | [] => none
  | character :: rest =>
      match character with
      | 'x' => numbered? mode 2 rest
      | 'u' => numbered? mode 4 rest
      | 'U' => numbered? mode 8 rest
      | 'd' | 's' | 'w' => if mode.ascii then some (kind, rest) else none
      | 'a' => some (literal 0x07, rest)
      | 't' => some (literal 0x09, rest)
      | 'n' => some (literal 0x0a, rest)
      | 'v' => some (literal 0x0b, rest)
      | 'f' => some (literal 0x0c, rest)
      | 'r' => some (literal 0x0d, rest)
      | 'A' | 'z' => some (anchor, rest)
      | 'b' | 'B' | '<' | '>' => some (if mode.ascii then anchor else boundary, rest)
      | _ =>
          if character.toNat < 0x80 ∧ ¬ character.isAlphanum then
            some (literal character.toNat, rest)
          else
            none

/-- The atom that some characters begin with, and what follows it. -/
def read? (mode : Mode) : List Char → Option (Atom × List Char)
  | [] => none
  | '\\' :: rest => escaped? mode rest
  | character :: rest => some (literal character.toNat, rest)

end Atom

end Switchboard.LogFilter.Expression
