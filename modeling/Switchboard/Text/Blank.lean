import Switchboard.Text.Utf8

/-!
# White space and damaged text

The characters that Unicode counts as white space, and the repair of bytes
that are no UTF-8: every longest stretch that cannot be continued to a
character is replaced by one replacement character.
-/

namespace Switchboard.Text

/-- White space in the sense of Unicode. -/
def isWhiteSpace (character : Char) : Bool :=
  let code := character.toNat
  (0x09 ≤ code && code ≤ 0x0d) || (0x2000 ≤ code && code ≤ 0x200a) ||
    [0x20, 0x85, 0xa0, 0x1680, 0x2028, 0x2029, 0x202f, 0x205f, 0x3000].contains code

/-- A text without the white space at its end. -/
def trimEnd (text : String) : String :=
  String.ofList (text.toList.reverse.dropWhile isWhiteSpace).reverse

/-- A byte inside a range. -/
def isWithin (low high byte : UInt8) : Bool :=
  low ≤ byte && byte ≤ high

/-- The ranges of the bytes that have to follow the first byte of a character. -/
def continuation? (first : UInt8) : Option (List (UInt8 × UInt8)) :=
  let any : UInt8 × UInt8 := (0x80, 0xbf)
  if first < 0x80 then some []
  else if isWithin 0xc2 0xdf first then some [any]
  else if first = 0xe0 then some [(0xa0, 0xbf), any]
  else if first = 0xed then some [(0x80, 0x9f), any]
  else if isWithin 0xe1 0xef first then some [any, any]
  else if first = 0xf0 then some [(0x90, 0xbf), any, any]
  else if isWithin 0xf1 0xf3 first then some [any, any, any]
  else if first = 0xf4 then some [(0x80, 0x8f), any, any]
  else none

/-- The number of bytes that stay within the given ranges, one after the other. -/
def fitting : List (UInt8 × UInt8) → Bytes → Nat
  | (low, high) :: ranges, byte :: rest =>
      if isWithin low high byte then fitting ranges rest + 1 else 0
  | _, _ => 0

/-- The UTF-8 form of the replacement character. -/
def replacement : Bytes :=
  [0xef, 0xbf, 0xbd]

/-- Bytes with every damaged stretch replaced. -/
def repaired : Bytes → Bytes
  | [] => []
  | first :: rest =>
      match continuation? first with
      | none => replacement ++ repaired rest
      | some ranges =>
          let count := fitting ranges rest
          (if count = ranges.length then first :: rest.take count else replacement) ++
            repaired (rest.drop count)
termination_by bytes => bytes.length
decreasing_by all_goals simp only [List.length_drop, List.length_cons]; omega

end Switchboard.Text
