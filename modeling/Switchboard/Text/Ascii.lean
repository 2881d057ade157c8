import Switchboard.Text.Utf8

/-!
# Named bytes

The bytes that carry meaning in a JSON text or in the pattern of a path, under
names that may also stand in a match, and the small classes of bytes that
tokens are made of.
-/

namespace Switchboard.Text.Ascii

@[match_pattern] abbrev backspace : UInt8 := 0x08
@[match_pattern] abbrev tab : UInt8 := 0x09
@[match_pattern] abbrev lineFeed : UInt8 := 0x0a
@[match_pattern] abbrev formFeed : UInt8 := 0x0c
@[match_pattern] abbrev carriageReturn : UInt8 := 0x0d
@[match_pattern] abbrev space : UInt8 := 0x20
@[match_pattern] abbrev quote : UInt8 := 0x22
@[match_pattern] abbrev asterisk : UInt8 := 0x2a
@[match_pattern] abbrev plus : UInt8 := 0x2b
@[match_pattern] abbrev comma : UInt8 := 0x2c
@[match_pattern] abbrev minus : UInt8 := 0x2d
@[match_pattern] abbrev point : UInt8 := 0x2e
@[match_pattern] abbrev slash : UInt8 := 0x2f
@[match_pattern] abbrev zero : UInt8 := 0x30
@[match_pattern] abbrev nine : UInt8 := 0x39
@[match_pattern] abbrev colon : UInt8 := 0x3a
@[match_pattern] abbrev upperA : UInt8 := 0x41
@[match_pattern] abbrev upperE : UInt8 := 0x45
@[match_pattern] abbrev upperF : UInt8 := 0x46
@[match_pattern] abbrev leftBracket : UInt8 := 0x5b
@[match_pattern] abbrev backslash : UInt8 := 0x5c
@[match_pattern] abbrev rightBracket : UInt8 := 0x5d
@[match_pattern] abbrev lowerA : UInt8 := 0x61
@[match_pattern] abbrev lowerB : UInt8 := 0x62
@[match_pattern] abbrev lowerE : UInt8 := 0x65
@[match_pattern] abbrev lowerF : UInt8 := 0x66
@[match_pattern] abbrev lowerL : UInt8 := 0x6c
@[match_pattern] abbrev lowerN : UInt8 := 0x6e
@[match_pattern] abbrev lowerR : UInt8 := 0x72
@[match_pattern] abbrev lowerS : UInt8 := 0x73
@[match_pattern] abbrev lowerT : UInt8 := 0x74
@[match_pattern] abbrev lowerU : UInt8 := 0x75
@[match_pattern] abbrev leftBrace : UInt8 := 0x7b
@[match_pattern] abbrev rightBrace : UInt8 := 0x7d

/-- A decimal digit. -/
def isDigit (byte : UInt8) : Bool :=
  zero ≤ byte && byte ≤ nine

/-- The value of a hexadecimal digit of either case. -/
def hexValue? (byte : UInt8) : Option Nat :=
  if isDigit byte then
    some (byte - zero).toNat
  else if lowerA ≤ byte && byte ≤ lowerF then
    some ((byte - lowerA).toNat + 10)
  else if upperA ≤ byte && byte ≤ upperF then
    some ((byte - upperA).toNat + 10)
  else
    none

/-- A byte below the first printable character. -/
def isControl (byte : UInt8) : Bool :=
  byte < space

end Switchboard.Text.Ascii
