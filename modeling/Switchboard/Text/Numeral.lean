/-!
# Numerals

Numbers inside settings and addresses are runs of ASCII digits to some base.
This file reads such runs and writes numbers back without leading zeros.
-/

namespace Switchboard.Text.Numeral

/-- The value of a digit to a base of at most sixteen. -/
def digitValue? (base : Nat) (digit : Char) : Option Nat :=
  let value? :=
    if '0' ≤ digit ∧ digit ≤ '9' then some (digit.toNat - '0'.toNat)
    else if 'a' ≤ digit ∧ digit ≤ 'f' then some (digit.toNat - 'a'.toNat + 10)
    else if 'A' ≤ digit ∧ digit ≤ 'F' then some (digit.toNat - 'A'.toNat + 10)
    else none
  value?.filter (· < base)

/-- Whether a character is a digit to a base. -/
def isDigit (base : Nat) (character : Char) : Bool :=
  (digitValue? base character).isSome

/-- The number written by a run of digits. -/
def value (base : Nat) (digits : List Char) : Nat :=
  digits.foldl (fun number digit => number * base + (digitValue? base digit).getD 0) 0

/-- A run of digits as a number, if there are digits and nothing else. -/
def read? (base : Nat) (digits : List Char) : Option Nat :=
  if digits ≠ [] ∧ digits.all (isDigit base) then some (value base digits) else none

/-- A decimal number of a given number of bits, with an optional plus sign. -/
def readUnsigned? (bits : Nat) (text : String) : Option Nat :=
  let digits := match text.toList with
    | '+' :: digits => digits
    | digits => digits
  (read? 10 digits).filter (· < 1 <<< bits)

/-- A decimal number of a given number of bits, with an optional sign. A minus
sign is accepted before zero only. -/
def readSigned? (bits : Nat) (text : String) : Option Nat :=
  match text.toList with
  | '-' :: digits => (read? 10 digits).filter (· = 0)
  | _ => readUnsigned? bits text

/-- A number in decimal digits. -/
def decimal (number : Nat) : String :=
  String.ofList (Nat.toDigits 10 number)

/-- A number in hexadecimal digits, in lower case. -/
def hexadecimal (number : Nat) : String :=
  String.ofList (Nat.toDigits 16 number)

end Switchboard.Text.Numeral
