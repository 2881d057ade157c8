import Switchboard.Text.Numeral

/-!
# Addresses

Addresses of network interfaces and sockets, with the usual texts: four
decimal octets, or eight hexadecimal groups of which one run of zeros may be
left out and the last two may be given as octets. A socket address adds a
port, after brackets around the groups, which may also name a numeric scope.

Written addresses are canonical: the longest run of two or more zero groups is
left out, the first one of several, and no digit is superfluous.
-/

namespace Switchboard.Network

open Switchboard.Text

/-- The address of a network interface. -/
inductive Address
  | octets (first second third fourth : UInt8)
  | groups (groups : Vector UInt16 8)
  deriving DecidableEq, Repr

/-- The address of a socket. The scope matters for groups only. -/
structure SocketAddress where
  address : Address
  port : UInt16
  scope : UInt32 := 0
  deriving DecidableEq, Repr

/-- A reader takes characters from the front and leaves the rest. -/
abbrev Reader (α : Type) := List Char → Option (α × List Char)

namespace Reader

/-- Read one given character. -/
def character (wanted : Char) : Reader Unit
  | [] => none
  | character :: rest => if character = wanted then some ((), rest) else none

/-- Read a number from the longest run of digits, which has a given number of
them at most and stays below a limit. Leading zeros may be forbidden. -/
def number (base : Nat) (most : Option Nat) (leadingZeros : Bool) (limit : Nat) : Reader Nat :=
  fun characters =>
    let digits := characters.takeWhile (Numeral.isDigit base)
    let rest := characters.dropWhile (Numeral.isDigit base)
    if digits = [] then
      none
    else if most.any (· < digits.length) then
      none
    else if leadingZeros = false ∧ digits.head? = some '0' ∧ 1 < digits.length then
      none
    else if Numeral.value base digits < limit then
      some (Numeral.value base digits, rest)
    else
      none

/-- One decimal octet. -/
def octet : Reader UInt8 := fun characters => do
  let (value, rest) ← number 10 (some 3) false 256 characters
  some (UInt8.ofNat value, rest)

/-- An octet after a point. -/
def nextOctet : Reader UInt8 := fun characters => do
  let ((), rest) ← character '.' characters
  octet rest

/-- Four octets. -/
def octets : Reader (UInt8 × UInt8 × UInt8 × UInt8) := fun characters => do
  let (first, rest) ← octet characters
  let (second, rest) ← nextOctet rest
  let (third, rest) ← nextOctet rest
  let (fourth, rest) ← nextOctet rest
  some ((first, second, third, fourth), rest)

/-- One hexadecimal group. -/
def group : Reader UInt16 := fun characters => do
  let (value, rest) ← number 16 (some 4) true 65536 characters
  some (UInt16.ofNat value, rest)

/-- Two octets as one group. -/
def pairOfOctets (high low : UInt8) : UInt16 :=
  UInt16.ofNat (high.toNat * 256 + low.toNat)

/-- Read something that, unless it is the first of its kind, stands after a
colon. -/
def separated {α : Type} (isFirst : Bool) (read : Reader α) : Reader α := fun characters =>
  if isFirst then
    read characters
  else do
    let ((), rest) ← character ':' characters
    read rest

/-- As many groups as there are, up to a number, with four octets in place of
the last two. The flag says whether the octets were used. -/
def groupRun : Nat → Bool → List Char → List UInt16 × Bool × List Char
  | 0, _, characters => ([], false, characters)
  | most + 1, isFirst, characters =>
      match if 1 ≤ most then separated isFirst octets characters else none with
      | some ((first, second, third, fourth), rest) =>
          ([pairOfOctets first second, pairOfOctets third fourth], true, rest)
      | none =>
          match separated isFirst group characters with
          | some (group, rest) =>
              let (groups, embedded, rest) := groupRun most false rest
              (group :: groups, embedded, rest)
          | none => ([], false, characters)

/-- Eight groups from the ones before and after the zeros left out. -/
def fillGroups (head tail : List UInt16) : Vector UInt16 8 :=
  let filled := head ++ List.replicate (8 - head.length - tail.length) 0 ++ tail
  Vector.ofFn fun index => filled.getD index.val 0

/-- Eight groups, of which one run of zeros may be left out. -/
def groups : Reader (Vector UInt16 8) := fun characters =>
  let (head, embedded, rest) := groupRun 8 true characters
  if head.length = 8 then
    some (fillGroups head [], rest)
  else if embedded then
    none
  else do
    let ((), rest) ← character ':' rest
    let ((), rest) ← character ':' rest
    let (tail, _, rest) := groupRun (7 - head.length) true rest
    some (fillGroups head tail, rest)

/-- A port after its colon. -/
def port : Reader UInt16 := fun characters => do
  let ((), rest) ← character ':' characters
  let (value, rest) ← number 10 none true 65536 rest
  some (UInt16.ofNat value, rest)

/-- A scope after its percent sign, or none. -/
def scope : List Char → UInt32 × List Char := fun characters =>
  let read := do
    let ((), rest) ← character '%' characters
    number 10 none true UInt32.size rest
  match read with
  | some (value, rest) => (UInt32.ofNat value, rest)
  | none => (0, characters)

/-- Octets and a port. -/
def octetsSocket : Reader SocketAddress := fun characters => do
  let ((first, second, third, fourth), rest) ← octets characters
  let (port, rest) ← port rest
  some ({ address := .octets first second third fourth, port }, rest)

/-- Groups in brackets and a port. -/
def groupsSocket : Reader SocketAddress := fun characters => do
  let ((), rest) ← character '[' characters
  let (groups, rest) ← groups rest
  let (scope, rest) := scope rest
  let ((), rest) ← character ']' rest
  let (port, rest) ← port rest
  some ({ address := .groups groups, port, scope }, rest)

/-- Read a whole text. -/
def whole? {α : Type} (read : Reader α) (text : String) : Option α :=
  match read text.toList with
  | some (value, []) => some value
  | _ => none

end Reader

namespace Address

/-- The interface address that a text writes. -/
def read? (text : String) : Option Address :=
  (Reader.octets.whole? text).map (fun (first, second, third, fourth) =>
    octets first second third fourth) <|>
    (Reader.groups.whole? text).map groups

/-- The number of zero groups from a position on. -/
def zerosFrom (groups : List UInt16) (start : Nat) : Nat :=
  ((groups.drop start).takeWhile (· = 0)).length

/-- The position of the first longest run of zero groups. -/
def longestZeros (groups : List UInt16) : Nat :=
  (List.range groups.length).foldl
    (fun best start => if zerosFrom groups best < zerosFrom groups start then start else best) 0

/-- Groups with colons between them. -/
def writtenGroups (groups : List UInt16) : String :=
  ":".intercalate (groups.map fun group => Numeral.hexadecimal group.toNat)

/-- Octets with points between them. -/
def writtenOctets (octets : List UInt8) : String :=
  ".".intercalate (octets.map fun octet => Numeral.decimal octet.toNat)

/-- The octets of a group. -/
def octetsOfGroup (group : UInt16) : List UInt8 :=
  [UInt8.ofNat (group.toNat / 256), UInt8.ofNat (group.toNat % 256)]

/-- Groups that stand for four octets. -/
def areMapped (groups : List UInt16) : Bool :=
  groups.take 6 = [0, 0, 0, 0, 0, 0xffff]

/-- Groups that stand for all interfaces. -/
def areZero (groups : List UInt16) : Bool :=
  groups.all (· = 0)

/-- The canonical text of an interface address. -/
def text : Address → String
  | octets first second third fourth => writtenOctets [first, second, third, fourth]
  | groups eight =>
      let groups := eight.toList
      if areMapped groups then
        "::ffff:" ++ writtenOctets ((groups.drop 6).flatMap octetsOfGroup)
      else
        let start := longestZeros groups
        let zeros := zerosFrom groups start
        if 1 < zeros then
          writtenGroups (groups.take start) ++ "::" ++ writtenGroups (groups.drop (start + zeros))
        else
          writtenGroups groups

end Address

namespace SocketAddress

/-- The socket address that a text writes. -/
def read? (text : String) : Option SocketAddress :=
  Reader.octetsSocket.whole? text <|> Reader.groupsSocket.whole? text

/-- The canonical text of a socket address. -/
def text (socket : SocketAddress) : String :=
  let port := ":" ++ Numeral.decimal socket.port.toNat
  match socket.address with
  | .octets .. => socket.address.text ++ port
  | .groups _ =>
      let scope := if socket.scope = 0 then "" else "%" ++ Numeral.decimal socket.scope.toNat
      "[" ++ socket.address.text ++ scope ++ "]" ++ port

end SocketAddress

end Switchboard.Network
