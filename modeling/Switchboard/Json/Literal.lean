import Switchboard.Text.Ascii

/-!
# String literals

A JSON string literal is a run of pieces between two quotes: bytes that stand
for themselves, two-letter escapes, and UTF-16 units written as four
hexadecimal digits. Finding the end of a literal and reading its meaning are
separate questions. A literal that is only skipped may hold unpaired
surrogates and bytes that are no UTF-8; one that is read may not.

In the other direction `quoted` writes a text as a literal, escaping exactly
the quote, the backslash and the control characters.
-/

namespace Switchboard.Json

open Switchboard.Text

/-- The escapes of one letter after a backslash. -/
inductive Escape
  | quote
  | backslash
  | slash
  | backspace
  | formFeed
  | lineFeed
  | carriageReturn
  | tab
  deriving DecidableEq, Repr

namespace Escape

/-- The letter after the backslash. -/
def letter : Escape → UInt8
  | quote => Ascii.quote
  | backslash => Ascii.backslash
  | slash => Ascii.slash
  | backspace => Ascii.lowerB
  | formFeed => Ascii.lowerF
  | lineFeed => Ascii.lowerN
  | carriageReturn => Ascii.lowerR
  | tab => Ascii.lowerT

/-- The byte that the escape stands for. -/
def meaning : Escape → UInt8
  | quote => Ascii.quote
  | backslash => Ascii.backslash
  | slash => Ascii.slash
  | backspace => Ascii.backspace
  | formFeed => Ascii.formFeed
  | lineFeed => Ascii.lineFeed
  | carriageReturn => Ascii.carriageReturn
  | tab => Ascii.tab

/-- All escapes of one letter. -/
def all : List Escape :=
  [quote, backslash, slash, backspace, formFeed, lineFeed, carriageReturn, tab]

/-- The escape written with a letter. -/
def ofLetter? (letter : UInt8) : Option Escape :=
  all.find? fun kind => kind.letter = letter

end Escape

/-- One piece of a string literal, as spelled. -/
inductive Piece
  /-- A byte that stands for itself. -/
  | byte (value : UInt8)
  /-- A backslash and a letter. -/
  | escape (kind : Escape)
  /-- A UTF-16 unit, spelled with four hexadecimal digits. -/
  | unit (first second third fourth : UInt8)
  deriving DecidableEq, Repr

namespace Piece

/-- The bytes of a piece. -/
def spelling : Piece → Bytes
  | byte value => [value]
  | escape kind => [Ascii.backslash, kind.letter]
  | unit first second third fourth =>
      [Ascii.backslash, Ascii.lowerU, first, second, third, fourth]

end Piece

/-- Add a piece in front of a literal that has been read. -/
def consPiece (piece : Piece) : List Piece × Bytes → List Piece × Bytes
  | (pieces, rest) => (piece :: pieces, rest)

/-- The pieces up to the closing quote and the bytes after it. Control
characters may not stand in a literal. -/
def literalBody? : Bytes → Option (List Piece × Bytes)
  | [] => none
  | byte :: rest =>
      if byte = Ascii.quote then
        some ([], rest)
      else if byte = Ascii.backslash then
        match rest with
        | [] => none
        | letter :: rest =>
            if letter = Ascii.lowerU then
              match rest with
              | first :: second :: third :: fourth :: rest =>
                  if [first, second, third, fourth].all (Ascii.hexValue? · |>.isSome) then
                    (literalBody? rest).map (consPiece (.unit first second third fourth))
                  else
                    none
              | _ => none
            else
              match Escape.ofLetter? letter with
              | some kind => (literalBody? rest).map (consPiece (.escape kind))
              | none => none
      else if Ascii.isControl byte then
        none
      else
        (literalBody? rest).map (consPiece (.byte byte))

/-- What follows a literal is shorter than what it was read from. -/
theorem literalBody?_length {bytes rest : Bytes} {pieces : List Piece}
    (read : literalBody? bytes = some (pieces, rest)) :
    rest.length < bytes.length := by
  fun_induction literalBody? bytes generalizing pieces <;>
    simp_all [consPiece] <;> grind

/-! ## Reading a literal -/

/-- The UTF-16 unit spelled by four hexadecimal digits. -/
def unitValue (first second third fourth : UInt8) : Nat :=
  [first, second, third, fourth].foldl
    (fun value digit => value * 16 + (Ascii.hexValue? digit).getD 0) 0

/-- The first half of a surrogate pair. -/
def isHighSurrogate (unit : Nat) : Bool :=
  0xd800 ≤ unit && unit < 0xdc00

/-- The second half of a surrogate pair. -/
def isLowSurrogate (unit : Nat) : Bool :=
  0xdc00 ≤ unit && unit < 0xe000

/-- The character outside the basic plane that a surrogate pair stands for. -/
def pairedCharacter (high low : Nat) : Char :=
  Char.ofNat (0x10000 + (high - 0xd800) * 0x400 + (low - 0xdc00))

/-- The UTF-8 form of one character. -/
def characterBytes (character : Char) : Bytes :=
  utf8 (String.singleton character)

/-- The bytes that a run of pieces stands for. A surrogate that is not half
of a pair stands for nothing. -/
def meaning? : List Piece → Option Bytes
  | [] => some []
  | .byte value :: rest => (meaning? rest).map (value :: ·)
  | .escape kind :: rest => (meaning? rest).map (kind.meaning :: ·)
  | .unit first second third fourth :: rest =>
      let unit := unitValue first second third fourth
      if isHighSurrogate unit then
        match rest with
        | .unit first second third fourth :: rest =>
            let low := unitValue first second third fourth
            if isLowSurrogate low then
              (meaning? rest).map (characterBytes (pairedCharacter unit low) ++ ·)
            else
              none
        | _ => none
      else if isLowSurrogate unit then
        none
      else
        (meaning? rest).map (characterBytes (Char.ofNat unit) ++ ·)

/-- The text that a literal denotes. -/
def denotation? (pieces : List Piece) : Option String :=
  (meaning? pieces).bind ofUtf8?

/-! ## Writing a literal -/

/-- The hexadecimal digit of a value below sixteen, in lower case. -/
def hexDigit (value : Nat) : Char :=
  if value < 10 then Char.ofNat (0x30 + value) else Char.ofNat (0x57 + value)

/-- A character inside a literal. The quote, the backslash and the control
characters are escaped, the latter by a letter where one exists; all else
stands for itself. -/
def escaped (character : Char) : List Char :=
  match character with
  | '"' => ['\\', '"']
  | '\\' => ['\\', '\\']
  | '\x08' => ['\\', 'b']
  | '\x0c' => ['\\', 'f']
  | '\n' => ['\\', 'n']
  | '\r' => ['\\', 'r']
  | '\t' => ['\\', 't']
  | _ =>
      if character.toNat < 0x20 then
        ['\\', 'u', '0', '0', hexDigit (character.toNat / 16), hexDigit (character.toNat % 16)]
      else
        [character]

/-- A text as a string literal. -/
def quoted (text : String) : String :=
  "\"" ++ String.ofList (text.toList.flatMap escaped) ++ "\""

end Switchboard.Json
