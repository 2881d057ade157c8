import Switchboard.Json.Literal

/-!
# Tokens of a JSON text

A JSON text is cut into lexemes: a token together with the blank bytes before
it. Tokens keep their spelling, so the spellings of all lexemes, followed by
the blanks at the end, give back the text. Whether the tokens form a value is
not decided here.
-/

namespace Switchboard.Json

open Switchboard.Text

/-- The bytes that may stand between tokens. -/
def isBlank (byte : UInt8) : Bool :=
  byte = Ascii.space || byte = Ascii.tab || byte = Ascii.lineFeed || byte = Ascii.carriageReturn

/-- The structural marks. -/
inductive Mark
  | beginArray
  | endArray
  | beginObject
  | endObject
  | nameSeparator
  | valueSeparator
  deriving DecidableEq, Repr

namespace Mark

/-- The byte of a mark. -/
def byte : Mark → UInt8
  | beginArray => Ascii.leftBracket
  | endArray => Ascii.rightBracket
  | beginObject => Ascii.leftBrace
  | endObject => Ascii.rightBrace
  | nameSeparator => Ascii.colon
  | valueSeparator => Ascii.comma

/-- All structural marks. -/
def all : List Mark :=
  [beginArray, endArray, beginObject, endObject, nameSeparator, valueSeparator]

/-- The mark written as a byte. -/
def ofByte? (byte : UInt8) : Option Mark :=
  all.find? fun mark => mark.byte = byte

end Mark

/-- The literal names. -/
inductive Word
  | null
  | true
  | false
  deriving DecidableEq, Repr

namespace Word

/-- The letters of a literal name. -/
def spelling : Word → Bytes
  | null => [Ascii.lowerN, Ascii.lowerU, Ascii.lowerL, Ascii.lowerL]
  | true => [Ascii.lowerT, Ascii.lowerR, Ascii.lowerU, Ascii.lowerE]
  | false => [Ascii.lowerF, Ascii.lowerA, Ascii.lowerL, Ascii.lowerS, Ascii.lowerE]

/-- All literal names. -/
def all : List Word :=
  [null, true, false]

/-- The literal name with which some bytes begin. -/
def atStart? (bytes : Bytes) : Option Word :=
  all.find? fun word => word.spelling.isPrefixOf bytes

end Word

/-- A token, as spelled. -/
inductive Token
  | mark (kind : Mark)
  | word (kind : Word)
  | number (spelling : Bytes)
  | string (pieces : List Piece)
  deriving DecidableEq, Repr

namespace Token

/-- The bytes of a token. -/
def spelling : Token → Bytes
  | mark kind => [kind.byte]
  | word kind => kind.spelling
  | number spelling => spelling
  | string pieces => Ascii.quote :: pieces.flatMap Piece.spelling ++ [Ascii.quote]

end Token

/-! ## Numbers -/

/-- A run of one or more digits, and what follows it. -/
def digits? (bytes : Bytes) : Option (Bytes × Bytes) :=
  if bytes.takeWhile Ascii.isDigit = [] then
    none
  else
    some (bytes.takeWhile Ascii.isDigit, bytes.dropWhile Ascii.isDigit)

/-- The integer part of a number: a single zero, or digits that do not begin
with one. -/
def integerPart? : Bytes → Option (Bytes × Bytes)
  | [] => none
  | byte :: rest => if byte = Ascii.zero then some ([byte], rest) else digits? (byte :: rest)

/-- The fraction of a number, which may be absent. -/
def fractionPart? : Bytes → Option (Bytes × Bytes)
  | [] => some ([], [])
  | byte :: rest =>
      if byte = Ascii.point then
        (digits? rest).map fun (digits, rest) => (byte :: digits, rest)
      else
        some ([], byte :: rest)

/-- An optional sign out of a list. -/
def signPart (signs : List UInt8) : Bytes → Bytes × Bytes
  | [] => ([], [])
  | byte :: rest => if byte ∈ signs then ([byte], rest) else ([], byte :: rest)

/-- The exponent of a number, which may be absent. -/
def exponentPart? : Bytes → Option (Bytes × Bytes)
  | [] => some ([], [])
  | byte :: rest =>
      if byte = Ascii.lowerE ∨ byte = Ascii.upperE then
        let signed := signPart [Ascii.plus, Ascii.minus] rest
        (digits? signed.2).map fun (digits, rest) => (byte :: signed.1 ++ digits, rest)
      else
        some ([], byte :: rest)

/-- The longest number at the start of some bytes, and what follows it. -/
def number? (bytes : Bytes) : Option (Bytes × Bytes) := do
  let (sign, rest) := signPart [Ascii.minus] bytes
  let (integer, rest) ← integerPart? rest
  let (fraction, rest) ← fractionPart? rest
  let (exponent, rest) ← exponentPart? rest
  some (sign ++ integer ++ fraction ++ exponent, rest)

/-! ## Cutting a text into lexemes -/

/-- The token at the start of some bytes, and what follows it. -/
def token? : Bytes → Option (Token × Bytes)
  | [] => none
  | byte :: rest =>
      match Mark.ofByte? byte with
      | some mark => some (.mark mark, rest)
      | none =>
          if byte = Ascii.quote then
            (literalBody? rest).map fun (pieces, rest) => (.string pieces, rest)
          else
            match Word.atStart? (byte :: rest) with
            | some word => some (.word word, (byte :: rest).drop word.spelling.length)
            | none => (number? (byte :: rest)).map fun (spelling, rest) => (.number spelling, rest)

theorem digits?_append {bytes digits rest : Bytes}
    (read : digits? bytes = some (digits, rest)) :
    digits ++ rest = bytes ∧ digits ≠ [] := by
  unfold digits? at read
  split at read
  · contradiction
  · cases read
    exact ⟨List.takeWhile_append_dropWhile, by simp_all⟩

theorem integerPart?_append {bytes digits rest : Bytes}
    (read : integerPart? bytes = some (digits, rest)) :
    digits ++ rest = bytes ∧ digits ≠ [] := by
  unfold integerPart? at read
  split at read
  · contradiction
  · split at read
    · cases read
      simp
    · exact digits?_append read

theorem fractionPart?_append {bytes digits rest : Bytes}
    (read : fractionPart? bytes = some (digits, rest)) : digits ++ rest = bytes := by
  unfold fractionPart? at read
  split at read
  · cases read
    rfl
  · split at read
    · obtain ⟨⟨digits, rest⟩, run, same⟩ := Option.map_eq_some_iff.1 read
      cases same
      simp [(digits?_append run).1]
    · cases read
      rfl

theorem signPart_append (signs : List UInt8) (bytes : Bytes) :
    (signPart signs bytes).1 ++ (signPart signs bytes).2 = bytes := by
  unfold signPart
  split
  · rfl
  · split <;> simp

theorem exponentPart?_append {bytes digits rest : Bytes}
    (read : exponentPart? bytes = some (digits, rest)) : digits ++ rest = bytes := by
  unfold exponentPart? at read
  split at read
  · cases read
    rfl
  · split at read
    · obtain ⟨⟨digits, rest⟩, run, same⟩ := Option.map_eq_some_iff.1 read
      cases same
      rw [List.append_assoc, (digits?_append run).1, List.cons_append, signPart_append]
    · cases read
      rfl

/-- A number and what follows it make up the bytes it was read from. -/
theorem number?_append {bytes spelling rest : Bytes}
    (read : number? bytes = some (spelling, rest)) :
    spelling ++ rest = bytes ∧ spelling ≠ [] := by
  unfold number? at read
  simp only [Option.bind_eq_bind, Option.bind_eq_some_iff, Option.some.injEq,
    Prod.mk.injEq, Prod.exists] at read
  obtain ⟨integer, afterInteger, integerRead, fraction, afterFraction, fractionRead,
    exponent, afterExponent, exponentRead, rfl, rfl⟩ := read
  have whole := integerPart?_append integerRead
  constructor
  · calc
      _ = (signPart [Ascii.minus] bytes).1 ++
          (integer ++ (fraction ++ (exponent ++ afterExponent))) := by simp
      _ = (signPart [Ascii.minus] bytes).1 ++ (signPart [Ascii.minus] bytes).2 := by
        rw [exponentPart?_append exponentRead, fractionPart?_append fractionRead, whole.1]
      _ = bytes := signPart_append _ _
  · simp [whole.2]

/-- What follows a token is shorter than what it was read from. -/
theorem token?_length {bytes rest : Bytes} {token : Token}
    (read : token? bytes = some (token, rest)) : rest.length < bytes.length := by
  unfold token? at read
  split at read
  · contradiction
  · rename_i byte tail
    split at read
    · cases read
      simp
    · split at read
      · obtain ⟨⟨pieces, after⟩, body, same⟩ := Option.map_eq_some_iff.1 read
        cases same
        have shorter := literalBody?_length body
        simp
        omega
      · split at read
        · rename_i word _
          cases read
          have positive : 0 < word.spelling.length := by cases word <;> decide
          simp only [List.length_drop, List.length_cons]
          omega
        · obtain ⟨⟨spelling, after⟩, number, same⟩ := Option.map_eq_some_iff.1 read
          cases same
          obtain ⟨whole, nonempty⟩ := number?_append number
          rw [← whole, List.length_append]
          have positive := List.length_pos_iff.2 nonempty
          omega

/-- A token with the blanks before it. -/
structure Lexeme where
  blanks : Bytes
  token : Token
  deriving DecidableEq, Repr

namespace Lexeme

/-- The bytes of a lexeme. -/
def spelling (lexeme : Lexeme) : Bytes :=
  lexeme.blanks ++ lexeme.token.spelling

end Lexeme

/-- All lexemes of a text. Blanks may follow the last one. -/
def lexemes? (bytes : Bytes) : Option (List Lexeme) :=
  if bytes.dropWhile isBlank = [] then
    some []
  else
    match _read : token? (bytes.dropWhile isBlank) with
    | none => none
    | some (token, rest) =>
        (lexemes? rest).map (⟨bytes.takeWhile isBlank, token⟩ :: ·)
termination_by bytes.length
decreasing_by
  have shorter := token?_length _read
  have suffix := (List.dropWhile_suffix (l := bytes) isBlank).length_le
  omega

end Switchboard.Json
