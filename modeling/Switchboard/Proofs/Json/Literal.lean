import Switchboard.Json.Literal
import Switchboard.Proofs.Text.Utf8

/-!
# What string literals spell and denote

A literal is found in front of any bytes from its spelling alone, and it
denotes a text if its pieces can be grouped into characters: the UTF-8 form of
a character, an escape, a UTF-16 unit, or two units that are a surrogate pair.
Every text is written as a literal that denotes it.
-/

namespace Switchboard.Json

open Switchboard.Text

variable {pieces : List Piece} {bytes rest : Bytes} {text : String}

/-! ## Finding the end of a literal -/

/-- The piece may stand in a literal. -/
def Piece.IsProper : Piece → Prop
  | byte value => value ≠ Ascii.quote ∧ value ≠ Ascii.backslash ∧ Ascii.isControl value = false
  | escape _ => True
  | unit first second third fourth =>
      [first, second, third, fourth].all (Ascii.hexValue? · |>.isSome) = true

instance : DecidablePred Piece.IsProper := fun piece =>
  match piece with
  | .byte value =>
      inferInstanceAs (Decidable (value ≠ Ascii.quote ∧ value ≠ Ascii.backslash ∧
        Ascii.isControl value = false))
  | .escape _ => inferInstanceAs (Decidable True)
  | .unit first second third fourth =>
      inferInstanceAs (Decidable ([first, second, third, fourth].all
        (Ascii.hexValue? · |>.isSome) = true))

theorem Escape.letter_ne_lowerU (kind : Escape) : kind.letter ≠ Ascii.lowerU := by
  cases kind <;> decide

@[simp]
theorem Escape.ofLetter?_letter (kind : Escape) : ofLetter? kind.letter = some kind := by
  cases kind <;> rfl

theorem Escape.letter_of_ofLetter? {letter : UInt8} {kind : Escape}
    (found : ofLetter? letter = some kind) : kind.letter = letter := by
  simpa using List.find?_some found

/-- A piece is read off the front of a literal. -/
theorem literalBody?_append {piece : Piece} (proper : piece.IsProper) :
    literalBody? (piece.spelling ++ bytes) = (literalBody? bytes).map (consPiece piece) := by
  cases piece with
  | byte value =>
      obtain ⟨notQuote, notBackslash, printable⟩ := proper
      rw [Piece.spelling, List.singleton_append, literalBody?.eq_def]
      simp only [notQuote, notBackslash, printable, if_false, Bool.false_eq_true]
  | escape kind =>
      simp only [Piece.spelling, List.cons_append, List.nil_append]
      rw [literalBody?.eq_def]
      simp only [kind.letter_ne_lowerU, Escape.ofLetter?_letter, if_false]
      rfl
  | unit first second third fourth =>
      rw [Piece.IsProper] at proper
      simp only [Piece.spelling, List.cons_append, List.nil_append]
      rw [literalBody?, if_neg (by decide), if_pos rfl, if_pos rfl, if_pos proper]

theorem literalBody?_quote : literalBody? (Ascii.quote :: rest) = some ([], rest) := by
  rw [literalBody?.eq_def]
  rfl

/-- The bytes begin with the pieces of a literal and its closing quote. -/
def BeginsLiteral (bytes : Bytes) (pieces : List Piece) (rest : Bytes) : Prop :=
  (∀ piece ∈ pieces, piece.IsProper) ∧
    bytes = pieces.flatMap Piece.spelling ++ Ascii.quote :: rest

theorem BeginsLiteral.of_map (piece : Piece) (proper : piece.IsProper)
    (read : (literalBody? bytes).map (consPiece piece) = some (pieces, rest))
    (inner : ∀ {later}, literalBody? bytes = some (later, rest) → BeginsLiteral bytes later rest) :
    BeginsLiteral (piece.spelling ++ bytes) pieces rest := by
  obtain ⟨⟨later, remaining⟩, readLater, same⟩ := Option.map_eq_some_iff.mp read
  cases same
  obtain ⟨properLater, spelled⟩ := inner readLater
  exact ⟨List.forall_mem_cons.mpr ⟨proper, properLater⟩, by simp [spelled]⟩

/-- The end of a literal is found exactly behind its spelling. -/
theorem literalBody?_eq_some_iff :
    literalBody? bytes = some (pieces, rest) ↔ BeginsLiteral bytes pieces rest := by
  constructor
  · intro read
    fun_induction literalBody? bytes generalizing pieces with
    | case1 | case3 | case5 | case6 | case8 | case9 => contradiction
    | case2 tail =>
        cases read
        exact ⟨by simp, rfl⟩
    | case4 first second third fourth tail digits _ ih =>
        exact .of_map (.unit first second third fourth) digits read ih
    | case7 letter tail _ kind found _ ih =>
        rw [← Escape.letter_of_ofLetter? found]
        exact .of_map (.escape kind) trivial read ih
    | case10 byte tail notQuote notBackslash printable ih =>
        exact .of_map (.byte byte)
          ⟨notQuote, notBackslash, Bool.eq_false_iff.mpr printable⟩ read ih
  · rintro ⟨proper, rfl⟩
    induction pieces with
    | nil => exact literalBody?_quote
    | cons piece pieces ih =>
        rw [List.forall_mem_cons] at proper
        rw [List.flatMap_cons, List.append_assoc, literalBody?_append proper.1, ih proper.2]
        rfl

/-! ## What a literal denotes -/

/-- The pieces denote one character. -/
inductive DenotesCharacter : List Piece → Char → Prop
  /-- A character stands for itself in its UTF-8 form. -/
  | verbatim (character : Char) :
      DenotesCharacter ((String.utf8EncodeChar character).map .byte) character
  | escape (kind : Escape) : DenotesCharacter [.escape kind] (Char.ofUInt8 kind.meaning)
  /-- A unit stands for a character of the basic plane. -/
  | unit {first second third fourth : UInt8}
      (notHigh : isHighSurrogate (unitValue first second third fourth) = false)
      (notLow : isLowSurrogate (unitValue first second third fourth) = false) :
      DenotesCharacter [.unit first second third fourth]
        (Char.ofNat (unitValue first second third fourth))
  /-- A surrogate stands for a character only as half of a pair. -/
  | pair {first second third fourth fifth sixth seventh eighth : UInt8}
      (isHigh : isHighSurrogate (unitValue first second third fourth) = true)
      (isLow : isLowSurrogate (unitValue fifth sixth seventh eighth) = true) :
      DenotesCharacter [.unit first second third fourth, .unit fifth sixth seventh eighth]
        (pairedCharacter (unitValue first second third fourth)
          (unitValue fifth sixth seventh eighth))

/-- The pieces denote some characters, one after the other. -/
inductive Denotes : List Piece → List Char → Prop
  | nil : Denotes [] []
  | cons {group later : List Piece} {character : Char} {characters : List Char}
      (isFirst : DenotesCharacter group character) (isLater : Denotes later characters) :
      Denotes (group ++ later) (character :: characters)

theorem characterBytes_eq (character : Char) :
    characterBytes character = String.utf8EncodeChar character :=
  utf8_singleton character

theorem Escape.meaning_lt (kind : Escape) : kind.meaning < 0x80 := by
  cases kind <;> decide

theorem meaning?_map_byte (verbatim : Bytes) :
    meaning? (verbatim.map .byte ++ pieces) = (meaning? pieces).map (verbatim ++ ·) := by
  induction verbatim with
  | nil => simp
  | cons value verbatim ih =>
      rw [List.map_cons, List.cons_append, meaning?, ih, Option.map_map]
      rfl

theorem DenotesCharacter.meaning?_append {group : List Piece} {character : Char}
    (denotes : DenotesCharacter group character) :
    meaning? (group ++ pieces) =
      (meaning? pieces).map (String.utf8EncodeChar character ++ ·) := by
  cases denotes with
  | verbatim => exact meaning?_map_byte _
  | escape kind =>
      rw [utf8EncodeChar_ofUInt8 kind.meaning_lt, List.singleton_append, meaning?]
      rfl
  | unit notHigh notLow =>
      rw [List.singleton_append, meaning?.eq_def]
      simp [notHigh, notLow, characterBytes_eq]
  | pair isHigh isLow =>
      rw [List.cons_append, List.singleton_append, meaning?]
      simp [isHigh, isLow, characterBytes_eq]

theorem Denotes.meaning?_eq {characters : List Char} (denotes : Denotes pieces characters) :
    meaning? pieces = some (utf8 (String.ofList characters)) := by
  rw [utf8_ofList]
  induction denotes with
  | nil => rfl
  | cons isFirst _ ih => rw [isFirst.meaning?_append, ih, List.flatMap_cons, Option.map_some]

/-- What a literal means begins with a byte that stands for itself, or with a
character that is denoted by some pieces. -/
theorem meaning?_cons_eq_some {piece : Piece} (read : meaning? (piece :: pieces) = some bytes) :
    (∃ value later, piece = .byte value ∧ meaning? pieces = some later ∧
        bytes = value :: later) ∨
      ∃ group character remaining later, DenotesCharacter group character ∧
        piece :: pieces = group ++ remaining ∧ meaning? remaining = some later ∧
          bytes = String.utf8EncodeChar character ++ later := by
  cases piece with
  | byte value =>
      rw [meaning?] at read
      obtain ⟨later, readLater, rfl⟩ := Option.map_eq_some_iff.mp read
      exact .inl ⟨value, later, rfl, readLater, rfl⟩
  | escape kind =>
      rw [meaning?] at read
      obtain ⟨later, readLater, rfl⟩ := Option.map_eq_some_iff.mp read
      refine .inr ⟨_, _, pieces, later, .escape kind, rfl, readLater, ?_⟩
      rw [utf8EncodeChar_ofUInt8 kind.meaning_lt, List.singleton_append]
  | unit first second third fourth =>
      right
      rw [meaning?.eq_def] at read
      dsimp only at read
      split at read
      · rename_i isHigh
        split at read
        · rename_i fifth sixth seventh eighth remaining
          split at read
          · rename_i isLow
            obtain ⟨later, readLater, rfl⟩ := Option.map_eq_some_iff.mp read
            exact ⟨_, _, remaining, later, .pair isHigh isLow, rfl, readLater, by
              rw [characterBytes_eq]⟩
          · contradiction
        · contradiction
      · rename_i notHigh
        split at read
        · contradiction
        · rename_i notLow
          obtain ⟨later, readLater, rfl⟩ := Option.map_eq_some_iff.mp read
          exact ⟨_, _, pieces, later,
            .unit (Bool.eq_false_iff.mpr notHigh) (Bool.eq_false_iff.mpr notLow), rfl, readLater,
            by rw [characterBytes_eq]⟩

/-- Bytes that begin no character can only stand for themselves. -/
theorem exists_of_meaning?_append {inner : Bytes}
    (read : meaning? pieces = some (inner ++ rest))
    (within : ∀ byte ∈ inner, ¬byte.IsUTF8FirstByte) :
    ∃ later, pieces = inner.map .byte ++ later ∧ meaning? later = some rest := by
  induction inner generalizing pieces with
  | nil => exact ⟨pieces, rfl, read⟩
  | cons byte inner ih =>
      rw [List.forall_mem_cons] at within
      cases pieces with
      | nil => cases read
      | cons piece pieces =>
          rcases meaning?_cons_eq_some read with
            ⟨value, later, rfl, readLater, same⟩ | ⟨_, character, _, _, _, _, _, same⟩
          · obtain ⟨rfl, rfl⟩ := List.cons.inj same
            obtain ⟨remaining, rfl, readRemaining⟩ := ih readLater within.2
            exact ⟨remaining, rfl, readRemaining⟩
          · obtain ⟨first, tail, form, begins, _⟩ := utf8EncodeChar_eq_cons character
            rw [form, List.cons_append, List.cons_append] at same
            rw [(List.cons.inj same).1] at within
            exact absurd begins within.1

theorem denotes_of_meaning? {characters : List Char}
    (read : meaning? pieces = some (utf8 (String.ofList characters))) :
    Denotes pieces characters := by
  rw [utf8_ofList] at read
  induction characters generalizing pieces with
  | nil =>
      cases pieces with
      | nil => exact .nil
      | cons piece pieces =>
          rcases meaning?_cons_eq_some read with ⟨_, _, _, _, same⟩ | ⟨_, _, _, _, _, _, _, same⟩
          · cases same
          · exact absurd (List.append_eq_nil_iff.mp same.symm).1 String.utf8EncodeChar_ne_nil
  | cons character characters ih =>
      rw [List.flatMap_cons] at read
      obtain ⟨first, tail, form, begins, inner⟩ := utf8EncodeChar_eq_cons character
      cases pieces with
      | nil => simp [meaning?, form] at read
      | cons piece pieces =>
          rcases meaning?_cons_eq_some read with
            ⟨value, later, rfl, readLater, same⟩ |
              ⟨group, denoted, remaining, later, isFirst, whole, readLater, same⟩
          · rw [form, List.cons_append] at same
            obtain ⟨rfl, rfl⟩ := List.cons.inj same
            obtain ⟨remaining, rfl, readRemaining⟩ := exists_of_meaning?_append readLater inner
            have isFirst := DenotesCharacter.verbatim character
            rw [form] at isFirst
            exact .cons isFirst (ih readRemaining)
          · obtain ⟨rfl, rfl⟩ := utf8EncodeChar_append_inj same
            rw [whole]
            exact .cons isFirst (ih readLater)

/-- Reading a literal gives exactly the text that its pieces denote. -/
theorem denotation?_eq_some_iff : denotation? pieces = some text ↔ Denotes pieces text.toList := by
  rw [denotation?, Option.bind_eq_some_iff]
  simp only [ofUtf8?_eq_some_iff]
  constructor
  · rintro ⟨_, read, rfl⟩
    apply denotes_of_meaning?
    rw [read, String.ofList_toList]
  · intro denotes
    refine ⟨_, denotes.meaning?_eq, ?_⟩
    rw [String.ofList_toList]

/-! ## Writing -/

/-- The pieces by which a character is written denote it, and are found in a
literal. -/
def Writes (pieces : List Piece) (character : Char) : Prop :=
  (∀ piece ∈ pieces, piece.IsProper) ∧ DenotesCharacter pieces character ∧
    (escaped character).flatMap String.utf8EncodeChar = pieces.flatMap Piece.spelling

theorem writes_escape (kind : Escape) (notSlash : kind ≠ .slash) :
    Writes [.escape kind] (Char.ofUInt8 kind.meaning) := by
  refine ⟨by simp [Piece.IsProper], .escape kind, ?_⟩
  cases kind <;> first | contradiction | decide

/-- A control character is written as a unit. -/
theorem exists_writes_control {character : Char} (control : character.toNat < 0x20)
    (unnamed : escaped character =
      ['\\', 'u', '0', '0', hexDigit (character.toNat / 16), hexDigit (character.toNat % 16)]) :
    ∃ pieces, Writes pieces character := by
  have spelled : ∀ code < 0x20,
      let third := (hexDigit (code / 16)).toUInt8
      let fourth := (hexDigit (code % 16)).toUInt8
      (Piece.unit Ascii.zero Ascii.zero third fourth).IsProper ∧
        isHighSurrogate (unitValue Ascii.zero Ascii.zero third fourth) = false ∧
        isLowSurrogate (unitValue Ascii.zero Ascii.zero third fourth) = false ∧
        unitValue Ascii.zero Ascii.zero third fourth = code ∧
        ['\\', 'u', '0', '0', hexDigit (code / 16), hexDigit (code % 16)].flatMap
          String.utf8EncodeChar =
            (Piece.unit Ascii.zero Ascii.zero third fourth).spelling := by
    decide +kernel
  obtain ⟨proper, notHigh, notLow, value, spelling⟩ := spelled _ control
  refine ⟨[.unit Ascii.zero Ascii.zero (hexDigit (character.toNat / 16)).toUInt8
    (hexDigit (character.toNat % 16)).toUInt8], by simpa using proper, ?_, ?_⟩
  · have denotes := DenotesCharacter.unit notHigh notLow
    rwa [value, Char.ofNat_toNat] at denotes
  · rw [unnamed, spelling, List.flatMap_singleton]

theorem isProper_of_mem_utf8EncodeChar {character : Char} {byte : UInt8}
    (notQuote : character ≠ '"') (notBackslash : character ≠ '\\')
    (printable : ¬character.toNat < 0x20) (listed : byte ∈ String.utf8EncodeChar character) :
    (Piece.byte byte).IsProper := by
  by_cases basic : byte < 0x80
  · have same := eq_ofUInt8_of_mem_utf8EncodeChar listed basic
    subst same
    refine ⟨?_, ?_, ?_⟩
    · rintro rfl
      exact notQuote rfl
    · rintro rfl
      exact notBackslash rfl
    · rw [Ascii.isControl, decide_eq_false_iff_not]
      intro control
      exact printable (UInt8.lt_iff_toNat_lt.mp control)
  · refine ⟨?_, ?_, ?_⟩
    · rintro rfl
      exact basic (by decide)
    · rintro rfl
      exact basic (by decide)
    · rw [Ascii.isControl, decide_eq_false_iff_not]
      intro control
      exact basic (UInt8.lt_trans control (by decide))

theorem writes_verbatim {character : Char} (notQuote : character ≠ '"')
    (notBackslash : character ≠ '\\') (printable : ¬character.toNat < 0x20)
    (escaped_eq : escaped character = [character]) :
    Writes ((String.utf8EncodeChar character).map .byte) character := by
  refine ⟨?_, .verbatim character, ?_⟩
  · rw [List.forall_mem_map]
    intro byte listed
    exact isProper_of_mem_utf8EncodeChar notQuote notBackslash printable listed
  · rw [escaped_eq, List.flatMap_singleton, List.flatMap_map]
    simp [Piece.spelling]

theorem exists_writes (character : Char) : ∃ pieces, Writes pieces character := by
  generalize written : escaped character = letters
  have spelled := written
  unfold escaped at spelled
  split at spelled
  · exact ⟨_, writes_escape .quote (by decide)⟩
  · exact ⟨_, writes_escape .backslash (by decide)⟩
  · exact ⟨_, writes_escape .backspace (by decide)⟩
  · exact ⟨_, writes_escape .formFeed (by decide)⟩
  · exact ⟨_, writes_escape .lineFeed (by decide)⟩
  · exact ⟨_, writes_escape .carriageReturn (by decide)⟩
  · exact ⟨_, writes_escape .tab (by decide)⟩
  · rename_i notQuote notBackslash _ _ _ _ _
    subst written
    split at spelled
    · rename_i control
      exact exists_writes_control control spelled.symm
    · rename_i printable
      exact ⟨_, writes_verbatim notQuote notBackslash printable spelled.symm⟩

/-- A text is written as a literal that denotes it. -/
theorem exists_pieces_quoted (text : String) :
    ∃ pieces, (∀ piece ∈ pieces, piece.IsProper) ∧ Denotes pieces text.toList ∧
      utf8 (quoted text) = Ascii.quote :: pieces.flatMap Piece.spelling ++ [Ascii.quote] := by
  have inner : ∃ pieces : List Piece, (∀ piece ∈ pieces, piece.IsProper) ∧
      Denotes pieces text.toList ∧
        (text.toList.flatMap escaped).flatMap String.utf8EncodeChar =
          pieces.flatMap Piece.spelling := by
    induction text.toList with
    | nil => exact ⟨[], by simp, .nil, rfl⟩
    | cons character rest ih =>
        obtain ⟨later, properLater, isLater, spelledLater⟩ := ih
        obtain ⟨group, proper, isFirst, spelled⟩ := exists_writes character
        refine ⟨group ++ later, ?_, .cons isFirst isLater, ?_⟩
        · rw [List.forall_mem_append]
          exact ⟨proper, properLater⟩
        · rw [List.flatMap_cons, List.flatMap_append, List.flatMap_append, spelled, spelledLater]
  obtain ⟨pieces, proper, denotes, spelled⟩ := inner
  refine ⟨pieces, proper, denotes, ?_⟩
  have quote : utf8 "\"" = [Ascii.quote] := by decide
  rw [quoted, utf8_append, utf8_append, quote, utf8_ofList, spelled]
  rfl

end Switchboard.Json
