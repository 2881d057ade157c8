import Mathlib.Data.List.Chain
import Switchboard.Proofs.Json.Literal
import Switchboard.Proofs.Json.Number

/-!
# The grammar of tokens

A text is cut into lexemes in one way only. What is cut off is a token by the
grammar, and the lexemes of a text are found again from their spellings, as
long as of any two neighbours one is a mark. Without a mark between them two
numbers could be read as one.
-/

namespace Switchboard.Json

open Switchboard.Text

variable {bytes rest : Bytes} {token : Token} {lexemes : List Lexeme}

/-! ## Tokens -/

namespace Token

/-- The token is one by the grammar. -/
def IsProper : Token → Prop
  | mark _ | word _ => True
  | number spelling => IsNumber spelling
  | string pieces => ∀ piece ∈ pieces, piece.IsProper

/-- The token is a structural mark. -/
def isMark : Token → Bool
  | mark _ => true
  | word _ | number _ | string _ => false

end Token

@[simp]
theorem Mark.ofByte?_byte (kind : Mark) : ofByte? kind.byte = some kind := by
  cases kind <;> rfl

theorem Mark.byte_of_ofByte? {byte : UInt8} {kind : Mark} (found : ofByte? byte = some kind) :
    kind.byte = byte := by
  simpa using List.find?_some found

theorem Word.exists_append_of_atStart? {kind : Word} (found : atStart? bytes = some kind) :
    bytes = kind.spelling ++ bytes.drop kind.spelling.length := by
  have isPrefix := List.find?_some found
  rw [List.isPrefixOf_iff_prefix] at isPrefix
  exact (List.prefix_iff_eq_append.mp isPrefix).symm

theorem Word.atStart?_append (kind : Word) : atStart? (kind.spelling ++ rest) = some kind := by
  cases kind <;> rfl

/-- What a number begins with begins no other token. -/
theorem token?_eq_number?_map {first : UInt8}
    (begins : first = Ascii.minus ∨ Ascii.isDigit first = true) :
    token? (first :: rest) =
      (number? (first :: rest)).map fun (spelling, rest) => (.number spelling, rest) := by
  have others : ∀ value < 256, let byte := UInt8.ofNat value
      byte = Ascii.minus ∨ Ascii.isDigit byte = true →
        Mark.ofByte? byte = none ∧ byte ≠ Ascii.quote ∧
          ∀ word ∈ Word.all, word.spelling.head? ≠ some byte := by
    decide +kernel
  have others := others first.toNat first.toNat_lt
  rw [UInt8.ofNat_toNat] at others
  obtain ⟨notMark, notQuote, notWord⟩ := others begins
  have unnamed : Word.atStart? (first :: rest) = none := by
    rw [Word.atStart?, List.find?_eq_none]
    intro word listed isPrefix
    rw [List.isPrefixOf_iff_prefix] at isPrefix
    cases form : word.spelling with
    | nil => exact absurd form (by cases word <;> decide)
    | cons letter letters =>
        rw [form, List.cons_prefix_cons] at isPrefix
        exact notWord word listed (by rw [form, isPrefix.1, List.head?_cons])
  simp [token?, notMark, notQuote, unnamed]

/-- A token is read as a whole. Only a number could be continued by what
follows. -/
theorem token?_of_isProper (proper : token.IsProper)
    (ends : token.isMark = true ∨ BeginsWithout continuesNumber rest) :
    token? (token.spelling ++ rest) = some (token, rest) := by
  cases token with
  | mark kind => simp [Token.spelling, token?]
  | word kind =>
      have found : Word.atStart? (kind.spelling ++ rest) = some kind := kind.atStart?_append
      have dropped : (kind.spelling ++ rest).drop kind.spelling.length = rest :=
        List.drop_left
      rw [Token.spelling]
      generalize whole : kind.spelling ++ rest = bytes at found dropped
      have begins : ∃ letter letters, bytes = letter :: letters ∧ Mark.ofByte? letter = none ∧
          letter ≠ Ascii.quote := by
        subst whole
        cases kind <;> exact ⟨_, _, rfl, by decide, by decide⟩
      obtain ⟨letter, letters, rfl, notMark, notQuote⟩ := begins
      simp [token?, notMark, notQuote, found, dropped]
  | number spelling =>
      obtain ⟨first, later, form, begins⟩ := proper.exists_cons
      have read := number?_of_isNumber proper (ends.resolve_left Bool.false_ne_true)
      rw [Token.spelling]
      rw [form, List.cons_append] at read ⊢
      rw [token?_eq_number?_map begins, read]
      rfl
  | string pieces =>
      have body : literalBody? (pieces.flatMap Piece.spelling ++ Ascii.quote :: rest) =
          some (pieces, rest) :=
        literalBody?_eq_some_iff.mpr ⟨proper, rfl⟩
      have notMark : Mark.ofByte? Ascii.quote = none := by decide
      simp [Token.spelling, token?, notMark, body]

/-- What is read is a token, and is spelled in front of what follows. -/
theorem isProper_of_token? (read : token? bytes = some (token, rest)) :
    token.IsProper ∧ bytes = token.spelling ++ rest := by
  unfold token? at read
  split at read
  · contradiction
  · rename_i byte tail
    split at read
    · rename_i kind found
      cases read
      exact ⟨trivial, by rw [Token.spelling, Mark.byte_of_ofByte? found, List.singleton_append]⟩
    · split at read
      · rename_i isQuote
        obtain ⟨⟨pieces, remaining⟩, body, same⟩ := Option.map_eq_some_iff.mp read
        cases same
        obtain ⟨proper, rfl⟩ := literalBody?_eq_some_iff.mp body
        exact ⟨proper, by simp [Token.spelling, isQuote]⟩
      · split at read
        · rename_i kind found
          cases read
          exact ⟨trivial, Word.exists_append_of_atStart? found⟩
        · obtain ⟨⟨spelling, remaining⟩, number, same⟩ := Option.map_eq_some_iff.mp read
          cases same
          exact ⟨isNumber_of_number? number, (number?_append number).1.symm⟩

/-- A token begins with a byte that is not blank. -/
theorem Token.IsProper.exists_cons (proper : token.IsProper) :
    ∃ first later, token.spelling = first :: later ∧ isBlank first = false ∧ first < 0x80 := by
  cases token with
  | mark kind => cases kind <;> exact ⟨_, _, rfl, by decide, by decide⟩
  | word kind => cases kind <;> exact ⟨_, _, rfl, by decide, by decide⟩
  | number spelling =>
      obtain ⟨first, later, rfl, begins⟩ := IsNumber.exists_cons proper
      refine ⟨first, later, rfl, ?_, IsNumber.forall_lt proper first List.mem_cons_self⟩
      rw [Bool.eq_false_iff]
      intro blank
      simp only [isBlank, Bool.or_eq_true, decide_eq_true_eq] at blank
      rcases blank with ((rfl | rfl) | rfl) | rfl <;> exact absurd begins (by decide)
  | string pieces => exact ⟨_, _, rfl, by decide, by decide⟩

/-! ## Lexemes -/

/-- The bytes are blank. -/
def AreBlank (bytes : Bytes) : Prop :=
  ∀ byte ∈ bytes, isBlank byte = true

namespace Lexeme

/-- The lexeme is a token with blanks before it. -/
structure IsProper (lexeme : Lexeme) : Prop where
  blank : AreBlank lexeme.blanks
  token : lexeme.token.IsProper

/-- One of two neighbours is a mark. -/
def Apart (first second : Lexeme) : Prop :=
  first.token.isMark = true ∨ second.token.isMark = true

end Lexeme

theorem lt_of_isBlank {byte : UInt8} (blank : isBlank byte = true) : byte < 0x80 := by
  simp only [isBlank, Bool.or_eq_true, decide_eq_true_eq] at blank
  rcases blank with ((rfl | rfl) | rfl) | rfl <;> decide

theorem continuesNumber_of_isBlank {byte : UInt8} (blank : isBlank byte = true) :
    continuesNumber byte = false := by
  simp only [isBlank, Bool.or_eq_true, decide_eq_true_eq] at blank
  rcases blank with ((rfl | rfl) | rfl) | rfl <;> decide

theorem takeWhile_isBlank_append {blanks : Bytes} (blank : AreBlank blanks)
    (proper : token.IsProper) (rest : Bytes) :
    (blanks ++ (token.spelling ++ rest)).takeWhile isBlank = blanks ∧
      (blanks ++ (token.spelling ++ rest)).dropWhile isBlank = token.spelling ++ rest := by
  obtain ⟨first, later, form, notBlank, _⟩ := proper.exists_cons
  rw [form, List.takeWhile_append_of_pos blank, List.dropWhile_append_of_pos blank]
  simp [notBlank]

theorem lexemes?_of_areBlank (blank : AreBlank bytes) : lexemes? bytes = some [] := by
  have dropped : bytes.dropWhile isBlank = [] := by
    rw [List.dropWhile_eq_nil_iff]
    exact blank
  rw [lexemes?, if_pos dropped]

/-- The first lexeme is cut off, if what follows does not continue it. -/
theorem lexemes?_append {lexeme : Lexeme} (proper : lexeme.IsProper)
    (ends : lexeme.token.isMark = true ∨ BeginsWithout continuesNumber rest) :
    lexemes? (lexeme.spelling ++ rest) = (lexemes? rest).map (lexeme :: ·) := by
  obtain ⟨taken, dropped⟩ := takeWhile_isBlank_append proper.blank proper.token rest
  have read := token?_of_isProper proper.token ends
  have present : lexeme.token.spelling ++ rest ≠ [] := by
    obtain ⟨first, later, form, _⟩ := proper.token.exists_cons
    simp [form]
  rw [Lexeme.spelling, List.append_assoc, lexemes?, if_neg (by rwa [dropped])]
  split
  · rename_i missed
    rw [dropped, read] at missed
    contradiction
  · rename_i found
    rw [dropped, read] at found
    cases found
    rw [taken]

theorem AreBlank.beginsWithout {blanks : Bytes} (blank : AreBlank blanks)
    (ends : BeginsWithout continuesNumber rest) :
    BeginsWithout continuesNumber (blanks ++ rest) := by
  cases blanks with
  | nil => exact ends
  | cons byte blanks => exact .cons (continuesNumber_of_isBlank (blank byte List.mem_cons_self))

/-- What follows a lexeme does not continue it. -/
theorem Lexeme.Apart.ends {lexeme : Lexeme} {trailing : Bytes}
    (apart : (lexeme :: lexemes).IsChain Apart) (proper : ∀ lexeme ∈ lexemes, lexeme.IsProper)
    (blank : AreBlank trailing) :
    lexeme.token.isMark = true ∨
      BeginsWithout continuesNumber (lexemes.flatMap Lexeme.spelling ++ trailing) := by
  cases lexemes with
  | nil =>
      right
      have empty : BeginsWithout continuesNumber [] := by simp [BeginsWithout]
      have ends := blank.beginsWithout empty
      rwa [List.append_nil] at ends
  | cons next lexemes =>
      rw [List.isChain_cons_cons] at apart
      refine apart.1.imp_right fun isMark => ?_
      have marked : ∀ kind : Mark, continuesNumber kind.byte = false := by
        rintro (_ | _ | _ | _ | _ | _) <;> decide
      cases form : next.token with
      | mark kind =>
          simp only [List.flatMap_cons, Lexeme.spelling, form, Token.spelling, List.append_assoc,
            List.singleton_append]
          exact (proper next List.mem_cons_self).blank.beginsWithout (.cons (marked kind))
      | word | number | string => simp [form, Token.isMark] at isMark

/-- Lexemes are found again from their spellings. -/
theorem lexemes?_of_isProper {trailing : Bytes} (proper : ∀ lexeme ∈ lexemes, lexeme.IsProper)
    (apart : lexemes.IsChain Lexeme.Apart) (blank : AreBlank trailing) :
    lexemes? (lexemes.flatMap Lexeme.spelling ++ trailing) = some lexemes := by
  induction lexemes with
  | nil => exact lexemes?_of_areBlank blank
  | cons lexeme rest ih =>
      rw [List.forall_mem_cons] at proper
      have later := ih proper.2 apart.tail
      rw [List.flatMap_cons, List.append_assoc,
        lexemes?_append proper.1 (Lexeme.Apart.ends apart proper.2 blank), later]
      rfl

/-- The lexemes of a text are proper, and spell it up to blanks at its end. -/
theorem isProper_of_lexemes? (read : lexemes? bytes = some lexemes) :
    (∀ lexeme ∈ lexemes, lexeme.IsProper) ∧
      ∃ trailing, AreBlank trailing ∧ bytes = lexemes.flatMap Lexeme.spelling ++ trailing := by
  fun_induction lexemes? bytes generalizing lexemes with
  | case1 bytes allBlank =>
      cases read
      rw [List.dropWhile_eq_nil_iff] at allBlank
      exact ⟨by simp, bytes, allBlank, rfl⟩
  | case2 => contradiction
  | case3 bytes _ token rest readToken ih =>
      obtain ⟨later, readLater, rfl⟩ := Option.map_eq_some_iff.mp read
      obtain ⟨proper, trailing, blank, rfl⟩ := ih readLater
      obtain ⟨properToken, whole⟩ := isProper_of_token? readToken
      refine ⟨?_, trailing, blank, ?_⟩
      · rw [List.forall_mem_cons]
        exact ⟨⟨List.all_eq_true.mp List.all_takeWhile, properToken⟩, proper⟩
      · rw [List.flatMap_cons, Lexeme.spelling, List.append_assoc, List.append_assoc, ← whole,
          List.takeWhile_append_dropWhile]

end Switchboard.Json
