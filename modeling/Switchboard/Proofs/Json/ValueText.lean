import Switchboard.Proofs.Json.Value

/-!
# The texts of values

A value is found again from its text, up to the blanks before it: of any two
neighbours in a value one is a mark, so no token is taken for a part of
another.

All that is not inside a string is ASCII. The text of a value is UTF-8 exactly
if that holds of each string in it.
-/

namespace Switchboard.Json

open Switchboard.Text

variable {earlier lexemes : List Lexeme} {lexeme : Lexeme} {token : Token} {value other : Value}
  {bytes : Bytes}

/-! ## Neighbours -/

theorem isChain_cons_of_isMark (isMark : lexeme.token.isMark = true)
    (later : lexemes.IsChain Lexeme.Apart) : (lexeme :: lexemes).IsChain Lexeme.Apart := by
  rw [List.isChain_cons]
  exact ⟨fun _ _ => .inl isMark, later⟩

theorem isChain_append_of_isMark (isMark : lexeme.token.isMark = true)
    (before : earlier.IsChain Lexeme.Apart) (later : lexemes.IsChain Lexeme.Apart) :
    (earlier ++ lexeme :: lexemes).IsChain Lexeme.Apart := by
  rw [List.isChain_append]
  refine ⟨before, isChain_cons_of_isMark isMark later, fun _ _ next isNext => ?_⟩
  cases isNext
  exact .inr isMark

/-- Of any two neighbours in a phrase one is a mark. -/
theorem Derives.isChain_apart {phrase : Phrase} (derives : Derives phrase lexemes) :
    lexemes.IsChain Lexeme.Apart := by
  induction derives with
  | scalar => exact List.isChain_singleton _
  | empty container => exact isChain_cons_of_isMark rfl (List.isChain_singleton _)
  | filled _ ih => exact isChain_append_of_isMark rfl (isChain_cons_of_isMark rfl ih) .nil
  | element _ ih => exact ih
  | @member before _ name _ _ ih =>
      have single : [⟨before, .string name⟩].IsChain Lexeme.Apart := List.isChain_singleton _
      exact isChain_append_of_isMark rfl single ih
  | single _ ih => exact ih
  | several _ _ ih ihLater => exact isChain_append_of_isMark rfl ih ihLater

/-! ## Proper values -/

namespace Value

/-- The value is one by the grammar, down to the bytes of its tokens. -/
structure IsProper (value : Value) : Prop where
  derives : Derives .value value
  lexemes : ∀ lexeme ∈ value, lexeme.IsProper

/-- The value without the blanks before it. -/
def bare : Value → Value
  | [] => []
  | first :: rest => ⟨[], first.token⟩ :: rest

theorem flatMap_spelling_bare (value : Value) :
    value.bare.flatMap Lexeme.spelling = value.text := by
  cases value <;> rfl

@[simp]
theorem text_bare (value : Value) : value.bare.text = value.text := by
  cases value <;> rfl

@[simp]
theorem isNull_bare (value : Value) : value.bare.isNull = value.isNull := by
  rcases value with _ | ⟨⟨_, _ | (_ | _ | _) | _ | _⟩, _ | _⟩ <;> rfl

@[simp]
theorem string?_bare (value : Value) : value.bare.string? = value.string? := by
  rcases value with _ | ⟨⟨_, _ | _ | _ | _⟩, _ | _⟩ <;> rfl

/-- The value is the literal name `null`. -/
def IsNull (value : Value) : Prop :=
  ∃ blanks, value = [⟨blanks, .word .null⟩]

/-- The value is a string that denotes a text. -/
def IsString (value : Value) (text : String) : Prop :=
  ∃ blanks pieces, value = [⟨blanks, .string pieces⟩] ∧ Denotes pieces text.toList

theorem IsString.not_isNull {text : String} (isString : value.IsString text) :
    ¬value.IsNull := by
  obtain ⟨_, _, rfl, _⟩ := isString
  rintro ⟨_, same⟩
  cases same

theorem isNull_eq_true_iff : value.isNull = true ↔ value.IsNull := by
  constructor
  · intro isNull
    rcases value with _ | ⟨⟨blanks, _ | (_ | _ | _) | _ | _⟩, _ | _⟩ <;>
      first | contradiction | exact ⟨blanks, rfl⟩
  · rintro ⟨blanks, rfl⟩
    rfl

theorem string?_eq_some_iff {text : String} :
    value.string? = some text ↔ value.IsString text := by
  constructor
  · intro read
    rcases value with _ | ⟨⟨blanks, _ | _ | _ | pieces⟩, _ | _⟩ <;>
      first | contradiction | exact ⟨blanks, pieces, rfl, denotation?_eq_some_iff.mp read⟩
  · rintro ⟨blanks, pieces, rfl, denotes⟩
    exact denotation?_eq_some_iff.mpr denotes

section Optional

variable {α : Type} {read? : Value → Option α}

theorem optional?_of_isNull (isNull : value.IsNull) : value.optional? read? = some none := by
  rw [optional?, if_pos (isNull_eq_true_iff.mpr isNull)]

theorem optional?_of_not_isNull (notNull : ¬value.IsNull) :
    value.optional? read? = (read? value).map some := by
  rw [optional?, if_neg (mt isNull_eq_true_iff.mp notNull)]

theorem optional?_eq_some_none_iff : value.optional? read? = some none ↔ value.IsNull := by
  by_cases isNull : value.IsNull
  · simp [optional?_of_isNull isNull, isNull]
  · simp [optional?_of_not_isNull isNull, isNull]

theorem optional?_eq_some_some_iff {result : α} :
    value.optional? read? = some (some result) ↔ ¬value.IsNull ∧ read? value = some result := by
  by_cases isNull : value.IsNull
  · simp [optional?_of_isNull isNull, isNull]
  · simp [optional?_of_not_isNull isNull, isNull]

theorem isSome_optional?_iff :
    (value.optional? read?).isSome = true ↔ value.IsNull ∨ (read? value).isSome = true := by
  by_cases isNull : value.IsNull
  · simp [optional?_of_isNull isNull, isNull]
  · simp [optional?_of_not_isNull isNull, isNull]

end Optional

theorem IsProper.bare (proper : value.IsProper) : value.bare.IsProper := by
  rcases proper with ⟨derives, lexemes⟩
  have blank : AreBlank [] := nofun
  constructor
  · cases derives with
    | scalar unmarked => exact .scalar unmarked
    | empty container => exact .empty container
    | filled inner => exact .filled inner
  · cases value with
    | nil => exact nofun
    | cons first rest =>
        rw [Value.bare, List.forall_mem_cons]
        rw [List.forall_mem_cons] at lexemes
        exact ⟨⟨blank, lexemes.1.token⟩, lexemes.2⟩

/-- A value is found again from its text. -/
theorem IsProper.bare_eq_of_text_eq (proper : value.IsProper) (properOther : other.IsProper)
    (same : value.text = other.text) : value.bare = other.bare := by
  have cut {value : Value} (proper : value.IsProper) :
      lexemes? value.text = some value.bare := by
    have blank : AreBlank [] := nofun
    have found := lexemes?_of_isProper proper.bare.lexemes proper.bare.derives.isChain_apart blank
    rwa [List.append_nil, flatMap_spelling_bare] at found
  have found := cut proper
  rw [same, cut properOther] at found
  exact (Option.some.inj found).symm

/-- Only blanks can stand before the text of a value. -/
theorem IsProper.flatMap_spelling (proper : value.IsProper) :
    ∃ blanks, AreBlank blanks ∧ value.flatMap Lexeme.spelling = blanks ++ value.text := by
  cases value with
  | nil => exact ⟨[], nofun, rfl⟩
  | cons first rest =>
      refine ⟨first.blanks, (proper.lexemes first List.mem_cons_self).blank, ?_⟩
      rw [List.flatMap_cons, Lexeme.spelling, text, List.append_assoc]

theorem isProper_null : IsProper [⟨[], .word .null⟩] where
  derives := .scalar rfl
  lexemes := by simpa using ⟨nofun, trivial⟩

/-- Only `null` has the text of `null`. -/
theorem IsProper.isNull_eq_true_iff_text (proper : value.IsProper) :
    value.isNull = true ↔ value.text = utf8 "null" := by
  have spelled : Value.text [⟨[], .word .null⟩] = utf8 "null" := by decide
  constructor
  · intro isNull
    obtain ⟨blanks, rfl⟩ := isNull_eq_true_iff.mp isNull
    exact spelled
  · intro same
    rw [← isNull_bare, proper.bare_eq_of_text_eq isProper_null (same.trans spelled.symm)]
    rfl

end Value

/-- The bytes are the text of a value, without blanks around it. -/
def IsValueText (bytes : Bytes) : Prop :=
  ∃ value : Value, value.IsProper ∧ bytes = value.text

/-! ## Strings in values -/

/-- Outside of strings everything is ASCII. -/
theorem Token.IsProper.isUtf8_spelling_iff (proper : token.IsProper) :
    IsUtf8 token.spelling ↔
      ∀ pieces, token = .string pieces → IsUtf8 (pieces.flatMap Piece.spelling) := by
  cases token with
  | mark kind =>
      refine iff_of_true (isUtf8_of_lt ?_) nofun
      cases kind <;> decide +kernel
  | word kind =>
      refine iff_of_true (isUtf8_of_lt ?_) nofun
      cases kind <;> decide +kernel
  | number spelling => exact iff_of_true (isUtf8_of_lt (IsNumber.forall_lt proper)) nofun
  | string pieces =>
      have basic : Ascii.quote < 0x80 := by decide
      rw [Token.spelling, List.cons_append, isUtf8_cons_iff basic, isUtf8_concat_iff basic]
      constructor
      · rintro isUtf8 _ ⟨⟩
        exact isUtf8
      · intro isUtf8
        exact isUtf8 pieces rfl

theorem Lexeme.IsProper.isUtf8_spelling_iff (proper : lexeme.IsProper) :
    IsUtf8 lexeme.spelling ↔ IsUtf8 lexeme.token.spelling := by
  obtain ⟨first, later, form, _, basic⟩ := proper.token.exists_cons
  have begins : BeginsCharacter lexeme.token.spelling := by
    rw [form]
    exact beginsCharacter_cons_of_lt basic
  have isUtf8 : IsUtf8 lexeme.blanks :=
    isUtf8_of_lt fun byte listed => lt_of_isBlank (proper.blank byte listed)
  rw [Lexeme.spelling, isUtf8_append_iff begins]
  exact and_iff_right isUtf8

theorem Lexeme.IsProper.beginsCharacter (proper : lexeme.IsProper) (rest : Bytes) :
    BeginsCharacter (lexeme.spelling ++ rest) := by
  obtain ⟨first, later, form, _, basic⟩ := proper.token.exists_cons
  cases blanks : lexeme.blanks with
  | nil =>
      rw [Lexeme.spelling, blanks, form]
      exact beginsCharacter_cons_of_lt basic
  | cons blank others =>
      rw [Lexeme.spelling, blanks]
      exact beginsCharacter_cons_of_lt (lt_of_isBlank (proper.blank blank (by simp [blanks])))

/-- Lexemes are UTF-8 together exactly if each of them is. -/
theorem isUtf8_flatMap_spelling_iff (proper : ∀ lexeme ∈ lexemes, lexeme.IsProper) :
    IsUtf8 (lexemes.flatMap Lexeme.spelling) ↔
      ∀ lexeme ∈ lexemes, IsUtf8 lexeme.token.spelling := by
  induction lexemes with
  | nil => exact iff_of_true (isUtf8_utf8 "") nofun
  | cons lexeme rest ih =>
      rw [List.forall_mem_cons] at proper ⊢
      have begins : BeginsCharacter (rest.flatMap Lexeme.spelling) := by
        cases rest with
        | nil => exact nofun
        | cons next rest => exact (proper.2 next List.mem_cons_self).beginsCharacter _
      rw [List.flatMap_cons, isUtf8_append_iff begins, ih proper.2, proper.1.isUtf8_spelling_iff]

namespace Value

/-- Every string in the value is UTF-8 as it is spelled. It need not denote
anything. -/
def HasUtf8Strings (value : Value) : Prop :=
  ∀ lexeme ∈ value, ∀ pieces,
    lexeme.token = .string pieces → IsUtf8 (pieces.flatMap Piece.spelling)

/-- The text of a value is UTF-8 exactly if its strings are. -/
theorem IsProper.isUtf8_text_iff (proper : value.IsProper) :
    IsUtf8 value.text ↔ value.HasUtf8Strings := by
  have tokens : IsUtf8 value.text ↔ ∀ lexeme ∈ value, IsUtf8 lexeme.token.spelling := by
    rw [← flatMap_spelling_bare, isUtf8_flatMap_spelling_iff proper.bare.lexemes]
    cases value with
    | nil => exact Iff.rfl
    | cons first rest => simp [Value.bare]
  rw [tokens, HasUtf8Strings]
  exact forall₂_congr fun lexeme listed =>
    (proper.lexemes lexeme listed).token.isUtf8_spelling_iff

/-- A value can be passed on exactly if its strings are UTF-8. -/
theorem IsProper.isSome_raw?_iff (proper : value.IsProper) :
    value.raw?.isSome = true ↔ value.HasUtf8Strings := by
  rw [raw?, isSome_ofUtf8?_iff, proper.isUtf8_text_iff]

end Value

end Switchboard.Json
