import Mathlib.Data.List.Forall2
import Switchboard.Proofs.Json.Document

/-!
# What blanks do not change

Values are cut out of a text by its tokens, and so are the members of an object.
Texts with the same tokens spell objects with the same names, whose values have
the same tokens again. Such values are `null`, or a certain string, together.
-/

namespace Switchboard.Json

open Switchboard.Text

variable {first second rest : List Lexeme} {members : List (List Piece × Value)}
  {bytes other : Bytes}

/-- The lexemes differ in blanks at most. -/
def SameTokens (first second : List Lexeme) : Prop :=
  first.map Lexeme.token = second.map Lexeme.token

/-- The members have the same name, and values that differ in blanks at most. -/
def SameButBlanks (first second : List Piece × Value) : Prop :=
  first.1 = second.1 ∧ SameTokens first.2 second.2

namespace SameTokens

/-! ## Values -/

theorem isNull_iff (same : SameTokens first second) : Value.IsNull first ↔ Value.IsNull second := by
  have shape (value : Value) : value.IsNull ↔ value.map Lexeme.token = [.word .null] := by
    rw [List.map_eq_singleton_iff]
    constructor
    · rintro ⟨blanks, rfl⟩
      exact ⟨⟨blanks, .word .null⟩, rfl, rfl⟩
    · rintro ⟨⟨blanks, token⟩, rfl, rfl⟩
      exact ⟨blanks, rfl⟩
  rw [shape, shape, same]

theorem isString_iff (same : SameTokens first second) (text : String) :
    Value.IsString first text ↔ Value.IsString second text := by
  have shape (value : Value) : value.IsString text ↔
      ∃ pieces, value.map Lexeme.token = [.string pieces] ∧ Denotes pieces text.toList := by
    constructor
    · rintro ⟨blanks, pieces, rfl, denotes⟩
      exact ⟨pieces, rfl, denotes⟩
    · rintro ⟨pieces, tokens, denotes⟩
      obtain ⟨⟨blanks, token⟩, rfl, rfl⟩ := List.map_eq_singleton_iff.mp tokens
      exact ⟨blanks, pieces, rfl, denotes⟩
  rw [shape, shape, same]

theorem string?_eq (same : SameTokens first second) :
    Value.string? first = Value.string? second := by
  apply Option.ext
  intro text
  rw [Value.string?_eq_some_iff, Value.string?_eq_some_iff, same.isString_iff]

theorem hasUtf8Strings_iff (same : SameTokens first second) :
    Value.HasUtf8Strings first ↔ Value.HasUtf8Strings second := by
  have shape (value : Value) : value.HasUtf8Strings ↔ ∀ token ∈ value.map Lexeme.token,
      ∀ pieces, token = .string pieces → IsUtf8 (pieces.flatMap Piece.spelling) := by
    rw [List.forall_mem_map, Value.HasUtf8Strings]
  rw [shape, shape, same]

/-! ## Cutting -/

theorem exists_of_cons {blanks : Bytes} {token : Token}
    (same : SameTokens (⟨blanks, token⟩ :: rest) second) :
    ∃ blanksOther later, second = ⟨blanksOther, token⟩ :: later ∧ SameTokens rest later := by
  obtain ⟨⟨blanksOther, _⟩, later, rfl, rfl, sameRest⟩ := List.map_eq_cons_iff.mp same.symm
  exact ⟨blanksOther, later, rfl, sameRest.symm⟩

theorem exists_of_append (same : SameTokens (first ++ rest) second) :
    ∃ earlier later, second = earlier ++ later ∧ SameTokens first earlier ∧
      SameTokens rest later := by
  rw [SameTokens, List.map_append, eq_comm, List.map_eq_append_iff] at same
  obtain ⟨earlier, later, rfl, sameFirst, sameRest⟩ := same
  exact ⟨earlier, later, rfl, sameFirst.symm, sameRest.symm⟩

theorem extent?_eq (same : SameTokens first second) (cursor : Cursor) :
    cursor.extent? first = cursor.extent? second := by
  induction first generalizing second cursor with
  | nil =>
      cases List.map_eq_nil_iff.mp same.symm
      rfl
  | cons lexeme rest ih =>
      obtain ⟨blanks, later, rfl, sameRest⟩ := exists_of_cons same
      rw [Cursor.extent?, Cursor.extent?]
      simp only [ih sameRest]

/-- Blanks do not keep lexemes from being a value. -/
theorem derives (same : SameTokens first second) (derives : Derives .value first) :
    Derives .value second := by
  have found := derives.value?_append []
  rw [List.append_nil, value?, Option.map_eq_some_iff] at found
  obtain ⟨extent, within, cut⟩ := found
  have whole : second.length ≤ extent := by
    rw [List.splitAt_eq, Prod.mk.injEq, List.drop_eq_nil_iff] at cut
    have sameLength := congrArg List.length same
    rw [List.length_map, List.length_map] at sameLength
    exact sameLength ▸ cut.2
  have read : value? second = some (second, []) := by
    rw [value?, ← same.extent?_eq, within, Option.map_some, List.splitAt_eq,
      List.take_of_length_le whole, List.drop_of_length_le whole]
  exact (value?_eq_some_iff.mp read).1

theorem exists_spellsMembers (same : SameTokens first second)
    (spells : SpellsMembers first members) :
    ∃ others, SpellsMembers second others ∧ List.Forall₂ SameButBlanks members others := by
  induction spells generalizing second with
  | @single _ _ name _ derives =>
      obtain ⟨_, _, rfl, sameBehind⟩ := same.exists_of_cons
      obtain ⟨_, value, rfl, sameValue⟩ := sameBehind.exists_of_cons
      exact ⟨[(name, value)], .single (sameValue.derives derives), .cons ⟨rfl, sameValue⟩ .nil⟩
  | @several _ _ _ name _ _ _ derives _ ih =>
      rw [List.cons_append, List.cons_append] at same
      obtain ⟨_, _, rfl, sameBehind⟩ := same.exists_of_cons
      obtain ⟨_, _, rfl, sameEntry⟩ := sameBehind.exists_of_cons
      obtain ⟨value, _, rfl, sameValue, sameRest⟩ := sameEntry.exists_of_append
      obtain ⟨_, _, rfl, sameLater⟩ := sameRest.exists_of_cons
      obtain ⟨others, spellsOthers, sameOthers⟩ := ih sameLater
      exact ⟨(name, value) :: others, .several (sameValue.derives derives) spellsOthers,
        .cons ⟨rfl, sameValue⟩ sameOthers⟩

theorem exists_spellsDocument (same : SameTokens first second)
    (spells : SpellsDocument first (.object members)) :
    ∃ others, SpellsDocument second (.object others) ∧
      List.Forall₂ SameButBlanks members others := by
  cases spells with
  | emptyObject =>
      obtain ⟨_, _, rfl, sameBehind⟩ := same.exists_of_cons
      obtain ⟨_, _, rfl, sameEnd⟩ := sameBehind.exists_of_cons
      cases List.map_eq_nil_iff.mp sameEnd.symm
      exact ⟨[], .emptyObject, .nil⟩
  | object inner =>
      rw [List.cons_append] at same
      obtain ⟨_, _, rfl, sameBehind⟩ := same.exists_of_cons
      obtain ⟨_, _, rfl, sameInner, sameLast⟩ := sameBehind.exists_of_append
      obtain ⟨_, _, rfl, sameEnd⟩ := sameLast.exists_of_cons
      cases List.map_eq_nil_iff.mp sameEnd.symm
      obtain ⟨others, spellsOthers, sameOthers⟩ := sameInner.exists_spellsMembers inner
      exact ⟨others, .object spellsOthers, sameOthers⟩

end SameTokens

/-! ## Texts -/

/-- The texts are made of the same tokens. -/
def DifferInBlanks (bytes other : Bytes) : Prop :=
  (lexemes? bytes).map (List.map Lexeme.token) = (lexemes? other).map (List.map Lexeme.token)

/-- A text with the tokens of an object spells an object with the same members
up to blanks. -/
theorem Document.SpelledBy.exists_of_differInBlanks (spelled : (object members).SpelledBy bytes)
    (same : DifferInBlanks bytes other) :
    ∃ others, (object others).SpelledBy other ∧ List.Forall₂ SameButBlanks members others := by
  rw [← read?_eq_some_iff, read?, Option.bind_eq_some_iff] at spelled
  obtain ⟨lexemes, cut, read⟩ := spelled
  rw [DifferInBlanks, cut, Option.map_some, eq_comm, Option.map_eq_some_iff] at same
  obtain ⟨lexemesOther, cutOther, same⟩ := same
  obtain ⟨others, spells, sameMembers⟩ :=
    SameTokens.exists_spellsDocument same.symm (ofLexemes?_eq_some_iff.mp read)
  refine ⟨others, read?_eq_some_iff.mp ?_, sameMembers⟩
  rw [read?, cutOther, Option.bind_some, ofLexemes?_eq_some_iff.mpr spells]

end Switchboard.Json
