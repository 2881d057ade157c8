import Switchboard.Json.Value
import Switchboard.Proofs.Json.Token

/-!
# The grammar of values

The cursor finds exactly the values of the grammar. It reads a phrase of the
grammar inside any containers, so nesting has no limit, and it never goes past
the end of the value that it has begun.

Of any two neighbours in a value one is a mark, so a value is found again from
its text.
-/

namespace Switchboard.Json

open Switchboard.Text

variable {lexemes rest : List Lexeme} {inside : List Container} {container : Container}
  {value : Value}

namespace Container

/-- The mark that begins a container. -/
def opening : Container → Mark
  | array => .beginArray
  | object => .beginObject

/-- What a cursor waits for at the beginning of an entry. -/
def entry : Container → Expectation
  | array => .value
  | object => .name

/-- What a cursor waits for at the beginning of a container. -/
def first : Container → Expectation
  | array => .firstElement
  | object => .firstName

end Container

/-! ## The grammar -/

/-- The kinds of phrases that values are made of. -/
inductive Phrase
  | value
  /-- An element of an array, or a member of an object. -/
  | entry (container : Container)
  /-- One or more entries, with separators between them. -/
  | content (container : Container)

/-- The lexemes form a phrase. -/
inductive Derives : Phrase → List Lexeme → Prop
  | scalar {lexeme : Lexeme} (unmarked : lexeme.token.isMark = false) : Derives .value [lexeme]
  | empty {before after : Bytes} (container : Container) :
      Derives .value [⟨before, .mark container.opening⟩, ⟨after, .mark container.closing⟩]
  | filled {before after : Bytes} {container : Container} {content : List Lexeme}
      (inner : Derives (.content container) content) :
      Derives .value
        (⟨before, .mark container.opening⟩ :: content ++ [⟨after, .mark container.closing⟩])
  | element {value : List Lexeme} (inner : Derives .value value) :
      Derives (.entry .array) value
  | member {before after : Bytes} {name : List Piece} {value : List Lexeme}
      (inner : Derives .value value) :
      Derives (.entry .object)
        (⟨before, .string name⟩ :: ⟨after, .mark .nameSeparator⟩ :: value)
  | single {container : Container} {entry : List Lexeme}
      (inner : Derives (.entry container) entry) : Derives (.content container) entry
  | several {blanks : Bytes} {container : Container} {entry later : List Lexeme}
      (inner : Derives (.entry container) entry) (others : Derives (.content container) later) :
      Derives (.content container) (entry ++ ⟨blanks, .mark .valueSeparator⟩ :: later)

/-- No phrase begins with the end of a container. -/
theorem Derives.exists_cons {phrase : Phrase} (derives : Derives phrase lexemes) :
    ∃ first later, lexemes = first :: later ∧
      ∀ container : Container, first.token ≠ .mark container.closing := by
  induction derives with
  | @scalar lexeme unmarked =>
      refine ⟨lexeme, [], rfl, fun container same => ?_⟩
      rw [same] at unmarked
      contradiction
  | empty container =>
      refine ⟨_, _, rfl, fun other => ?_⟩
      cases container <;> cases other <;> simp [Container.opening, Container.closing]
  | @filled _ _ container _ _ =>
      refine ⟨_, _, rfl, fun other => ?_⟩
      cases container <;> cases other <;> simp [Container.opening, Container.closing]
  | element _ ih => exact ih
  | member _ _ =>
      refine ⟨_, _, rfl, fun other => ?_⟩
      simp
  | single _ ih => exact ih
  | several _ _ ih _ =>
      obtain ⟨first, later, rfl, notEnd⟩ := ih
      exact ⟨first, _, rfl, notEnd⟩

/-! ## Reading phrases -/

namespace Cursor

/-- A cursor that has not reached the end goes past the next lexeme. -/
theorem extent?_cons {cursor next : Cursor} {lexeme : Lexeme} (busy : cursor.isDone = false)
    (moved : cursor.step lexeme.token = some next) :
    cursor.extent? (lexeme :: rest) = (next.extent? rest).map Nat.succ := by
  rw [extent?, busy, if_neg Bool.false_ne_true, moved]

/-- Whatever comes after the lexemes, a cursor goes past all of them and on from
the next place. -/
def Passes (cursor : Cursor) (lexemes : List Lexeme) (next : Cursor) : Prop :=
  ∀ rest, cursor.extent? (lexemes ++ rest) = (next.extent? rest).map (lexemes.length + ·)

namespace Passes

variable {cursor middle next : Cursor} {lexeme : Lexeme} {later : List Lexeme}

theorem single (busy : cursor.isDone = false) (moved : cursor.step lexeme.token = some next) :
    cursor.Passes [lexeme] next := by
  intro rest
  rw [List.singleton_append, extent?_cons busy moved]
  exact Option.map_congr fun count _ => Nat.succ_eq_one_add count

theorem trans (first : cursor.Passes lexemes middle) (second : middle.Passes later next) :
    cursor.Passes (lexemes ++ later) next := by
  intro rest
  rw [List.append_assoc, first, second, Option.map_map]
  refine Option.map_congr fun count _ => ?_
  rw [Function.comp_apply, List.length_append, Nat.add_assoc]

theorem cons (busy : cursor.isDone = false) (moved : cursor.step lexeme.token = some middle)
    (second : middle.Passes lexemes next) : cursor.Passes (lexeme :: lexemes) next :=
  (single busy moved).trans second

end Passes

@[simp]
theorem isDone_mk_value : isDone ⟨inside, .value⟩ = false := by simp [isDone]

/-- Inside a container nothing is at its end. -/
@[simp]
theorem isDone_mk_cons {expectation : Expectation} :
    isDone ⟨container :: inside, expectation⟩ = false := by
  simp [isDone]

theorem step_opening :
    step ⟨inside, .value⟩ (.mark container.opening) =
      some ⟨container :: inside, container.first⟩ := by
  cases container <;> rfl

theorem step_scalar {token : Token} (unmarked : token.isMark = false) :
    step ⟨inside, .value⟩ token = some ⟨inside, .following⟩ := by
  cases token with
  | mark => contradiction
  | word | number | string => rfl

theorem step_closing_first :
    step ⟨container :: inside, container.first⟩ (.mark container.closing) =
      some ⟨inside, .following⟩ := by
  cases container <;> rfl

theorem step_closing :
    step ⟨container :: inside, .following⟩ (.mark container.closing) =
      some ⟨inside, .following⟩ := by
  cases container <;> rfl

theorem step_separator :
    step ⟨container :: inside, .following⟩ (.mark .valueSeparator) =
      some ⟨container :: inside, container.entry⟩ := by
  cases container <;> rfl

/-- Unless a container ends at once, it begins with an entry. -/
theorem extent?_first {lexeme : Lexeme} (notEnd : lexeme.token ≠ .mark container.closing) :
    extent? ⟨container :: inside, container.first⟩ (lexeme :: rest) =
      extent? ⟨container :: inside, container.entry⟩ (lexeme :: rest) := by
  have same : step ⟨container :: inside, container.first⟩ lexeme.token =
      step ⟨container :: inside, container.entry⟩ lexeme.token := by
    cases container <;> exact if_neg notEnd
  rw [extent?, extent?, isDone_mk_cons, isDone_mk_cons, same]

end Cursor

namespace Phrase

/-- The place before a phrase inside some containers. -/
def before (inside : List Container) : Phrase → Cursor
  | .value => ⟨inside, .value⟩
  | .entry container | .content container => ⟨container :: inside, container.entry⟩

/-- The place behind a phrase inside some containers. -/
def behind (inside : List Container) : Phrase → Cursor
  | .value => ⟨inside, .following⟩
  | .entry container | .content container => ⟨container :: inside, .following⟩

end Phrase

/-- A cursor goes past a phrase and then on from behind it. -/
theorem Derives.passes {phrase : Phrase} (derives : Derives phrase lexemes)
    (inside : List Container) :
    (phrase.before inside).Passes lexemes (phrase.behind inside) := by
  induction derives generalizing inside with
  | scalar unmarked => exact .single Cursor.isDone_mk_value (Cursor.step_scalar unmarked)
  | empty container =>
      apply Cursor.Passes.cons Cursor.isDone_mk_value Cursor.step_opening
      exact .single Cursor.isDone_mk_cons Cursor.step_closing_first
  | @filled _ after container content inner ih =>
      obtain ⟨first, later, rfl, notEnd⟩ := inner.exists_cons
      have entered : Cursor.Passes ⟨container :: inside, container.first⟩ (first :: later)
          ⟨container :: inside, .following⟩ := by
        intro rest
        rw [List.cons_append, Cursor.extent?_first (notEnd container)]
        exact ih inside rest
      have closed : Cursor.Passes ⟨container :: inside, .following⟩
          [⟨after, .mark container.closing⟩] ⟨inside, .following⟩ :=
        .single Cursor.isDone_mk_cons Cursor.step_closing
      exact .cons Cursor.isDone_mk_value Cursor.step_opening (entered.trans closed)
  | element _ ih => exact ih (.array :: inside)
  | @member _ _ name _ _ ih =>
      have named : Cursor.step ⟨.object :: inside, .name⟩ (.string name) =
          some ⟨.object :: inside, .nameSeparator⟩ := rfl
      have parted : Cursor.step ⟨.object :: inside, .nameSeparator⟩ (.mark .nameSeparator) =
          some ⟨.object :: inside, .value⟩ := rfl
      apply Cursor.Passes.cons Cursor.isDone_mk_cons named
      exact .cons Cursor.isDone_mk_cons parted (ih (.object :: inside))
  | single _ ih => exact ih inside
  | several _ _ ih ihLater =>
      apply (ih inside).trans
      exact .cons Cursor.isDone_mk_cons Cursor.step_separator (ihLater inside)

/-! ## Finding phrases -/

/-- A value is at the beginning of the lexemes. -/
def HasValue (lexemes : List Lexeme) : Prop :=
  ∃ value rest, lexemes = value ++ rest ∧ Derives .value value

/-- The content of a container and its end are at the beginning of the lexemes. -/
def HasContent (container : Container) (lexemes : List Lexeme) : Prop :=
  ∃ content closing rest, lexemes = content ++ closing :: rest ∧
    Derives (.content container) content ∧ closing.token = .mark container.closing

/-- After the mark that opens it, a container makes a value. -/
theorem HasContent.hasValue {blanks : Bytes} (content : HasContent container lexemes) :
    HasValue (⟨blanks, .mark container.opening⟩ :: lexemes) := by
  obtain ⟨content, ⟨after, token⟩, rest, rfl, derives, same⟩ := content
  cases same
  exact ⟨⟨blanks, .mark container.opening⟩ :: content ++ [⟨after, .mark container.closing⟩],
    rest, by simp, .filled derives⟩

namespace Cursor

/-- A cursor that gets to the end of a value goes past a lexeme first. -/
theorem exists_of_extent? {cursor : Cursor} {extent : Nat} (busy : cursor.isDone = false)
    (found : cursor.extent? lexemes = some extent) :
    ∃ lexeme later next extent, lexemes = lexeme :: later ∧
      cursor.step lexeme.token = some next ∧ next.extent? later = some extent := by
  cases lexemes with
  | nil => simp [extent?, busy] at found
  | cons lexeme later =>
      rw [extent?, busy, if_neg Bool.false_ne_true] at found
      split at found
      · contradiction
      · rename_i next moved
        obtain ⟨extent, foundLater, rfl⟩ := Option.map_eq_some_iff.mp found
        exact ⟨lexeme, later, next, extent, rfl, moved, foundLater⟩

/-- A value begins with a scalar or opens a container. -/
theorem step_value {token : Token} {next : Cursor}
    (moved : step ⟨inside, .value⟩ token = some next) :
    token.isMark = false ∨ ∃ container : Container,
      token = .mark container.opening ∧ next = ⟨container :: inside, container.first⟩ := by
  cases token with
  | word | number | string => exact .inl rfl
  | mark kind =>
      cases kind with
      | beginArray => exact .inr ⟨.array, rfl, (Option.some.inj moved).symm⟩
      | beginObject => exact .inr ⟨.object, rfl, (Option.some.inj moved).symm⟩
      | endArray | endObject | nameSeparator | valueSeparator => contradiction

/-- An entry is followed by the end of its container or by a separator. -/
theorem step_following {token : Token} {next : Cursor}
    (moved : step ⟨container :: inside, .following⟩ token = some next) :
    token = .mark container.closing ∨
      token = .mark .valueSeparator ∧ next = ⟨container :: inside, container.entry⟩ := by
  by_cases ends : token = .mark container.closing
  · exact .inl ends
  · by_cases separates : token = .mark .valueSeparator
    · rw [separates, step_separator] at moved
      exact .inr ⟨separates, (Option.some.inj moved).symm⟩
    · simp [step, pass, ends, separates] at moved

end Cursor

/-- What a cursor gets past is a value, if that holds of all content inside. -/
theorem hasValue_of_extent? {extent : Nat}
    (contents : ∀ later : List Lexeme, later.length < lexemes.length →
      ∀ container inside extent,
        Cursor.extent? ⟨container :: inside, container.entry⟩ later = some extent →
          HasContent container later)
    (found : Cursor.extent? ⟨inside, .value⟩ lexemes = some extent) : HasValue lexemes := by
  obtain ⟨⟨blanks, token⟩, later, next, inner, rfl, moved, foundLater⟩ :=
    Cursor.exists_of_extent? Cursor.isDone_mk_value found
  obtain unmarked | ⟨container, rfl, rfl⟩ := Cursor.step_value moved
  · exact ⟨[⟨blanks, token⟩], later, rfl, .scalar unmarked⟩
  · obtain ⟨⟨after, second⟩, last, -, -, rfl, -, -⟩ :=
      Cursor.exists_of_extent? Cursor.isDone_mk_cons foundLater
    by_cases ends : second = .mark container.closing
    · cases ends
      exact ⟨[⟨blanks, .mark container.opening⟩, ⟨after, .mark container.closing⟩], last, rfl,
        .empty container⟩
    · rw [Cursor.extent?_first ends] at foundLater
      exact (contents _ (by simp) container inside inner foundLater).hasValue

/-- What a cursor gets past first inside a container is an entry, if that
holds of all content inside. -/
theorem hasEntry_of_extent? {extent : Nat}
    (contents : ∀ later : List Lexeme, later.length < lexemes.length →
      ∀ container inside extent,
        Cursor.extent? ⟨container :: inside, container.entry⟩ later = some extent →
          HasContent container later)
    (found : Cursor.extent? ⟨container :: inside, container.entry⟩ lexemes = some extent) :
    ∃ entry rest, lexemes = entry ++ rest ∧ Derives (.entry container) entry := by
  cases container with
  | array =>
      obtain ⟨value, rest, rfl, derives⟩ := hasValue_of_extent? contents found
      exact ⟨value, rest, rfl, .element derives⟩
  | object =>
      obtain ⟨⟨before, first⟩, named, next, _, rfl, moved, foundNamed⟩ :=
        Cursor.exists_of_extent? Cursor.isDone_mk_cons found
      cases first with
      | mark | word | number => contradiction
      | string name =>
          cases moved
          obtain ⟨⟨after, second⟩, later, next, _, rfl, moved, foundLater⟩ :=
            Cursor.exists_of_extent? Cursor.isDone_mk_cons foundNamed
          obtain ⟨separates, same⟩ := Option.ite_none_right_eq_some.mp moved
          cases same
          cases separates
          obtain ⟨value, rest, rfl, derives⟩ := hasValue_of_extent?
            (fun shorter less => contents shorter (by simp at less ⊢; omega)) foundLater
          exact ⟨_ :: _ :: value, rest, rfl, .member derives⟩

/-- What a cursor gets past inside a container is its content. -/
theorem hasContent_of_extent? (lexemes : List Lexeme) (container : Container)
    (inside : List Container) (extent : Nat)
    (found : Cursor.extent? ⟨container :: inside, container.entry⟩ lexemes = some extent) :
    HasContent container lexemes := by
  induction size : lexemes.length using Nat.strong_induction_on
    generalizing lexemes container inside extent with
  | _ size ih =>
      subst size
      obtain ⟨entry, rest, rfl, derives⟩ := hasEntry_of_extent?
        (fun later less container inside extent found =>
          ih _ less later container inside extent found rfl) found
      have past := derives.passes inside rest
      rw [Phrase.before, found] at past
      obtain ⟨behind, foundBehind, -⟩ := Option.map_eq_some_iff.mp past.symm
      obtain ⟨⟨blanks, token⟩, later, next, _, rfl, moved, foundLater⟩ :=
        Cursor.exists_of_extent? Cursor.isDone_mk_cons foundBehind
      obtain ends | ⟨rfl, rfl⟩ := Cursor.step_following moved
      · exact ⟨entry, ⟨blanks, token⟩, later, rfl, .single derives, ends⟩
      · obtain ⟨content, closing, last, rfl, derivesLater, ends⟩ :=
          ih _ (by simp; omega) later container inside _ foundLater rfl
        exact ⟨entry ++ ⟨blanks, .mark .valueSeparator⟩ :: content, closing, last, by simp,
          .several derives derivesLater, ends⟩

theorem behind_value_nil : (Phrase.value.behind []).extent? rest = some 0 := by
  cases rest <;> simp [Phrase.behind, Cursor.extent?, Cursor.isDone]

/-- A value is found in front of anything. -/
theorem Derives.value?_append (derives : Derives .value value) (rest : List Lexeme) :
    value? (value ++ rest) = some (value, rest) := by
  have past := derives.passes [] rest
  rw [behind_value_nil] at past
  rw [value?, show Cursor.start = Phrase.value.before [] from rfl, past]
  simp [List.splitAt_eq]

/-- A value is found exactly where the grammar has one. -/
theorem value?_eq_some_iff :
    value? lexemes = some (value, rest) ↔ Derives .value value ∧ lexemes = value ++ rest := by
  constructor
  · intro read
    obtain ⟨extent, foundExtent, -⟩ := Option.map_eq_some_iff.mp read
    obtain ⟨actual, last, rfl, derives⟩ :=
      hasValue_of_extent? (fun later _ => hasContent_of_extent? later) foundExtent
    rw [derives.value?_append last] at read
    cases read
    exact ⟨derives, rfl⟩
  · rintro ⟨derives, rfl⟩
    exact derives.value?_append rest

end Switchboard.Json
