import Switchboard.Json.Token

/-!
# Values inside a run of lexemes

A value is found by a cursor that keeps the containers it is inside of and
what may come next. The containers are held in a list and not on the call
stack, so nesting has no limit. A value is kept as its lexemes: its text,
with all inner blanks, is still at hand when it has to be passed on unread.
-/

namespace Switchboard.Json

open Switchboard.Text

/-- The two kinds of container. -/
inductive Container
  | array
  | object
  deriving DecidableEq, Repr

namespace Container

/-- The mark that ends a container. -/
def closing : Container → Mark
  | array => .endArray
  | object => .endObject

end Container

/-- What a cursor is waiting for. -/
inductive Expectation
  /-- A value has to begin. -/
  | value
  /-- The first element of an array, or its end. -/
  | firstElement
  /-- The first name of an object, or its end. -/
  | firstName
  /-- The name of a member. -/
  | name
  /-- The mark between a name and its value. -/
  | nameSeparator
  /-- Whatever may follow a complete value. -/
  | following
  deriving DecidableEq, Repr

/-- A place inside a value: the containers around it, innermost first, and
what may come next. -/
structure Cursor where
  inside : List Container
  expectation : Expectation
  deriving DecidableEq, Repr

namespace Cursor

/-- The place before a value. -/
def start : Cursor :=
  ⟨[], .value⟩

/-- A cursor is at the end once a value is complete outside all containers. -/
def isDone (cursor : Cursor) : Bool :=
  cursor.inside.isEmpty && cursor.expectation = .following

/-- Begin a value at a cursor inside the given containers. -/
def beginValue (inside : List Container) : Token → Option Cursor
  | .mark .beginArray => some ⟨.array :: inside, .firstElement⟩
  | .mark .beginObject => some ⟨.object :: inside, .firstName⟩
  | .mark _ => none
  | .word _ => some ⟨inside, .following⟩
  | .number _ => some ⟨inside, .following⟩
  | .string _ => some ⟨inside, .following⟩

/-- Read the name of a member. -/
def readName (inside : List Container) : Token → Option Cursor
  | .string _ => some ⟨inside, .nameSeparator⟩
  | _ => none

/-- Go past what follows a complete value: the end of its container, or a
separator. -/
def pass (inside : List Container) (token : Token) : Option Cursor :=
  match inside with
  | [] => none
  | container :: outside =>
      if token = .mark container.closing then
        some ⟨outside, .following⟩
      else if token = .mark .valueSeparator then
        match container with
        | .array => some ⟨inside, .value⟩
        | .object => some ⟨inside, .name⟩
      else
        none

/-- Go past one token. -/
def step (cursor : Cursor) (token : Token) : Option Cursor :=
  match cursor.expectation with
  | .value => beginValue cursor.inside token
  | .firstElement =>
      if token = .mark .endArray then
        some ⟨cursor.inside.tail, .following⟩
      else
        beginValue cursor.inside token
  | .firstName =>
      if token = .mark .endObject then
        some ⟨cursor.inside.tail, .following⟩
      else
        readName cursor.inside token
  | .name => readName cursor.inside token
  | .nameSeparator =>
      if token = .mark .nameSeparator then some ⟨cursor.inside, .value⟩ else none
  | .following => pass cursor.inside token

/-- The number of lexemes up to the end of the value that a cursor is in. -/
def extent? (cursor : Cursor) : List Lexeme → Option Nat
  | [] => if cursor.isDone then some 0 else none
  | lexeme :: rest =>
      if cursor.isDone then
        some 0
      else
        match cursor.step lexeme.token with
        | none => none
        | some next => (next.extent? rest).map Nat.succ

@[simp]
theorem isDone_start : start.isDone = false :=
  rfl

end Cursor

/-- A value is kept as the lexemes that it is made of. -/
abbrev Value := List Lexeme

/-- The value at the start of some lexemes, and what follows it. -/
def value? (lexemes : List Lexeme) : Option (Value × List Lexeme) :=
  (Cursor.start.extent? lexemes).map lexemes.splitAt

/-- A value and what follows it make up the lexemes it was found in, and a
value is never empty. -/
theorem value?_append {lexemes value rest : List Lexeme}
    (found : value? lexemes = some (value, rest)) :
    value ++ rest = lexemes ∧ value ≠ [] := by
  obtain ⟨extent, extentFound, same⟩ := Option.map_eq_some_iff.1 found
  rw [List.splitAt_eq] at same
  cases same
  refine ⟨List.take_append_drop _ _, ?_⟩
  cases lexemes with
  | nil => simp [Cursor.extent?] at extentFound
  | cons lexeme rest =>
      simp only [Cursor.extent?, Cursor.isDone_start, Bool.false_eq_true, if_false] at extentFound
      split at extentFound
      · contradiction
      · obtain ⟨inner, _, rfl⟩ := Option.map_eq_some_iff.1 extentFound
        simp

/-- What follows a value is shorter than what it was found in. -/
theorem value?_length {lexemes value rest : List Lexeme}
    (found : value? lexemes = some (value, rest)) : rest.length < lexemes.length := by
  obtain ⟨whole, nonempty⟩ := value?_append found
  have positive := List.length_pos_iff.2 nonempty
  rw [← whole, List.length_append]
  omega

namespace Value

/-- The text of a value, without the blanks before it. -/
def text : Value → Bytes
  | [] => []
  | first :: rest => first.token.spelling ++ rest.flatMap Lexeme.spelling

/-- The literal name `null`. -/
def isNull : Value → Bool
  | [⟨_, .word .null⟩] => true
  | _ => false

/-- The text denoted by a value that is a string. -/
def string? : Value → Option String
  | [⟨_, .string pieces⟩] => denotation? pieces
  | _ => none

/-- A value passed on unread. Its text has to be UTF-8, and nothing else. -/
def raw? (value : Value) : Option String :=
  ofUtf8? value.text

/-- Read a value that may be `null`. -/
def optional? {α : Type} (read? : Value → Option α) (value : Value) : Option (Option α) :=
  if value.isNull then some none else (read? value).map some

end Value

end Switchboard.Json
