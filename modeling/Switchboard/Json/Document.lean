import Switchboard.Json.Value

/-!
# Documents and records

The texts exchanged with clients are JSON objects or arrays of which only the
outermost level is taken apart. A record names the fields it knows: in an
object they are found by name, wherever they stand, and in an array by
position. Other members of an object are skipped, and further elements of an
array are refused.
-/

namespace Switchboard.Json

open Switchboard.Text

/-- The outermost level of an object or an array. -/
inductive Document
  | object (members : List (List Piece × Value))
  | array (elements : List Value)
  deriving DecidableEq, Repr

/-- The members after the first of an object, up to its end, which must be the
end of the text. -/
def members? (lexemes : List Lexeme) : Option (List (List Piece × Value)) :=
  match lexemes with
  | ⟨_, .string name⟩ :: ⟨_, .mark .nameSeparator⟩ :: afterName =>
      match _found : value? afterName with
      | some (value, ⟨_, .mark .valueSeparator⟩ :: rest) =>
          (members? rest).map ((name, value) :: ·)
      | some (value, [⟨_, .mark .endObject⟩]) => some [(name, value)]
      | _ => none
  | _ => none
termination_by lexemes.length
decreasing_by
  have shorter := value?_length _found
  simp_all
  omega

/-- The elements after the first of an array, up to its end, which must be the
end of the text. -/
def elements? (lexemes : List Lexeme) : Option (List Value) :=
  match _found : value? lexemes with
  | some (value, ⟨_, .mark .valueSeparator⟩ :: rest) => (elements? rest).map (value :: ·)
  | some (value, [⟨_, .mark .endArray⟩]) => some [value]
  | _ => none
termination_by lexemes.length
decreasing_by
  have shorter := value?_length _found
  simp_all
  omega

/-- The elements of a value that is an array. -/
def Value.elements? : Value → Option (List Value)
  | [⟨_, .mark .beginArray⟩, ⟨_, .mark .endArray⟩] => some []
  | ⟨_, .mark .beginArray⟩ :: rest => Json.elements? rest
  | _ => none

/-- The texts denoted by a value that is an array of strings. -/
def Value.strings? (value : Value) : Option (List String) :=
  value.elements?.bind fun elements => elements.mapM Value.string?

namespace Document

/-- Take apart the outermost level of a text. -/
def ofLexemes? : List Lexeme → Option Document
  | [⟨_, .mark .beginObject⟩, ⟨_, .mark .endObject⟩] => some (.object [])
  | ⟨_, .mark .beginObject⟩ :: rest => (members? rest).map .object
  | lexemes => (Value.elements? lexemes).map .array

/-- Read a text as an object or an array. -/
def read? (bytes : Bytes) : Option Document :=
  (lexemes? bytes).bind ofLexemes?

end Document

/-- The values given for the known fields of a record, each at most once. -/
abbrev Record := List (String × Value)

namespace Record

/-- The values given for the fields of a record. All names of an object have
to be readable, and a known one may not be repeated. -/
def ofDocument? (fields : List String) : Document → Option Record
  | .object members => do
      let named ← members.mapM fun (name, value) => (denotation? name).map (·, value)
      let known := named.filter fun (name, _) => name ∈ fields
      if (known.map Prod.fst).Nodup then some known else none
  | .array elements =>
      if elements.length ≤ fields.length then some (fields.zip elements) else none

/-- Read a text as a record. -/
def read? (fields : List String) (bytes : Bytes) : Option Record :=
  (Document.read? bytes).bind (ofDocument? fields)

/-- Read a field that has to be given. -/
def required? {α : Type} (record : Record) (read? : Value → Option α) (field : String) :
    Option α :=
  (record.lookup field).bind read?

/-- Read a field that may be left out, or given as `null`. -/
def optional? {α : Type} (record : Record) (read? : Value → Option α) (field : String) :
    Option (Option α) :=
  match record.lookup field with
  | none => some none
  | some value => value.optional? read?

end Record

end Switchboard.Json
