import Switchboard.Json.Document
import Switchboard.Proofs.Json.ValueText

/-!
# What texts spell documents

A text is read as a document exactly if its lexemes, with blanks anywhere
between them, are those of an object or an array. A document is itself spelled
as a value, so it is cut into lexemes again like one.
-/

namespace Switchboard.Json

open Switchboard.Text

variable {lexemes content : List Lexeme} {members : List (List Piece × Value)}
  {elements : List Value} {value : Value} {document : Document} {bytes : Bytes}

/-! ## Members and elements -/

/-- The lexemes are one or more members of an object, with separators between
them. -/
inductive SpellsMembers : List Lexeme → List (List Piece × Value) → Prop
  | single {before after : Bytes} {name : List Piece} {value : Value}
      (derives : Derives .value value) :
      SpellsMembers (⟨before, .string name⟩ :: ⟨after, .mark .nameSeparator⟩ :: value)
        [(name, value)]
  | several {before after blanks : Bytes} {name : List Piece} {value : Value}
      {later : List Lexeme} {members : List (List Piece × Value)}
      (derives : Derives .value value) (others : SpellsMembers later members) :
      SpellsMembers
        (⟨before, .string name⟩ :: ⟨after, .mark .nameSeparator⟩ :: value ++
          ⟨blanks, .mark .valueSeparator⟩ :: later)
        ((name, value) :: members)

/-- The lexemes are one or more elements of an array, with separators between
them. -/
inductive SpellsElements : List Lexeme → List Value → Prop
  | single {value : Value} (derives : Derives .value value) : SpellsElements value [value]
  | several {blanks : Bytes} {value : Value} {later : List Lexeme} {elements : List Value}
      (derives : Derives .value value) (others : SpellsElements later elements) :
      SpellsElements (value ++ ⟨blanks, .mark .valueSeparator⟩ :: later) (value :: elements)

/-- Members are read up to the end of the object, which ends the text. -/
theorem members?_eq_some_iff :
    members? lexemes = some members ↔
      ∃ content after, lexemes = content ++ [⟨after, .mark .endObject⟩] ∧
        SpellsMembers content members := by
  constructor
  · intro read
    fun_induction members? lexemes generalizing members with
    | case1 before name after afterName value blanks rest found ih =>
        obtain ⟨others, readOthers, rfl⟩ := Option.map_eq_some_iff.mp read
        obtain ⟨later, final, rfl, spells⟩ := ih readOthers
        obtain ⟨derives, rfl⟩ := value?_eq_some_iff.mp found
        refine ⟨⟨before, .string name⟩ :: ⟨after, .mark .nameSeparator⟩ :: value ++
          ⟨blanks, .mark .valueSeparator⟩ :: later, final, by simp, .several derives spells⟩
    | case2 before name after afterName value final found =>
        cases read
        obtain ⟨derives, rfl⟩ := value?_eq_some_iff.mp found
        exact ⟨_, final, rfl, .single derives⟩
    | case3 | case4 => contradiction
  · rintro ⟨content, final, rfl, spells⟩
    induction spells with
    | @single before after name value derives =>
        have found := derives.value?_append [⟨final, .mark .endObject⟩]
        rw [List.cons_append, List.cons_append, members?]
        split <;> simp_all
    | @several before after blanks name value later members derives others ih =>
        have found := derives.value?_append
          (⟨blanks, .mark .valueSeparator⟩ :: (later ++ [⟨final, .mark .endObject⟩]))
        rw [List.append_assoc, List.cons_append, List.cons_append, List.cons_append, members?]
        split <;> simp_all

/-- Elements are read up to the end of the array, which ends the text. -/
theorem elements?_eq_some_iff :
    elements? lexemes = some elements ↔
      ∃ content after, lexemes = content ++ [⟨after, .mark .endArray⟩] ∧
        SpellsElements content elements := by
  constructor
  · intro read
    fun_induction elements? lexemes generalizing elements with
    | case1 lexemes value blanks rest found ih =>
        obtain ⟨others, readOthers, rfl⟩ := Option.map_eq_some_iff.mp read
        obtain ⟨later, final, rfl, spells⟩ := ih readOthers
        obtain ⟨derives, rfl⟩ := value?_eq_some_iff.mp found
        exact ⟨value ++ ⟨blanks, .mark .valueSeparator⟩ :: later, final, by simp,
          .several derives spells⟩
    | case2 lexemes value final found =>
        cases read
        obtain ⟨derives, rfl⟩ := value?_eq_some_iff.mp found
        exact ⟨value, final, rfl, .single derives⟩
    | case3 => contradiction
  · rintro ⟨content, final, rfl, spells⟩
    induction spells with
    | @single value derives =>
        have found := derives.value?_append [⟨final, .mark .endArray⟩]
        rw [elements?]
        split <;> simp_all
    | @several blanks value later elements derives others ih =>
        have found := derives.value?_append
          (⟨blanks, .mark .valueSeparator⟩ :: (later ++ [⟨final, .mark .endArray⟩]))
        rw [List.append_assoc, List.cons_append, elements?]
        split <;> simp_all

theorem SpellsMembers.derives (spells : SpellsMembers content members) :
    Derives (.content .object) content := by
  induction spells with
  | single derives => exact .single (.member derives)
  | several derives _ ih => exact .several (.member derives) ih

theorem SpellsElements.derives (spells : SpellsElements content elements) :
    Derives (.content .array) content := by
  induction spells with
  | single derives => exact .single (.element derives)
  | several derives _ ih => exact .several (.element derives) ih

/-! ## Documents -/

/-- The lexemes are those of an object or an array. -/
inductive SpellsDocument : List Lexeme → Document → Prop
  | emptyObject {before after : Bytes} :
      SpellsDocument [⟨before, .mark .beginObject⟩, ⟨after, .mark .endObject⟩] (.object [])
  | object {before after : Bytes} {content : List Lexeme} {members : List (List Piece × Value)}
      (inner : SpellsMembers content members) :
      SpellsDocument
        (⟨before, .mark .beginObject⟩ :: content ++ [⟨after, .mark .endObject⟩])
        (.object members)
  | emptyArray {before after : Bytes} :
      SpellsDocument [⟨before, .mark .beginArray⟩, ⟨after, .mark .endArray⟩] (.array [])
  | array {before after : Bytes} {content : List Lexeme} {elements : List Value}
      (inner : SpellsElements content elements) :
      SpellsDocument
        (⟨before, .mark .beginArray⟩ :: content ++ [⟨after, .mark .endArray⟩])
        (.array elements)

theorem SpellsDocument.derives (spells : SpellsDocument lexemes document) :
    Derives .value lexemes := by
  cases spells with
  | emptyObject => exact .empty .object
  | object inner => exact .filled inner.derives
  | emptyArray => exact .empty .array
  | array inner => exact .filled inner.derives

/-- The elements of a value are those of an array that it spells. -/
theorem Value.elements?_eq_some_iff :
    value.elements? = some elements ↔ SpellsDocument value (.array elements) := by
  constructor
  · intro read
    unfold Value.elements? at read
    split at read
    · cases read
      exact .emptyArray
    · obtain ⟨content, after, rfl, spells⟩ := Json.elements?_eq_some_iff.mp read
      exact .array spells
    · contradiction
  · intro spells
    cases spells with
    | emptyArray => rfl
    | @array before after content elements inner =>
        have read := Json.elements?_eq_some_iff.mpr ⟨content, after, rfl, inner⟩
        obtain ⟨first, later, rfl, notEnd⟩ := inner.derives.exists_cons
        rw [List.cons_append, List.cons_append, Value.elements?]
        · exact read
        · intro final same
          simp at same

@[simp]
theorem Value.elements?_bare (value : Value) : value.bare.elements? = value.elements? := by
  rcases value with _ | ⟨⟨blanks, token⟩, rest⟩
  · rfl
  · unfold Value.elements? Value.bare
    grind

namespace Document

theorem ofLexemes?_eq_some_iff :
    ofLexemes? lexemes = some document ↔ SpellsDocument lexemes document := by
  constructor
  · intro read
    unfold ofLexemes? at read
    split at read
    · cases read
      exact .emptyObject
    · obtain ⟨members, readMembers, rfl⟩ := Option.map_eq_some_iff.mp read
      obtain ⟨content, after, rfl, spells⟩ := members?_eq_some_iff.mp readMembers
      exact .object spells
    · obtain ⟨elements, readElements, rfl⟩ := Option.map_eq_some_iff.mp read
      exact Value.elements?_eq_some_iff.mp readElements
  · intro spells
    cases spells with
    | emptyObject => rfl
    | @object before after content members inner =>
        have read := members?_eq_some_iff.mpr ⟨content, after, rfl, inner⟩
        obtain ⟨first, later, rfl, notEnd⟩ := inner.derives.exists_cons
        rw [List.cons_append, List.cons_append, ofLexemes?]
        · exact congrArg (Option.map Document.object) read
        · intro final same
          simp at same
    | emptyArray => rfl
    | array inner =>
        exact congrArg (Option.map Document.array)
          (Value.elements?_eq_some_iff.mpr (.array inner))

/-- The bytes spell the document: its lexemes, and blanks after the last one. -/
def SpelledBy (document : Document) (bytes : Bytes) : Prop :=
  ∃ lexemes trailing, SpellsDocument lexemes document ∧ (∀ lexeme ∈ lexemes, lexeme.IsProper) ∧
    AreBlank trailing ∧ bytes = lexemes.flatMap Lexeme.spelling ++ trailing

/-- A text is read as the one document that it spells. -/
theorem read?_eq_some_iff : read? bytes = some document ↔ document.SpelledBy bytes := by
  rw [read?, Option.bind_eq_some_iff]
  constructor
  · rintro ⟨lexemes, cut, read⟩
    obtain ⟨proper, trailing, blank, whole⟩ := isProper_of_lexemes? cut
    exact ⟨lexemes, trailing, ofLexemes?_eq_some_iff.mp read, proper, blank, whole⟩
  · rintro ⟨lexemes, trailing, spells, proper, blank, rfl⟩
    exact ⟨lexemes, lexemes?_of_isProper proper spells.derives.isChain_apart blank,
      ofLexemes?_eq_some_iff.mpr spells⟩

instance : Decidable (document.SpelledBy bytes) :=
  decidable_of_iff _ read?_eq_some_iff

/-- A text spells at most one document. -/
theorem SpelledBy.unique {other : Document} (spelled : document.SpelledBy bytes)
    (spelledOther : other.SpelledBy bytes) : document = other := by
  rw [← read?_eq_some_iff] at spelled spelledOther
  exact Option.some.inj (spelled.symm.trans spelledOther)

/-! ## Values in a document -/

/-- The values of the members or elements of a document. -/
def values : Document → List Value
  | object members => members.map Prod.snd
  | array elements => elements

end Document

theorem SpellsMembers.exists_append (spells : SpellsMembers content members)
    (listed : value ∈ members.map Prod.snd) :
    Derives .value value ∧ ∃ earlier later, content = earlier ++ value ++ later := by
  induction spells with
  | @single before after name own derives =>
      cases List.mem_singleton.mp listed
      exact ⟨derives, [⟨before, .string name⟩, ⟨after, .mark .nameSeparator⟩], [], by simp⟩
  | @several before after blanks name own later members derives others ih =>
      rcases List.mem_cons.mp listed with rfl | listedLater
      · exact ⟨derives, [⟨before, .string name⟩, ⟨after, .mark .nameSeparator⟩],
          ⟨blanks, .mark .valueSeparator⟩ :: later, by simp⟩
      · obtain ⟨derivesLater, earlier, last, rfl⟩ := ih listedLater
        exact ⟨derivesLater, ⟨before, .string name⟩ :: ⟨after, .mark .nameSeparator⟩ :: own ++
          ⟨blanks, .mark .valueSeparator⟩ :: earlier, last, by simp⟩

theorem SpellsElements.exists_append (spells : SpellsElements content elements)
    (listed : value ∈ elements) :
    Derives .value value ∧ ∃ earlier later, content = earlier ++ value ++ later := by
  induction spells with
  | single derives =>
      cases List.mem_singleton.mp listed
      exact ⟨derives, [], [], by simp⟩
  | @several blanks own later elements derives others ih =>
      rcases List.mem_cons.mp listed with rfl | listedLater
      · exact ⟨derives, [], ⟨blanks, .mark .valueSeparator⟩ :: later, by simp⟩
      · obtain ⟨derivesLater, earlier, last, rfl⟩ := ih listedLater
        exact ⟨derivesLater, own ++ ⟨blanks, .mark .valueSeparator⟩ :: earlier, last, by simp⟩

/-- A value of a document is a run of its lexemes. -/
theorem SpellsDocument.exists_append (spells : SpellsDocument lexemes document)
    (listed : value ∈ document.values) :
    Derives .value value ∧ ∃ earlier later, lexemes = earlier ++ value ++ later := by
  cases spells with
  | emptyObject | emptyArray => contradiction
  | @object before after content members inner =>
      obtain ⟨derives, earlier, later, rfl⟩ := inner.exists_append listed
      exact ⟨derives, ⟨before, .mark .beginObject⟩ :: earlier,
        later ++ [⟨after, .mark .endObject⟩], by simp⟩
  | @array before after content elements inner =>
      obtain ⟨derives, earlier, later, rfl⟩ := inner.exists_append listed
      exact ⟨derives, ⟨before, .mark .beginArray⟩ :: earlier,
        later ++ [⟨after, .mark .endArray⟩], by simp⟩

namespace Document

/-- A value of a document is proper, and its text is a slice of the bytes. -/
theorem SpelledBy.exists_slice (spelled : document.SpelledBy bytes)
    (listed : value ∈ document.values) :
    value.IsProper ∧ ∃ earlier later, bytes = earlier ++ value.text ++ later := by
  obtain ⟨lexemes, trailing, spells, proper, -, rfl⟩ := spelled
  obtain ⟨derives, earlier, later, rfl⟩ := spells.exists_append listed
  have isProper : value.IsProper := ⟨derives, fun lexeme inside => proper lexeme (by simp [inside])⟩
  obtain ⟨blanks, -, whole⟩ := isProper.flatMap_spelling
  refine ⟨isProper, earlier.flatMap Lexeme.spelling ++ blanks,
    later.flatMap Lexeme.spelling ++ trailing, ?_⟩
  simp [whole]

end Document

end Switchboard.Json
