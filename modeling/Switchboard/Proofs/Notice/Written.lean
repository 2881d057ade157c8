import Switchboard.Notice
import Switchboard.Proofs.Json.Record

/-!
# What is written

A text is written as a string, a list of names as an array of strings, and an
object with its members as they are given. Nothing is written but lexemes
without blanks.

A value is found again from its text. So whatever has the text of a written
value is read like it.
-/

namespace Switchboard

open Json Text

variable {first later : List Lexeme} {value : Value} {text textLater : String}
  {texts : List String} {names : List Identity}

/-! ## Lexemes of a text -/

/-- The lexemes are proper, and their spelling is the text. -/
structure SpellsText (lexemes : List Lexeme) (text : String) : Prop where
  proper : ∀ lexeme ∈ lexemes, lexeme.IsProper
  spelling : lexemes.flatMap Lexeme.spelling = utf8 text

namespace SpellsText

theorem append (isFirst : SpellsText first text) (isLater : SpellsText later textLater) :
    SpellsText (first ++ later) (text ++ textLater) where
  proper := by
    rw [List.forall_mem_append]
    exact ⟨isFirst.proper, isLater.proper⟩
  spelling := by rw [List.flatMap_append, isFirst.spelling, isLater.spelling, utf8_append]

theorem singleton (token : Token) (proper : token.IsProper) (spelled : token.spelling = utf8 text) :
    SpellsText [⟨[], token⟩] text where
  proper := by simpa using ⟨nofun, proper⟩
  spelling := by rw [List.flatMap_singleton, ← spelled, Lexeme.spelling, List.nil_append]

/-- A mark is written as its byte. -/
theorem mark (kind : Mark) (spelled : [kind.byte] = utf8 text) :
    SpellsText [⟨[], .mark kind⟩] text :=
  singleton (.mark kind) trivial spelled

theorem bare (proper : value.IsProper) (written : value.text = utf8 text) :
    SpellsText value.bare text where
  proper := proper.bare.lexemes
  spelling := by rw [Value.flatMap_spelling_bare, written]

/-- A comma stands between two neighbours. -/
theorem join (isFirst : SpellsText first text) (isLater : SpellsText later textLater) :
    SpellsText (first ++ ⟨[], .mark .valueSeparator⟩ :: later) (text ++ "," ++ textLater) := by
  rw [String.append_assoc]
  exact isFirst.append ((mark .valueSeparator (by decide)).append isLater)

end SpellsText

/-! ## Strings -/

/-- A text is written as a string that denotes it. -/
theorem exists_string_quoted (text : String) :
    ∃ value : Value, value.IsProper ∧ value.text = utf8 (quoted text) ∧ value.IsString text := by
  obtain ⟨pieces, proper, denotes, spelled⟩ := exists_pieces_quoted text
  have spells : SpellsText [⟨[], .string pieces⟩] (quoted text) :=
    .singleton (.string pieces) proper spelled.symm
  exact ⟨_, ⟨.scalar rfl, spells.proper⟩, spells.spelling, [], pieces, rfl, denotes⟩

theorem isValueText_quoted (text : String) : IsValueText (utf8 (quoted text)) := by
  obtain ⟨value, proper, written, -⟩ := exists_string_quoted text
  exact ⟨value, proper, written.symm⟩

/-- What has the text of a written string is that string. -/
theorem isString_of_text_eq (proper : value.IsProper) (same : value.text = utf8 (quoted text)) :
    value.IsString text := by
  obtain ⟨other, properOther, written, isString⟩ := exists_string_quoted text
  have alike := proper.bare_eq_of_text_eq properOther (same.trans written.symm)
  rw [← Value.string?_eq_some_iff] at isString ⊢
  rw [← Value.string?_bare, alike, Value.string?_bare, isString]

/-! ## Lists of names -/

theorem strings?_eq_some_iff :
    value.strings? = some texts ↔
      ∃ elements, SpellsDocument value (.array elements) ∧
        List.Forall₂ Value.IsString elements texts := by
  simp only [Value.strings?, Option.bind_eq_some_iff, Value.elements?_eq_some_iff,
    mapM_eq_some_iff_forall₂, Value.string?_eq_some_iff]

/-- Strings are written one after the other, with commas between them. -/
theorem exists_spellsElements (texts : List String) (present : texts ≠ []) :
    ∃ content elements, SpellsElements content elements ∧
      SpellsText content (",".intercalate (texts.map quoted)) ∧
        List.Forall₂ Value.IsString elements texts := by
  induction texts with
  | nil => contradiction
  | cons text rest ih =>
      obtain ⟨value, proper, written, -⟩ := exists_string_quoted text
      have isString := isString_of_text_eq proper.bare (value.text_bare.trans written)
      have spells := SpellsText.bare proper written
      cases rest with
      | nil =>
          refine ⟨value.bare, [value.bare], .single proper.bare.derives, ?_, .cons isString .nil⟩
          rwa [List.map_singleton, String.intercalate_singleton]
      | cons next rest =>
          obtain ⟨content, elements, inner, spellsLater, areStrings⟩ :=
            ih (List.cons_ne_nil next rest)
          have joined := spells.join spellsLater
          rw [List.map_cons, ← String.intercalate_cons_cons] at joined
          exact ⟨_, value.bare :: elements, .several proper.bare.derives inner, joined,
            .cons isString areStrings⟩

/-- Names are written as an array of strings that denote them. -/
theorem exists_strings_writtenNames (names : List Identity) :
    ∃ value : Value, value.IsProper ∧ value.text = utf8 (Notice.writtenNames names) ∧
      value.strings? = some (names.map Identity.name) := by
  have opening : SpellsText [⟨[], .mark .beginArray⟩] "[" := .mark _ (by decide)
  have closing : SpellsText [⟨[], .mark .endArray⟩] "]" := .mark _ (by decide)
  cases names with
  | nil =>
      have spells : SpellsDocument [⟨[], .mark .beginArray⟩, ⟨[], .mark .endArray⟩] (.array []) :=
        .emptyArray
      have spelled := opening.append closing
      exact ⟨_, ⟨spells.derives, spelled.proper⟩, spelled.spelling,
        strings?_eq_some_iff.mpr ⟨[], spells, .nil⟩⟩
  | cons first rest =>
      obtain ⟨content, elements, inner, spelled, areStrings⟩ :=
        exists_spellsElements ((first :: rest).map Identity.name) (by simp)
      have spells : SpellsDocument
          (⟨[], .mark .beginArray⟩ :: content ++ [⟨[], .mark .endArray⟩]) (.array elements) :=
        .array inner
      have spelled := (opening.append spelled).append closing
      rw [List.map_map] at spelled
      exact ⟨_, ⟨spells.derives, spelled.proper⟩, spelled.spelling,
        strings?_eq_some_iff.mpr ⟨elements, spells, areStrings⟩⟩

theorem isValueText_writtenNames (names : List Identity) :
    IsValueText (utf8 (Notice.writtenNames names)) := by
  obtain ⟨value, proper, written, -⟩ := exists_strings_writtenNames names
  exact ⟨value, proper, written.symm⟩

/-- What has the text of written names is read as these names. -/
theorem strings?_of_text_eq (proper : value.IsProper)
    (same : value.text = utf8 (Notice.writtenNames names)) :
    value.strings? = some (names.map Identity.name) := by
  obtain ⟨other, properOther, written, read⟩ := exists_strings_writtenNames names
  have alike := proper.bare_eq_of_text_eq properOther (same.trans written.symm)
  rw [Value.strings?] at read ⊢
  rw [← Value.elements?_bare, alike, Value.elements?_bare, read]

/-! ## Objects -/

/-- A member of an object as it is written. -/
def writtenMember (member : String × String) : String :=
  quoted member.1 ++ ":" ++ member.2

/-- The value is given under the name of a written member, and has its text. -/
def Holds (given : String × Value) (member : String × String) : Prop :=
  given.1 = member.1 ∧ given.2.text = utf8 member.2

/-- A member is written as its name, a colon and its value. -/
theorem exists_member (member : String × String) (isValue : IsValueText (utf8 member.2)) :
    ∃ (name : List Piece) (value : Value), Denotes name member.1.toList ∧ Derives .value value ∧
      value.text = utf8 member.2 ∧
        SpellsText (⟨[], .string name⟩ :: ⟨[], .mark .nameSeparator⟩ :: value)
          (writtenMember member) := by
  obtain ⟨name, properName, denotes, spelled⟩ := exists_pieces_quoted member.1
  obtain ⟨value, proper, written⟩ := isValue
  have isName : SpellsText [⟨[], .string name⟩] (quoted member.1) :=
    .singleton (.string name) properName spelled.symm
  have colon : SpellsText [⟨[], .mark .nameSeparator⟩] ":" := .mark _ (by decide)
  exact ⟨name, value.bare, denotes, proper.bare.derives, value.text_bare.trans written.symm,
    (isName.append colon).append (.bare proper written.symm)⟩

/-- Members are written one after the other, with commas between them. -/
theorem exists_spellsMembers {members : List (String × String)} (present : members ≠ [])
    (areValues : ∀ member ∈ members, IsValueText (utf8 member.2)) :
    ∃ content spelled given, SpellsMembers content spelled ∧
      SpellsText content (",".intercalate (members.map writtenMember)) ∧
        List.Forall₂ Document.Names spelled given ∧ List.Forall₂ Holds given members := by
  induction members with
  | nil => contradiction
  | cons member rest ih =>
      rw [List.forall_mem_cons] at areValues
      obtain ⟨name, value, denotes, derives, written, spells⟩ := exists_member member areValues.1
      cases rest with
      | nil =>
          rw [← String.intercalate_singleton (s := ",") (t := writtenMember member)] at spells
          exact ⟨_, [(name, value)], [(member.1, value)], .single derives, spells,
            .cons ⟨denotes, rfl⟩ .nil, .cons ⟨rfl, written⟩ .nil⟩
      | cons next rest =>
          obtain ⟨content, spelled, given, inner, spellsLater, named, hold⟩ :=
            ih (List.cons_ne_nil next rest) areValues.2
          have joined := spells.join spellsLater
          rw [List.map_cons, ← String.intercalate_cons_cons] at joined
          exact ⟨_, (name, value) :: spelled, (member.1, value) :: given, .several derives inner,
            joined, .cons ⟨denotes, rfl⟩ named, .cons ⟨rfl, written⟩ hold⟩

/-- A written object spells a document that gives the written values under
their names. -/
theorem exists_gives_writtenObject {members : List (String × String)} (present : members ≠ [])
    (areValues : ∀ member ∈ members, IsValueText (utf8 member.2)) (fields : List String) :
    ∃ (document : Document) (given : List (String × Value)),
      document.SpelledBy (utf8 (Notice.writtenObject members)) ∧
        document.Gives fields given ∧ List.Forall₂ Holds given members := by
  obtain ⟨content, spelled, given, inner, spells, named, hold⟩ :=
    exists_spellsMembers present areValues
  have opening : SpellsText [⟨[], .mark .beginObject⟩] "\x7b" := .mark _ (by decide)
  have closing : SpellsText [⟨[], .mark .endObject⟩] "\x7d" := .mark _ (by decide)
  have whole := (opening.append spells).append closing
  refine ⟨.object spelled, given, ⟨_, [], .object inner, whole.proper, nofun, ?_⟩, named, hold⟩
  rw [List.append_nil]
  exact whole.spelling.symm

/-- The record holds the values of written members, each under its name. -/
structure IsRecordOf (members : List (String × String)) (record : Record) : Prop where
  once : (record.map Prod.fst).Nodup
  proper : ∀ member ∈ record, member.2.IsProper
  written : List.Forall₂ Holds record members

/-- A written object is read as a record of what is written, if nothing but fields
is written, and each at most once. -/
theorem exists_isRecordOf {members : List (String × String)} {fields : List String}
    (present : members ≠ []) (areValues : ∀ member ∈ members, IsValueText (utf8 member.2))
    (distinct : fields.Nodup) (areFields : members.map Prod.fst ⊆ fields)
    (once : (members.map Prod.fst).Nodup) :
    ∃ record, Record.read? fields (utf8 (Notice.writtenObject members)) = some record ∧
      IsRecordOf members record := by
  obtain ⟨document, given, spelled, gives, hold⟩ :=
    exists_gives_writtenObject present areValues fields
  have names : given.map Prod.fst = members.map Prod.fst := by
    rw [← List.forall₂_eq_eq_eq, List.forall₂_map_left_iff, List.forall₂_map_right_iff]
    exact hold.imp fun _ _ holds => holds.1
  rw [← names] at areFields once
  have all : Record.known fields given = given := by
    rw [Record.known, List.filter_eq_self]
    intro member listed
    simpa using areFields (List.mem_map_of_mem listed)
  refine ⟨given, (Record.read?_eq_some_iff distinct).mpr
    ⟨document, given, spelled, gives, all.symm, once⟩, once, ?_, hold⟩
  exact fun member listed => (spelled.exists_slice (gives.mem_values listed)).1

namespace IsRecordOf

variable {α : Type} {members : List (String × String)} {record : Record}
  {read? : Value → Option α} {field : String}

theorem exists_value (isRecord : IsRecordOf members record) {text : String}
    (listed : (field, text) ∈ members) :
    ∃ value, (field, value) ∈ record ∧ value.IsProper ∧ value.text = utf8 text := by
  obtain ⟨⟨name, value⟩, inRecord, rfl, same⟩ := exists_of_mem_right isRecord.written listed
  exact ⟨value, inRecord, isRecord.proper _ inRecord, same⟩

theorem exists_text (isRecord : IsRecordOf members record) {value : Value}
    (listed : (field, value) ∈ record) : ∃ text, (field, text) ∈ members := by
  obtain ⟨⟨name, text⟩, isMember, rfl, _⟩ := exists_of_mem_left isRecord.written listed
  exact ⟨text, isMember⟩

/-- A string that is always written is read as it is. -/
theorem required?_eq_some (isRecord : IsRecordOf members record) {text : String}
    (listed : (field, quoted text) ∈ members) :
    record.required? Value.string? field = some text := by
  obtain ⟨value, inRecord, proper, same⟩ := isRecord.exists_value listed
  rw [Record.required?_eq_some_iff isRecord.once]
  exact ⟨value, inRecord, Value.string?_eq_some_iff.mpr (isString_of_text_eq proper same)⟩

/-- A field that is written whenever it is present is read as it is. -/
theorem optional?_eq_some (isRecord : IsRecordOf members record) (write : α → String)
    {content : Option α}
    (listed : ∀ text, (field, text) ∈ members ↔ ∃ value ∈ content, text = write value)
    (reads : ∀ (value : Value), ∀ present ∈ content, value.IsProper →
      value.text = utf8 (write present) → ¬value.IsNull ∧ read? value = some present) :
    record.optional? read? field = some content := by
  cases content with
  | none =>
      rw [Record.optional?_eq_some_none_iff isRecord.once]
      intro value inRecord
      obtain ⟨text, isMember⟩ := isRecord.exists_text inRecord
      obtain ⟨_, absent, _⟩ := (listed text).mp isMember
      contradiction
  | some present =>
      rw [Record.optional?_eq_some_some_iff isRecord.once]
      obtain ⟨value, inRecord, proper, same⟩ :=
        isRecord.exists_value ((listed (write present)).mpr ⟨present, rfl, rfl⟩)
      obtain ⟨notNull, read⟩ := reads value present rfl proper same
      exact ⟨value, inRecord, notNull, read⟩

/-- A string that is written whenever it is present is read as it is. -/
theorem optional?_string_eq_some (isRecord : IsRecordOf members record) {content : Option String}
    (listed : ∀ text, (field, text) ∈ members ↔ ∃ value ∈ content, text = quoted value) :
    record.optional? Value.string? field = some content := by
  refine isRecord.optional?_eq_some quoted listed fun value present _ proper same => ?_
  have isString := isString_of_text_eq proper same
  exact ⟨isString.not_isNull, Value.string?_eq_some_iff.mpr isString⟩

end IsRecordOf

end Switchboard
