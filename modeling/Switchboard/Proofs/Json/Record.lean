import Mathlib.Data.List.Forall2
import Mathlib.Data.List.Nodup
import Switchboard.Proofs.Json.Document
import Switchboard.Proofs.Lookup

/-!
# What documents give to records

An object gives its values under the names that its members denote, and an
array gives them under the fields, position by position. A record keeps what
is given for the fields, provided that no field is given twice.
-/

namespace Switchboard.Json

open Switchboard.Text

/-- A list is mapped if each of its elements is. -/
theorem mapM_eq_some_iff_forall₂ {α β : Type} {f : α → Option β} {list : List α}
    {results : List β} :
    list.mapM f = some results ↔
      List.Forall₂ (fun element result => f element = some result) list results := by
  induction list generalizing results with
  | nil => simp [eq_comm]
  | cons element rest ih =>
      simp only [List.mapM_cons, Option.bind_eq_bind, Option.bind_eq_some_iff, ih,
        List.forall₂_cons_left_iff, Option.pure_def, Option.some.injEq]
      constructor
      · rintro ⟨result, found, others, matching, rfl⟩
        exact ⟨result, others, found, matching, rfl⟩
      · rintro ⟨result, others, found, matching, rfl⟩
        exact ⟨result, found, others, matching, rfl⟩

/-- Each element of one list is related to one of the other. -/
theorem exists_of_mem_right {α β : Type} {related : α → β → Prop} {first : List α}
    {second : List β} (matching : List.Forall₂ related first second) {right : β}
    (listed : right ∈ second) : ∃ left ∈ first, related left right := by
  induction matching with
  | nil => contradiction
  | @cons left _ _ _ isRelated _ ih =>
      rcases List.mem_cons.mp listed with rfl | later
      · exact ⟨left, List.mem_cons_self, isRelated⟩
      · obtain ⟨other, inFirst, isRelated⟩ := ih later
        exact ⟨other, List.mem_cons_of_mem _ inFirst, isRelated⟩

theorem exists_of_mem_left {α β : Type} {related : α → β → Prop} {first : List α}
    {second : List β} (matching : List.Forall₂ related first second) {left : α}
    (listed : left ∈ first) : ∃ right ∈ second, related left right :=
  exists_of_mem_right matching.flip listed

variable {fields : List String} {field : String} {document : Document} {value : Value}
  {given : List (String × Value)} {record : Record} {bytes : Bytes} {α : Type}
  {read? : Value → Option α}

namespace Document

/-- A member of an object gives its value under the name that it denotes. -/
def Names (member : List Piece × Value) (given : String × Value) : Prop :=
  Denotes member.1 given.1.toList ∧ member.2 = given.2

/-- The document gives values for names, in its own order. -/
def Gives (fields : List String) (given : List (String × Value)) : Document → Prop
  | object members => List.Forall₂ Names members given
  | array elements => elements.length ≤ fields.length ∧ given = fields.zip elements

/-- Only values of the document are given. -/
theorem Gives.mem_values (gives : document.Gives fields given) {name : String}
    (listed : (name, value) ∈ given) : value ∈ document.values := by
  cases document with
  | object members =>
      obtain ⟨member, inMembers, _, same⟩ := exists_of_mem_right gives listed
      exact List.mem_map.mpr ⟨member, inMembers, same⟩
  | array elements =>
      obtain ⟨-, rfl⟩ := gives
      exact (List.of_mem_zip listed).2

end Document

namespace Record

/-- What is given for the fields. -/
def known (fields : List String) (given : List (String × Value)) : Record :=
  given.filter fun (name, _) => name ∈ fields

theorem mem_known_iff (isField : field ∈ fields) :
    (field, value) ∈ known fields given ↔ (field, value) ∈ given := by
  simp [known, isField]

theorem map_fst_zip_sublist (fields : List String) (elements : List Value) :
    ((fields.zip elements).map Prod.fst).Sublist fields := by
  induction fields generalizing elements with
  | nil => simp
  | cons field fields ih =>
      cases elements with
      | nil => simp
      | cons element elements => exact (ih elements).cons_cons field

/-- Positions give nothing but fields. -/
theorem known_zip (fields : List String) (elements : List Value) :
    known fields (fields.zip elements) = fields.zip elements := by
  rw [known, List.filter_eq_self]
  rintro ⟨name, value⟩ listed
  simpa using (List.of_mem_zip listed).1

/-- Names are read exactly if each of them denotes a text. -/
theorem mapM_denotation?_eq_some_iff {members : List (List Piece × Value)} :
    (members.mapM fun member => (denotation? member.1).map (·, member.2)) = some given ↔
      List.Forall₂ Document.Names members given := by
  rw [mapM_eq_some_iff_forall₂]
  have pointwise (member : List Piece × Value) (result : String × Value) :
      (denotation? member.1).map (·, member.2) = some result ↔ Document.Names member result := by
    rw [Option.map_eq_some_iff, Document.Names, ← denotation?_eq_some_iff]
    constructor
    · rintro ⟨name, denotes, rfl⟩
      exact ⟨denotes, rfl⟩
    · rintro ⟨denotes, same⟩
      exact ⟨result.1, denotes, by rw [same]⟩
  simp only [pointwise]

/-- A record is what its document gives for the fields, each at most once. -/
theorem ofDocument?_eq_some_iff (distinct : fields.Nodup) :
    ofDocument? fields document = some record ↔
      ∃ given, document.Gives fields given ∧ record = known fields given ∧
        (record.map Prod.fst).Nodup := by
  cases document with
  | object members =>
      have unfolded : ofDocument? fields (.object members) =
          (members.mapM fun member => (denotation? member.1).map (·, member.2)).bind fun given =>
            if ((known fields given).map Prod.fst).Nodup then some (known fields given) else none :=
        rfl
      rw [unfolded, Option.bind_eq_some_iff]
      refine exists_congr fun given => ?_
      rw [mapM_denotation?_eq_some_iff, Option.ite_none_right_eq_some, Option.some.injEq]
      constructor
      · rintro ⟨gives, once, rfl⟩
        exact ⟨gives, rfl, once⟩
      · rintro ⟨gives, rfl, once⟩
        exact ⟨gives, once, rfl⟩
  | array elements =>
      have once := (map_fst_zip_sublist fields elements).nodup distinct
      rw [ofDocument?, Option.ite_none_right_eq_some, Option.some.injEq]
      constructor
      · rintro ⟨short, rfl⟩
        exact ⟨_, ⟨short, rfl⟩, (known_zip fields elements).symm, once⟩
      · rintro ⟨_, ⟨short, rfl⟩, rfl, -⟩
        exact ⟨short, (known_zip fields elements).symm⟩

/-- A text is read as a record of what it gives for the fields, each at most
once. -/
theorem read?_eq_some_iff (distinct : fields.Nodup) :
    Record.read? fields bytes = some record ↔
      ∃ (document : Document) (given : List (String × Value)), document.SpelledBy bytes ∧
        document.Gives fields given ∧ record = known fields given ∧
          (record.map Prod.fst).Nodup := by
  simp only [Record.read?, Option.bind_eq_some_iff, Document.read?_eq_some_iff,
    ofDocument?_eq_some_iff distinct, exists_and_left]

/-- The values of a record are proper. -/
theorem isProper_of_read? (distinct : fields.Nodup)
    (read : Record.read? fields bytes = some record) {name : String}
    (listed : (name, value) ∈ record) : value.IsProper := by
  obtain ⟨document, given, spelled, gives, rfl, -⟩ := (read?_eq_some_iff distinct).mp read
  exact (spelled.exists_slice (gives.mem_values (List.mem_of_mem_filter listed))).1

/-! ## Skipped members -/

/-- Two members have the same name, and the same value too if it names a field. -/
def Alike (fields : List String) (first second : List Piece × Value) : Prop :=
  first.1 = second.1 ∧ ∀ field ∈ fields, Denotes first.1 field.toList → first.2 = second.2

theorem Alike.symm {first second : List Piece × Value} (alike : Alike fields first second) :
    Alike fields second first :=
  ⟨alike.1.symm, fun field isField denotes =>
    (alike.2 field isField (alike.1 ▸ denotes)).symm⟩

/-- Alike members give the same values for the fields. -/
theorem exists_given_of_alike {members others : List (List Piece × Value)}
    (alike : List.Forall₂ (Alike fields) members others)
    (named : List.Forall₂ Document.Names members given) :
    ∃ givenOther, List.Forall₂ Document.Names others givenOther ∧
      known fields givenOther = known fields given := by
  induction alike generalizing given with
  | nil =>
      cases named
      exact ⟨[], .nil, rfl⟩
  | @cons member other _ _ isAlike _ ih =>
      cases named with
      | @cons _ first _ rest names namedLater =>
          obtain ⟨later, namedOther, same⟩ := ih namedLater
          refine ⟨(first.1, other.2) :: later, .cons ⟨isAlike.1 ▸ names.1, rfl⟩ namedOther, ?_⟩
          rw [known] at same ⊢
          rw [known, List.filter_cons, List.filter_cons, same, known]
          by_cases isField : first.1 ∈ fields
          · rw [← isAlike.2 _ isField names.1, names.2]
          · simp [isField]

/-- Texts of alike members are read as the same record. -/
theorem read?_eq_of_alike {members others : List (List Piece × Value)} {other : Bytes}
    (distinct : fields.Nodup) (alike : List.Forall₂ (Alike fields) members others)
    (spelled : (Document.object members).SpelledBy bytes)
    (spelledOther : (Document.object others).SpelledBy other) :
    Record.read? fields bytes = Record.read? fields other := by
  have oneWay {members others : List (List Piece × Value)} {bytes other : Bytes} {record : Record}
      (alike : List.Forall₂ (Alike fields) members others)
      (spelled : (Document.object members).SpelledBy bytes)
      (spelledOther : (Document.object others).SpelledBy other)
      (read : Record.read? fields bytes = some record) :
      Record.read? fields other = some record := by
    rw [read?_eq_some_iff distinct] at read ⊢
    obtain ⟨document, given, spelled', gives, rfl, once⟩ := read
    cases spelled'.unique spelled
    obtain ⟨givenOther, named, same⟩ := exists_given_of_alike alike gives
    exact ⟨_, givenOther, spelledOther, named, same.symm, once⟩
  have alikeBack : List.Forall₂ (Alike fields) others members :=
    (alike.imp fun _ _ => Alike.symm).flip
  exact Option.ext fun record =>
    ⟨oneWay alike spelled spelledOther, oneWay alikeBack spelledOther spelled⟩

/-! ## Fields -/

/-- A field that has to be given is read from the value given for it. -/
theorem required?_eq_some_iff {read? : Value → Option α} {result : α}
    (once : (record.map Prod.fst).Nodup) :
    record.required? read? field = some result ↔
      ∃ value, (field, value) ∈ record ∧ read? value = some result := by
  simp only [required?, Option.bind_eq_some_iff, lookup_eq_some_iff once]

theorem isSome_required?_iff (once : (record.map Prod.fst).Nodup) :
    (record.required? read? field).isSome = true ↔
      field ∈ record.map Prod.fst ∧
        ∀ value, (field, value) ∈ record → (read? value).isSome = true := by
  cases found : record.lookup field with
  | none =>
      have absent := lookup_eq_none_iff.mp found
      simp [required?, found, absent]
  | some value =>
      have listed := (lookup_eq_some_iff once).mp found
      have only (other : Value) : (field, other) ∈ record ↔ value = other := by
        rw [← lookup_eq_some_iff once, found, Option.some.injEq]
      have named : field ∈ record.map Prod.fst := List.mem_map_of_mem listed
      simp [required?, found, only, named]

/-- A field that may be left out is absent, or is read from the value given for
it. -/
theorem optional?_cases (once : (record.map Prod.fst).Nodup) (read? : Value → Option α)
    (field : String) :
    (∀ value, (field, value) ∉ record) ∧ record.optional? read? field = some none ∨
      ∃ value, (∀ other, (field, other) ∈ record ↔ other = value) ∧
        record.optional? read? field = value.optional? read? := by
  cases found : record.lookup field with
  | none => exact .inl ⟨lookup_eq_none_iff.mp found, by rw [optional?, found]⟩
  | some value =>
      refine .inr ⟨value, fun other => ?_, by rw [optional?, found]⟩
      rw [← lookup_eq_some_iff once, found, Option.some.injEq, eq_comm]

/-- A field that may be left out is read as absent if it is given as `null` at
most. -/
theorem optional?_eq_some_none_iff (once : (record.map Prod.fst).Nodup) :
    record.optional? read? field = some none ↔
      ∀ value, (field, value) ∈ record → value.IsNull := by
  obtain ⟨absent, read⟩ | ⟨value, only, read⟩ := optional?_cases once read? field
  · simp [read, absent]
  · simp [read, only, Value.optional?_eq_some_none_iff]

theorem optional?_eq_some_some_iff {result : α} (once : (record.map Prod.fst).Nodup) :
    record.optional? read? field = some (some result) ↔
      ∃ value, (field, value) ∈ record ∧ ¬value.IsNull ∧ read? value = some result := by
  obtain ⟨absent, read⟩ | ⟨value, only, read⟩ := optional?_cases once read? field
  · simp [read, absent]
  · simp [read, only, Value.optional?_eq_some_some_iff]

theorem isSome_optional?_iff (once : (record.map Prod.fst).Nodup) :
    (record.optional? read? field).isSome = true ↔
      ∀ value, (field, value) ∈ record → value.IsNull ∨ (read? value).isSome = true := by
  obtain ⟨absent, read⟩ | ⟨value, only, read⟩ := optional?_cases once read? field
  · simp [read, absent]
  · simp [read, only, Value.isSome_optional?_iff]

end Record

end Switchboard.Json
