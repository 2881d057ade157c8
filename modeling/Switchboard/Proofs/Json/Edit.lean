import Mathlib.Data.List.Perm.Basic
import Switchboard.Proofs.Json.Record

/-!
# Edits that a record does not notice

The same record can be given in many ways. The members of an object may stand
in any order, their names may be spelled with escapes, members without a field
may come and go, a field may be given as `null` or not at all, and positions may
stand for names. Each of these is an edit, and the records of an edited
document agree, field by field.
-/

namespace Switchboard.Json

open Switchboard.Text

variable {fields : List String} {field : String} {given changed : List (String × Value)}
  {related : String → Value → Value → Prop}

/-! ## Edits -/

namespace Document

/-- Two members have names with the same meaning, and related values if that
names a field. -/
def Corresponds (fields : List String) (related : String → Value → Value → Prop)
    (first second : List Piece × Value) : Prop :=
  (∀ text, Denotes first.1 text ↔ Denotes second.1 text) ∧
    ∀ field ∈ fields, Denotes first.1 field.toList → related field first.2 second.2

/-- The single edits of a document. The values of fields may be exchanged for
related ones. -/
inductive Edit (fields : List String) (related : String → Value → Value → Prop) :
    Document → Document → Prop
  | permuted {members others : List (List Piece × Value)} (sameMembers : members.Perm others) :
      Edit fields related (.object members) (.object others)
  | respelled {members others : List (List Piece × Value)}
      (corresponding : List.Forall₂ (Corresponds fields related) members others) :
      Edit fields related (.object members) (.object others)
  /-- Any member is added whose name is no field. -/
  | added {members : List (List Piece × Value)} {member : List Piece × Value} {name : String}
      (denotes : Denotes member.1 name.toList) (unknown : name ∉ fields) :
      Edit fields related (.object members) (.object (member :: members))
  /-- What is not given is given as `null`. -/
  | nullified {members : List (List Piece × Value)} {member : List Piece × Value} {name : String}
      (denotes : Denotes member.1 name.toList) (isNull : member.2.IsNull)
      (absent : ∀ other ∈ members, ¬Denotes other.1 name.toList) :
      Edit fields related (.object members) (.object (member :: members))
  /-- The last position is left out if it is given as `null`. -/
  | shortened {elements : List Value} {last : Value} (isNull : last.IsNull)
      (short : elements.length < fields.length) :
      Edit fields related (.array (elements ++ [last])) (.array elements)
  /-- Positions are exchanged for names. -/
  | named {elements : List Value} {names : List (List Piece)}
      (denote : List.Forall₂ (fun name field => Denotes name field.toList) names fields)
      (short : elements.length ≤ fields.length) :
      Edit fields related (.array elements) (.object (names.zip elements))

end Document

/-! ## Agreement of records -/

namespace Record

variable {first second : Record}

/-- What two records hold for a field is the same, or related, or one of them
holds `null` and the other nothing. -/
inductive Similar (related : String → Value → Value → Prop) (field : String) :
    Option Value → Option Value → Prop
  | same {found : Option Value} : Similar related field found found
  | changed {value other : Value} (isRelated : related field value other) :
      Similar related field (some value) (some other)
  | appeared {value : Value} (isNull : value.IsNull) : Similar related field none (some value)
  | vanished {value : Value} (isNull : value.IsNull) : Similar related field (some value) none

/-- The records are similar in every field. -/
def Agree (related : String → Value → Value → Prop) (first second : Record) : Prop :=
  ∀ field, Similar related field (first.lookup field) (second.lookup field)

/-- What is given for the fields is similar, and in both cases or in neither it
is given at most once. -/
structure Interchangeable (fields : List String) (related : String → Value → Value → Prop)
    (given changed : List (String × Value)) : Prop where
  nodup_iff : ((known fields given).map Prod.fst).Nodup ↔
    ((known fields changed).map Prod.fst).Nodup
  agree : ((known fields given).map Prod.fst).Nodup →
    Agree related (known fields given) (known fields changed)

theorem Interchangeable.of_known_eq (same : known fields changed = known fields given) :
    Interchangeable fields related given changed where
  nodup_iff := by rw [same]
  agree _ field := by
    rw [same]
    exact .same

theorem ofDocument?_of_gives {document : Document} (distinct : fields.Nodup)
    (gives : document.Gives fields given) :
    ofDocument? fields document =
      if ((known fields given).map Prod.fst).Nodup then some (known fields given) else none := by
  cases document with
  | object members =>
      have read := mapM_denotation?_eq_some_iff.mpr gives
      rw [ofDocument?, Option.bind_eq_bind, read, Option.bind_some]
      rfl
  | array elements =>
      obtain ⟨short, rfl⟩ := gives
      rw [ofDocument?, if_pos short, known_zip,
        if_pos ((map_fst_zip_sublist fields elements).nodup distinct)]

/-- The records of documents are related if what the documents give is, and is
given at most once in both cases or in neither. -/
theorem rel_ofDocument?_of_gives {document other : Document} {alike : Record → Record → Prop}
    (distinct : fields.Nodup)
    (forward : ∀ given, document.Gives fields given → ∃ changed, other.Gives fields changed ∧
      (((known fields given).map Prod.fst).Nodup ↔ ((known fields changed).map Prod.fst).Nodup) ∧
      (((known fields given).map Prod.fst).Nodup →
        alike (known fields given) (known fields changed)))
    (backward : ∀ changed, other.Gives fields changed → ∃ given, document.Gives fields given) :
    Option.Rel alike (ofDocument? fields document) (ofDocument? fields other) := by
  by_cases readable : ∃ given, document.Gives fields given
  · obtain ⟨given, gives⟩ := readable
    obtain ⟨changed, givesOther, sameOnce, isAlike⟩ := forward given gives
    rw [ofDocument?_of_gives distinct gives, ofDocument?_of_gives distinct givesOther]
    by_cases once : ((known fields given).map Prod.fst).Nodup
    · rw [if_pos once, if_pos (sameOnce.mp once)]
      exact .some (isAlike once)
    · rw [if_neg once, if_neg (mt sameOnce.mpr once)]
      exact .none
  · have unread {document : Document} (nothing : ¬∃ given, document.Gives fields given) :
        ofDocument? fields document = none := by
      rw [Option.eq_none_iff_forall_ne_some]
      intro record found
      obtain ⟨given, gives, _⟩ := (ofDocument?_eq_some_iff distinct).mp found
      exact nothing ⟨given, gives⟩
    have unreadOther : ¬∃ changed, other.Gives fields changed :=
      fun ⟨changed, gives⟩ => readable (backward changed gives)
    rw [unread readable, unread unreadOther]
    exact .none

/-- The records of documents agree if what the documents give is
interchangeable. -/
theorem rel_ofDocument? {document other : Document} (distinct : fields.Nodup)
    (forward : ∀ given, document.Gives fields given →
      ∃ changed, other.Gives fields changed ∧ Interchangeable fields related given changed)
    (backward : ∀ changed, other.Gives fields changed → ∃ given, document.Gives fields given) :
    Option.Rel (Agree related) (ofDocument? fields document) (ofDocument? fields other) := by
  refine rel_ofDocument?_of_gives distinct (fun given gives => ?_) backward
  obtain ⟨changed, givesOther, interchangeable⟩ := forward given gives
  exact ⟨changed, givesOther, interchangeable.nodup_iff, interchangeable.agree⟩

/-! ## One edit -/

theorem interchangeable_of_perm (sameGiven : given.Perm changed) :
    Interchangeable fields related given changed := by
  have sameKnown : (known fields given).Perm (known fields changed) := sameGiven.filter _
  have sameNames := (sameKnown.map Prod.fst).nodup_iff
  refine ⟨sameNames, fun once field => ?_⟩
  have sameFound : (known fields given).lookup field = (known fields changed).lookup field := by
    apply Option.ext
    intro value
    rw [lookup_eq_some_iff once, lookup_eq_some_iff (sameNames.mp once), sameKnown.mem_iff]
  rw [sameFound]
  exact .same

theorem known_cons (name : String) (value : Value) (given : List (String × Value)) :
    known fields ((name, value) :: given) =
      if name ∈ fields then (name, value) :: known fields given else known fields given := by
  by_cases isField : name ∈ fields <;> simp [known, isField]

/-- Given values that correspond are exchanged for each other under the same
names, field by field. -/
theorem forall₂_known (corresponding : List.Forall₂ (fun before after : String × Value =>
      before.1 = after.1 ∧ (before.1 ∈ fields → related before.1 before.2 after.2)) given changed) :
    List.Forall₂ (fun before after => before.1 = after.1 ∧ related before.1 before.2 after.2)
      (known fields given) (known fields changed) := by
  induction corresponding with
  | nil => exact .nil
  | @cons before after _ _ isRelated _ ih =>
      rcases before with ⟨name, value⟩
      rcases after with ⟨_, other⟩
      obtain ⟨rfl, isRelated⟩ := isRelated
      rw [known_cons, known_cons]
      by_cases isField : name ∈ fields
      · rw [if_pos isField, if_pos isField]
        exact .cons ⟨rfl, isRelated isField⟩ ih
      · rw [if_neg isField, if_neg isField]
        exact ih

theorem map_fst_eq_of_forall₂ (exchanged : List.Forall₂ (fun before after : String × Value =>
      before.1 = after.1 ∧ related before.1 before.2 after.2) first second) :
    first.map Prod.fst = second.map Prod.fst := by
  rw [← List.forall₂_eq_eq_eq, List.forall₂_map_left_iff, List.forall₂_map_right_iff]
  exact exchanged.imp fun _ _ isRelated => isRelated.1

/-- What is found for a field has been exchanged for a related value. -/
theorem rel_lookup (exchanged : List.Forall₂ (fun before after : String × Value =>
      before.1 = after.1 ∧ related before.1 before.2 after.2) first second) (field : String) :
    Option.Rel (related field) (first.lookup field) (second.lookup field) := by
  induction exchanged with
  | nil => exact .none
  | @cons before after _ _ isRelated _ ih =>
      rcases before with ⟨name, value⟩
      rcases after with ⟨_, other⟩
      obtain ⟨rfl, isRelated⟩ := isRelated
      rw [List.lookup_cons, List.lookup_cons]
      cases isNamed : field == name with
      | false => exact ih
      | true =>
          cases eq_of_beq isNamed
          exact .some isRelated

/-- The values given for the fields are exchanged for related ones. -/
theorem interchangeable_of_forall₂
    (corresponding : List.Forall₂ (fun before after : String × Value =>
      before.1 = after.1 ∧ (before.1 ∈ fields → related before.1 before.2 after.2)) given changed) :
    Interchangeable fields related given changed := by
  have exchanged := forall₂_known corresponding
  constructor
  · rw [map_fst_eq_of_forall₂ exchanged]
  · intro _ field
    have found := rel_lookup exchanged field
    generalize (known fields given).lookup field = before at found ⊢
    generalize (known fields changed).lookup field = after at found ⊢
    cases found with
    | none => exact .same
    | some isRelated => exact .changed isRelated

theorem interchangeable_cons_null {name : String} {value : Value} (isNull : value.IsNull)
    (absent : name ∉ given.map Prod.fst) :
    Interchangeable fields related given ((name, value) :: given) := by
  by_cases isField : name ∈ fields
  · have kept : known fields ((name, value) :: given) = (name, value) :: known fields given := by
      rw [known_cons, if_pos isField]
    have notKept : name ∉ (known fields given).map Prod.fst :=
      fun listed => absent ((List.filter_sublist.map Prod.fst).subset listed)
    constructor
    · rw [kept, List.map_cons, List.nodup_cons, and_iff_right notKept]
    · intro _ field
      rw [kept, List.lookup_cons]
      cases isNamed : field == name with
      | false => exact .same
      | true =>
          cases eq_of_beq isNamed
          have nothing : (known fields given).lookup name = none :=
            lookup_eq_none_iff.mpr fun value listed => notKept (List.mem_map_of_mem listed)
          rw [nothing]
          exact .appeared isNull
  · exact .of_known_eq (by rw [known_cons, if_neg isField])

theorem zip_concat {elements : List Value} (last : Value)
    (short : elements.length < fields.length) :
    fields.zip (elements ++ [last]) =
      fields.zip elements ++ [(fields[elements.length], last)] := by
  induction elements generalizing fields with
  | nil =>
      cases fields with
      | nil => contradiction
      | cons field fields => simp
  | cons element elements ih =>
      cases fields with
      | nil => contradiction
      | cons field fields => simpa using ih (Nat.lt_of_succ_lt_succ short)

/-- A last position that is `null` gives no more than a position that is left
out. -/
theorem interchangeable_zip_concat_null {elements : List Value} {last : Value}
    (distinct : fields.Nodup) (isNull : last.IsNull) (short : elements.length < fields.length) :
    Interchangeable fields related (fields.zip (elements ++ [last])) (fields.zip elements) := by
  have once (elements : List Value) :
      ((known fields (fields.zip elements)).map Prod.fst).Nodup := by
    rw [known_zip]
    exact (map_fst_zip_sublist fields elements).nodup distinct
  refine ⟨iff_of_true (once _) (once _), fun _ field => ?_⟩
  rw [known_zip, known_zip, zip_concat last short, List.lookup_append]
  cases found : (fields.zip elements).lookup field with
  | some value => exact .same
  | none =>
      rw [Option.none_or, List.lookup_cons]
      cases field == fields[elements.length] with
      | false => exact .same
      | true => exact .vanished isNull

end Record

namespace Document

theorem Corresponds.symm {first second : List Piece × Value}
    (corresponds : Corresponds fields related first second) :
    Corresponds fields (fun field value other => related field other value) second first :=
  ⟨fun text => (corresponds.1 text).symm,
    fun field isField denotes => corresponds.2 field isField ((corresponds.1 _).mpr denotes)⟩

/-- Corresponding members give values under the same names. -/
theorem exists_given_of_corresponding {members others : List (List Piece × Value)}
    (corresponding : List.Forall₂ (Corresponds fields related) members others)
    (gives : List.Forall₂ Names members given) :
    ∃ changed, List.Forall₂ Names others changed ∧
      List.Forall₂ (fun before after : String × Value =>
        before.1 = after.1 ∧ (before.1 ∈ fields → related before.1 before.2 after.2))
        given changed := by
  induction corresponding generalizing given with
  | nil =>
      cases gives
      exact ⟨[], .nil, .nil⟩
  | @cons member other _ _ corresponds _ ih =>
      cases gives with
      | @cons _ first _ _ names givesLater =>
          obtain ⟨later, namesLater, relatedLater⟩ := ih givesLater
          obtain ⟨denotes, same⟩ := names
          refine ⟨(first.1, other.2) :: later,
            .cons ⟨(corresponds.1 _).mp denotes, rfl⟩ namesLater, .cons ⟨rfl, ?_⟩ relatedLater⟩
          intro isField
          rw [← same]
          exact corresponds.2 _ isField denotes

theorem exists_given_before {members others : List (List Piece × Value)}
    (corresponding : List.Forall₂ (Corresponds fields related) members others)
    (gives : List.Forall₂ Names others changed) : ∃ given, List.Forall₂ Names members given := by
  have back : List.Forall₂
      (Corresponds fields fun field value other => related field other value) others members :=
    (corresponding.imp fun _ _ => Corresponds.symm).flip
  obtain ⟨given, namesGiven, _⟩ := exists_given_of_corresponding back gives
  exact ⟨given, namesGiven⟩

/-- The records of objects whose members correspond hold related values under
the same names. -/
theorem rel_ofDocument?_of_corresponding {members others : List (List Piece × Value)}
    (distinct : fields.Nodup)
    (corresponding : List.Forall₂ (Corresponds fields related) members others) :
    Option.Rel (List.Forall₂ fun before after => before.1 = after.1 ∧
        related before.1 before.2 after.2)
      (Record.ofDocument? fields (.object members))
      (Record.ofDocument? fields (.object others)) := by
  apply Record.rel_ofDocument?_of_gives distinct
  · intro given gives
    obtain ⟨changed, givesOther, relatedGiven⟩ :=
      exists_given_of_corresponding corresponding gives
    have exchanged := Record.forall₂_known relatedGiven
    have sameNames := Record.map_fst_eq_of_forall₂ exchanged
    exact ⟨changed, givesOther, by rw [sameNames], fun _ => exchanged⟩
  · intro changed gives
    exact exists_given_before corresponding gives

theorem names_zip {names : List (List Piece)} (elements : List Value)
    (denote : List.Forall₂ (fun name field => Denotes name field.toList) names fields) :
    List.Forall₂ Names (names.zip elements) (fields.zip elements) := by
  induction denote generalizing elements with
  | nil => exact .nil
  | cons denotes _ ih =>
      cases elements with
      | nil => exact .nil
      | cons element elements => exact .cons ⟨denotes, rfl⟩ (ih elements)

/-- The records of an edited document agree with those of the document. -/
theorem Edit.rel_ofDocument? {document other : Document} (edit : document.Edit fields related other)
    (distinct : fields.Nodup) :
    Option.Rel (Record.Agree related) (Record.ofDocument? fields document)
      (Record.ofDocument? fields other) := by
  cases edit with
  | permuted sameMembers =>
      refine Record.rel_ofDocument? distinct (fun given gives => ?_) (fun changed gives => ?_)
      · obtain ⟨changed, givesOther, sameGiven⟩ := List.perm_comp_forall₂ sameMembers.symm gives
        exact ⟨changed, givesOther, Record.interchangeable_of_perm sameGiven.symm⟩
      · obtain ⟨given, gives, _⟩ := List.perm_comp_forall₂ sameMembers gives
        exact ⟨given, gives⟩
  | respelled corresponding =>
      refine Record.rel_ofDocument? distinct (fun given gives => ?_)
        (fun changed gives => exists_given_before corresponding gives)
      obtain ⟨changed, givesOther, relatedGiven⟩ :=
        exists_given_of_corresponding corresponding gives
      exact ⟨changed, givesOther, Record.interchangeable_of_forall₂ relatedGiven⟩
  | @added members member name denotes unknown =>
      refine Record.rel_ofDocument? distinct (fun given gives => ?_) (fun changed gives => ?_)
      · refine ⟨(name, member.2) :: given, .cons ⟨denotes, rfl⟩ gives, .of_known_eq ?_⟩
        rw [Record.known_cons, if_neg unknown]
      · cases gives with
        | cons _ gives => exact ⟨_, gives⟩
  | @nullified members member name denotes isNull absent =>
      refine Record.rel_ofDocument? distinct (fun given gives => ?_) (fun changed gives => ?_)
      · have notGiven : name ∉ given.map Prod.fst := by
          intro listed
          obtain ⟨⟨_, value⟩, inGiven, rfl⟩ := List.mem_map.mp listed
          obtain ⟨other, inMembers, names⟩ := exists_of_mem_right gives inGiven
          exact absent other inMembers names.1
        exact ⟨(name, member.2) :: given, .cons ⟨denotes, rfl⟩ gives,
          Record.interchangeable_cons_null isNull notGiven⟩
      · cases gives with
        | cons _ gives => exact ⟨_, gives⟩
  | @shortened elements last isNull short =>
      refine Record.rel_ofDocument? distinct (fun given gives => ?_) (fun changed gives => ?_)
      · obtain ⟨_, rfl⟩ := gives
        exact ⟨_, ⟨short.le, rfl⟩, Record.interchangeable_zip_concat_null distinct isNull short⟩
      · have within : (elements ++ [last]).length ≤ fields.length := by
          rw [List.length_append]
          exact short
        exact ⟨_, within, rfl⟩
  | @named elements names denote short =>
      refine Record.rel_ofDocument? distinct (fun given gives => ?_) (fun changed gives => ?_)
      · obtain ⟨_, rfl⟩ := gives
        exact ⟨_, names_zip elements denote, .of_known_eq rfl⟩
      · exact ⟨_, short, rfl⟩

end Document

/-! ## Reading records that agree -/

namespace Record

variable {first second : Record} {α β : Type} {read? : Value → Option α}

theorem optional?_map (record : Record) (read? : Value → Option α) (change : α → β)
    (field : String) :
    record.optional? (fun value => (read? value).map change) field =
      (record.optional? read? field).map (Option.map change) := by
  rw [optional?, optional?]
  cases record.lookup field with
  | none => rfl
  | some value =>
      by_cases isNull : value.IsNull
      · simp [Value.optional?_of_isNull isNull]
      · simp [Value.optional?_of_not_isNull isNull, Function.comp_def]

/-- A field that has to be given reads the same from similar records. -/
theorem Similar.required?_eq
    (similar : Similar related field (first.lookup field) (second.lookup field))
    (blind : ∀ value other, related field value other → read? value = read? other)
    (nothing : ∀ value : Value, value.IsNull → read? value = none) :
    first.required? read? field = second.required? read? field := by
  rw [required?, required?]
  generalize first.lookup field = before at similar ⊢
  generalize second.lookup field = after at similar ⊢
  cases similar with
  | same => rfl
  | changed isRelated => exact blind _ _ isRelated
  | appeared isNull => exact (nothing _ isNull).symm
  | vanished isNull => exact nothing _ isNull

/-- A field that may be left out reads the same from similar records. -/
theorem Similar.optional?_eq
    (similar : Similar related field (first.lookup field) (second.lookup field))
    (blind : ∀ value other, first.lookup field = some value → second.lookup field = some other →
      related field value other → (value.IsNull ↔ other.IsNull) ∧ read? value = read? other) :
    first.optional? read? field = second.optional? read? field := by
  rw [optional?, optional?]
  generalize first.lookup field = before at similar blind ⊢
  generalize second.lookup field = after at similar blind ⊢
  cases similar with
  | same => rfl
  | changed isRelated =>
      obtain ⟨sameNull, sameRead⟩ := blind _ _ rfl rfl isRelated
      have sameTest := Bool.eq_iff_iff.mpr
        (Value.isNull_eq_true_iff.trans (sameNull.trans Value.isNull_eq_true_iff.symm))
      exact if_congr (by rw [sameTest]) rfl (congrArg _ sameRead)
  | appeared isNull => exact (Value.optional?_of_isNull isNull).symm
  | vanished isNull => exact Value.optional?_of_isNull isNull

end Record

end Switchboard.Json
