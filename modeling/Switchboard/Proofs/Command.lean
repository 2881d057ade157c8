import Switchboard.Command
import Switchboard.Proofs.Json.Record

/-!
# Which frames are understood

An inbound frame is an object whose members, or an array whose elements, may
be given for the four fields. Other members of an object can have any names
and values.
-/

namespace Switchboard

open Json Text

variable {given : List (String × Value)} {record : Record} {frame : Bytes} {value : Value}
  {payload : Payload}

namespace Payload

/-- The payload is the text of a value other than `null`, without blanks around
it. -/
structure IsTransmissible (payload : Payload) : Prop where
  isValue : IsValueText (utf8 payload.text)
  notNull : payload.text ≠ "null"

/-- A value is read as its text. -/
theorem ofValue?_eq_some_iff : ofValue? value = some payload ↔ value.text = utf8 payload.text := by
  rcases payload with ⟨text⟩
  simp [ofValue?, Value.raw?, ofUtf8?_eq_some_iff]

theorem isTransmissible_of_ofValue? (proper : value.IsProper) (notNull : ¬value.IsNull)
    (read : ofValue? value = some payload) : payload.IsTransmissible := by
  have same := ofValue?_eq_some_iff.mp read
  constructor
  · exact ⟨value, proper, same.symm⟩
  · intro isNull
    rw [isNull, ← proper.isNull_eq_true_iff_text, Value.isNull_eq_true_iff] at same
    exact notNull same

/-- The payload is the text of the value that a frame gives for it. -/
structure IsGivenBy (payload : Payload) (frame : Bytes) : Prop where
  transmissible : payload.IsTransmissible
  given : ∃ (document : Document) (given : List (String × Value)) (value : Value),
    document.SpelledBy frame ∧ document.Gives Envelope.fields given ∧
      ("payload", value) ∈ given ∧ value.text = utf8 payload.text
  slice : ∃ earlier later, frame = earlier ++ utf8 payload.text ++ later

end Payload

namespace Envelope

theorem nodup_fields : fields.Nodup := by
  decide

/-- The value may be given for the field. -/
def Admits (field : String) (value : Value) : Prop :=
  match field with
  | "type" => ∃ label, value.IsString label
  | "room" | "recipient" => value.IsNull ∨ ∃ name, value.IsString name
  | "payload" => value.HasUtf8Strings
  | _ => True

/-- Values that make an inbound frame, by the names they are given under. -/
structure Accepts (given : List (String × Value)) : Prop where
  labelled : "type" ∈ given.map Prod.fst
  once : ∀ field ∈ fields, (given.map Prod.fst).count field ≤ 1
  admitted : ∀ member ∈ given, Admits member.1 member.2

/-- Read the fields of an inbound frame from its record. -/
def ofRecord? (record : Record) : Option Envelope := do
  let label ← record.required? Value.string? "type"
  let room ← record.optional? Value.string? "room"
  let recipient ← record.optional? Value.string? "recipient"
  let payload ← record.optional? Payload.ofValue? "payload"
  some { label, room, recipient, payload }

theorem read?_eq_bind (frame : Bytes) : read? frame = (Record.read? fields frame).bind ofRecord? :=
  rfl

/-- The fields of a frame are read from its record. -/
theorem read?_eq_some_iff {envelope : Envelope} :
    read? frame = some envelope ↔
      ∃ record, Record.read? fields frame = some record ∧
        record.required? Value.string? "type" = some envelope.label ∧
        record.optional? Value.string? "room" = some envelope.room ∧
        record.optional? Value.string? "recipient" = some envelope.recipient ∧
        record.optional? Payload.ofValue? "payload" = some envelope.payload := by
  rcases envelope with ⟨label, room, recipient, payload⟩
  simp only [read?, Option.bind_eq_bind, Option.bind_eq_some_iff, Option.some.injEq,
    Envelope.mk.injEq]
  constructor
  · rintro ⟨record, recorded, _, readLabel, _, readRoom, _, readRecipient, _, readPayload,
      rfl, rfl, rfl, rfl⟩
    exact ⟨record, recorded, readLabel, readRoom, readRecipient, readPayload⟩
  · rintro ⟨record, recorded, readLabel, readRoom, readRecipient, readPayload⟩
    exact ⟨record, recorded, label, readLabel, room, readRoom, recipient, readRecipient,
      payload, readPayload, rfl, rfl, rfl, rfl⟩

/-- The payload of a frame is a slice of it, namely the text of the value that
is given for it. -/
theorem isGivenBy_of_read? {envelope : Envelope} (read : read? frame = some envelope)
    (present : envelope.payload = some payload) : payload.IsGivenBy frame := by
  obtain ⟨record, recorded, _, _, _, readPayload⟩ := read?_eq_some_iff.mp read
  obtain ⟨document, given, spelled, gives, rfl, once⟩ :=
    (Record.read?_eq_some_iff nodup_fields).mp recorded
  rw [present, Record.optional?_eq_some_some_iff once] at readPayload
  obtain ⟨value, listed, notNull, readValue⟩ := readPayload
  have listed := List.mem_of_mem_filter listed
  have same := Payload.ofValue?_eq_some_iff.mp readValue
  obtain ⟨proper, earlier, later, whole⟩ := spelled.exists_slice (gives.mem_values listed)
  rw [same] at whole
  exact ⟨Payload.isTransmissible_of_ofValue? proper notNull readValue,
    ⟨document, given, value, spelled, gives, listed, same⟩, earlier, later, whole⟩

theorem isSome_read?_iff :
    (read? frame).isSome = true ↔
      ∃ record, Record.read? fields frame = some record ∧
        (record.required? Value.string? "type").isSome = true ∧
        (record.optional? Value.string? "room").isSome = true ∧
        (record.optional? Value.string? "recipient").isSome = true ∧
        (record.optional? Payload.ofValue? "payload").isSome = true := by
  simp only [Option.isSome_iff_exists, read?_eq_some_iff]
  constructor
  · rintro ⟨envelope, record, recorded, label, room, recipient, payload⟩
    exact ⟨record, recorded, ⟨_, label⟩, ⟨_, room⟩, ⟨_, recipient⟩, ⟨_, payload⟩⟩
  · rintro ⟨record, recorded, ⟨label, readLabel⟩, ⟨room, readRoom⟩,
      ⟨recipient, readRecipient⟩, ⟨payload, readPayload⟩⟩
    exact ⟨⟨label, room, recipient, payload⟩, record, recorded, readLabel, readRoom,
      readRecipient, readPayload⟩

/-- No field is given twice. -/
theorem nodup_known_iff :
    ((Record.known fields given).map Prod.fst).Nodup ↔
      ∀ field ∈ fields, (given.map Prod.fst).count field ≤ 1 := by
  have filtered : (Record.known fields given).map Prod.fst =
      (given.map Prod.fst).filter (· ∈ fields) := by
    rw [List.filter_map]
    rfl
  rw [filtered, List.nodup_iff_count_le_one]
  constructor
  · intro once field isField
    have atMost := once field
    rwa [List.count_filter (by simpa using isField)] at atMost
  · intro once field
    by_cases isField : field ∈ fields
    · rw [List.count_filter (by simpa using isField)]
      exact once field isField
    · rw [List.count_eq_zero_of_not_mem]
      · exact Nat.zero_le 1
      · intro listed
        exact isField (by simpa using (List.mem_filter.mp listed).2)

theorem forall_admits_iff :
    (∀ member ∈ given, Admits member.1 member.2) ↔
      (∀ value, ("type", value) ∈ given → ∃ label, value.IsString label) ∧
        (∀ value, ("room", value) ∈ given → value.IsNull ∨ ∃ name, value.IsString name) ∧
        (∀ value, ("recipient", value) ∈ given → value.IsNull ∨ ∃ name, value.IsString name) ∧
        (∀ value, ("payload", value) ∈ given → value.HasUtf8Strings) := by
  constructor
  · intro admitted
    exact ⟨fun _ => admitted _, fun _ => admitted _, fun _ => admitted _, fun _ => admitted _⟩
  · rintro ⟨label, room, recipient, payload⟩ ⟨name, value⟩ listed
    dsimp only [Admits]
    split
    · exact label value listed
    · exact room value listed
    · exact recipient value listed
    · exact payload value listed
    · trivial

/-- A payload can be read from a value, or is absent, if its strings are UTF-8. -/
theorem isSome_ofValue?_iff (proper : value.IsProper) :
    value.IsNull ∨ (Payload.ofValue? value).isSome = true ↔ value.HasUtf8Strings := by
  rw [Payload.ofValue?, Option.isSome_map, proper.isSome_raw?_iff, or_iff_right_iff_imp]
  rintro ⟨blanks, rfl⟩ lexeme listed pieces isString
  cases List.mem_singleton.mp listed
  contradiction

/-- Values are accepted if every field can be read from them. -/
theorem accepts_iff (proper : ∀ member ∈ given, member.2.IsProper) :
    Accepts given ↔
      ((Record.known fields given).map Prod.fst).Nodup ∧
        ((Record.known fields given).required? Value.string? "type").isSome = true ∧
        ((Record.known fields given).optional? Value.string? "room").isSome = true ∧
        ((Record.known fields given).optional? Value.string? "recipient").isSome = true ∧
        ((Record.known fields given).optional? Payload.ofValue? "payload").isSome = true := by
  have isString (value : Value) :
      (Value.string? value).isSome = true ↔ ∃ text, value.IsString text := by
    rw [Option.isSome_iff_exists]
    exact exists_congr fun _ => Value.string?_eq_some_iff
  have labelled : "type" ∈ (Record.known fields given).map Prod.fst ↔
      "type" ∈ given.map Prod.fst := by
    simp [Record.known, fields]
  have payloads : (∀ value, ("payload", value) ∈ given →
        value.IsNull ∨ (Payload.ofValue? value).isSome = true) ↔
      ∀ value, ("payload", value) ∈ given → value.HasUtf8Strings :=
    forall₂_congr fun value listed => isSome_ofValue?_iff (proper _ listed)
  have read (once : ((Record.known fields given).map Prod.fst).Nodup) :
      (((Record.known fields given).required? Value.string? "type").isSome = true ∧
        ((Record.known fields given).optional? Value.string? "room").isSome = true ∧
        ((Record.known fields given).optional? Value.string? "recipient").isSome = true ∧
        ((Record.known fields given).optional? Payload.ofValue? "payload").isSome = true) ↔
      "type" ∈ given.map Prod.fst ∧ ∀ member ∈ given, Admits member.1 member.2 := by
    rw [Record.isSome_required?_iff once, Record.isSome_optional?_iff once,
      Record.isSome_optional?_iff once, Record.isSome_optional?_iff once, labelled, and_assoc]
    simp only [Record.mem_known_iff (show "type" ∈ fields by decide),
      Record.mem_known_iff (show "room" ∈ fields by decide),
      Record.mem_known_iff (show "recipient" ∈ fields by decide),
      Record.mem_known_iff (show "payload" ∈ fields by decide), isString, payloads]
    rw [forall_admits_iff]
  constructor
  · rintro ⟨named, once, admitted⟩
    have distinct := nodup_known_iff.mpr once
    exact ⟨distinct, (read distinct).mpr ⟨named, admitted⟩⟩
  · rintro ⟨distinct, readable⟩
    obtain ⟨named, admitted⟩ := (read distinct).mp readable
    exact ⟨named, nodup_known_iff.mp distinct, admitted⟩

/-- A frame is read if the document that it spells gives accepted values. -/
theorem isSome_read?_iff_accepts :
    (read? frame).isSome = true ↔
      ∃ (document : Document) (given : List (String × Value)), document.SpelledBy frame ∧
        document.Gives fields given ∧ Accepts given := by
  have proper {document : Document} {given : List (String × Value)}
      (spelled : document.SpelledBy frame) (gives : document.Gives fields given) :
      ∀ member ∈ given, member.2.IsProper :=
    fun member listed => (spelled.exists_slice (gives.mem_values listed)).1
  simp only [isSome_read?_iff, Record.read?_eq_some_iff nodup_fields]
  constructor
  · rintro ⟨record, ⟨document, given, spelled, gives, rfl, once⟩, readable⟩
    exact ⟨document, given, spelled, gives,
      (accepts_iff (proper spelled gives)).mpr ⟨once, readable⟩⟩
  · rintro ⟨document, given, spelled, gives, accepts⟩
    obtain ⟨once, readable⟩ := (accepts_iff (proper spelled gives)).mp accepts
    exact ⟨_, ⟨document, given, spelled, gives, rfl, once⟩, readable⟩

/-- Positions are accepted if there is a label, and each value may be given for
its field. -/
theorem accepts_zip_iff {elements : List Value} :
    Accepts (fields.zip elements) ↔
      1 ≤ elements.length ∧ ∀ member ∈ fields.zip elements, Admits member.1 member.2 := by
  have once := ((Record.map_fst_zip_sublist fields elements).nodup nodup_fields)
  rw [List.nodup_iff_count_le_one] at once
  constructor
  · rintro ⟨named, -, admitted⟩
    refine ⟨?_, admitted⟩
    cases elements with
    | nil => simp at named
    | cons element rest => simp
  · rintro ⟨present, admitted⟩
    refine ⟨?_, fun field _ => once field, admitted⟩
    cases elements with
    | nil => contradiction
    | cons element rest => simp [fields]

end Envelope

namespace Command

theorem read_eq_ok_iff {vocabulary : Vocabulary} {sender : Identity} {command : Command} :
    read vocabulary sender frame = .ok command ↔
      ∃ envelope verb, Envelope.read? frame = some envelope ∧
        vocabulary.resolve? envelope.label = some verb ∧
          ofEnvelope verb sender envelope = .ok command := by
  unfold read
  cases Envelope.read? frame with
  | none => simp
  | some envelope => cases resolved : vocabulary.resolve? envelope.label <;> simp [resolved]

/-- What a verb makes of the fields of a frame. -/
inductive Outcome (sender : Identity) (envelope : Envelope) :
    Verb → Except CommandError Command → Prop
  | broadcast {payload : Payload} (present : envelope.payload = some payload) :
      Outcome sender envelope .broadcast (.ok (.broadcast payload))
  | payloadMissing (absent : envelope.payload = none) :
      Outcome sender envelope .broadcast (.error (.payloadMissing envelope.label))
  | join {room : String} (named : nonempty? envelope.room = some room) :
      Outcome sender envelope .join (.ok (.join room))
  | leave {room : String} (named : nonempty? envelope.room = some room) :
      Outcome sender envelope .leave (.ok (.leave room))
  | roomMissing {verb : Verb} (needed : verb = .join ∨ verb = .leave)
      (unnamed : nonempty? envelope.room = none) :
      Outcome sender envelope verb (.error (.roomMissing envelope.label))
  | signal {verb : Verb} (directed : verb.isDirected = true) :
      Outcome sender envelope verb (.ok (.signal
        { verb, event := envelope.label, sender, room := nonempty? envelope.room,
          recipient := (nonempty? envelope.recipient).map Identity.mk,
          payload := envelope.payload }))
  | list : Outcome sender envelope .list (.ok (.list (nonempty? envelope.room)))
  | me : Outcome sender envelope .me (.ok .me)

theorem outcome_ofEnvelope (verb : Verb) (sender : Identity) (envelope : Envelope) :
    Outcome sender envelope verb (ofEnvelope verb sender envelope) := by
  cases verb with
  | broadcast =>
      cases present : envelope.payload with
      | none =>
          rw [ofEnvelope, present]
          exact .payloadMissing present
      | some payload =>
          rw [ofEnvelope, present]
          exact .broadcast present
  | join =>
      cases named : nonempty? envelope.room with
      | none =>
          rw [ofEnvelope, named]
          exact .roomMissing (.inl rfl) named
      | some room =>
          rw [ofEnvelope, named]
          exact .join named
  | leave =>
      cases named : nonempty? envelope.room with
      | none =>
          rw [ofEnvelope, named]
          exact .roomMissing (.inr rfl) named
      | some room =>
          rw [ofEnvelope, named]
          exact .leave named
  | offer | answer | iceCandidate => exact .signal rfl
  | list => exact .list
  | me => exact .me

variable {verb : Verb} {sender : Identity} {envelope : Envelope}

theorem ofEnvelope_eq_broadcast_iff :
    ofEnvelope verb sender envelope = .ok (.broadcast payload) ↔
      verb = .broadcast ∧ envelope.payload = some payload := by
  constructor
  · intro meant
    have outcome := outcome_ofEnvelope verb sender envelope
    rw [meant] at outcome
    cases outcome with
    | broadcast present => exact ⟨rfl, present⟩
  · rintro ⟨rfl, present⟩
    rw [ofEnvelope, present]

theorem ofEnvelope_eq_signal_iff {signal : Signal} :
    ofEnvelope verb sender envelope = .ok (.signal signal) ↔
      verb.isDirected = true ∧ signal =
        { verb, event := envelope.label, sender, room := nonempty? envelope.room,
          recipient := (nonempty? envelope.recipient).map Identity.mk,
          payload := envelope.payload } := by
  constructor
  · intro meant
    have outcome := outcome_ofEnvelope verb sender envelope
    rw [meant] at outcome
    cases outcome with
    | signal directed => exact ⟨directed, rfl⟩
  · rintro ⟨directed, rfl⟩
    cases verb with
    | offer | answer | iceCandidate => rfl
    | broadcast | join | leave | list | me => contradiction

/-- The payload, if there is one, can be passed on. -/
def IsTransmissible : Command → Prop
  | broadcast payload => payload.IsTransmissible
  | signal sent => ∀ payload, sent.payload = some payload → payload.IsTransmissible
  | join _ => True
  | leave _ => True
  | list _ => True
  | me => True

theorem isTransmissible_of_read {vocabulary : Vocabulary} {command : Command}
    (meant : read vocabulary sender frame = .ok command) : command.IsTransmissible := by
  obtain ⟨envelope, verb, readEnvelope, _, meant⟩ := read_eq_ok_iff.mp meant
  cases command with
  | broadcast payload =>
      obtain ⟨_, present⟩ := ofEnvelope_eq_broadcast_iff.mp meant
      exact (Envelope.isGivenBy_of_read? readEnvelope present).transmissible
  | signal signal =>
      obtain ⟨_, rfl⟩ := ofEnvelope_eq_signal_iff.mp meant
      intro payload present
      exact (Envelope.isGivenBy_of_read? readEnvelope present).transmissible
  | join | leave | list | me => trivial

theorem ofEnvelope_ne_malformed (verb : Verb) (sender : Identity) (envelope : Envelope) :
    ofEnvelope verb sender envelope ≠ .error .malformed := by
  intro malformed
  have outcome := outcome_ofEnvelope verb sender envelope
  rw [malformed] at outcome
  cases outcome

/-- A frame that can be read is a command, or one of the other errors says why
it is none. -/
theorem read_ne_malformed_iff_isSome (vocabulary : Vocabulary) (sender : Identity)
    (frame : Bytes) :
    read vocabulary sender frame ≠ .error .malformed ↔ (Envelope.read? frame).isSome = true := by
  unfold read
  split
  · rename_i missing
    simp [missing]
  · rename_i envelope found
    refine iff_of_true ?_ (by rw [found, Option.isSome_some])
    split
    · simp
    · exact ofEnvelope_ne_malformed _ sender envelope

/-- A frame makes sense exactly if it is an object or an array of one of these
forms. In an object, each field is given at most once and a label at least
once, under any spelling of the names. An array gives one to four values by
their positions. -/
theorem read_ne_malformed_iff (vocabulary : Vocabulary) (sender : Identity) (frame : Bytes) :
    read vocabulary sender frame ≠ .error .malformed ↔
      (∃ members given, (Document.object members).SpelledBy frame ∧
        List.Forall₂ Document.Names members given ∧ Envelope.Accepts given) ∨
      ∃ elements, (Document.array elements).SpelledBy frame ∧
        1 ≤ elements.length ∧ elements.length ≤ 4 ∧
          ∀ member ∈ Envelope.fields.zip elements, Envelope.Admits member.1 member.2 := by
  rw [read_ne_malformed_iff_isSome, Envelope.isSome_read?_iff_accepts]
  constructor
  · rintro ⟨members | elements, given, spelled, gives, accepts⟩
    · exact .inl ⟨members, given, spelled, gives, accepts⟩
    · obtain ⟨short, rfl⟩ := gives
      obtain ⟨present, admitted⟩ := Envelope.accepts_zip_iff.mp accepts
      exact .inr ⟨elements, spelled, present, short, admitted⟩
  · rintro (⟨members, given, spelled, named, accepts⟩ |
      ⟨elements, spelled, present, short, admitted⟩)
    · exact ⟨.object members, given, spelled, named, accepts⟩
    · exact ⟨.array elements, _, spelled, ⟨short, rfl⟩,
        Envelope.accepts_zip_iff.mpr ⟨present, admitted⟩⟩

end Command

end Switchboard
