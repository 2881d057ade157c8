import Switchboard.Proofs.Command
import Switchboard.Proofs.Json.Blanks
import Switchboard.Proofs.Json.Edit

/-!
# Frames that ask for the same

A command depends on nothing but what is given for the four fields. However a
frame is edited, as long as each field keeps its value, it is read as the same
command, or refused in the same words.

Blanks between tokens make no difference, except within the value of a
payload. A payload is passed on as it was spelled, so they make a difference
to its text there, but to nothing else.
-/

namespace Switchboard

open Json Text

variable {frame other : Bytes} {kept : Value → Value → Prop} {change : Payload → Payload}

namespace Envelope

/-- Values that may stand for each other in a field: they differ in blanks at
most, and a payload keeps whatever is to be kept of it. -/
def Matches (kept : Value → Value → Prop) (field : String) (value other : Value) : Prop :=
  SameTokens value other ∧ (field = "payload" → kept value other)

/-- The frame becomes another one by a single edit. -/
def EditedTo (kept : Value → Value → Prop) (frame other : Bytes) : Prop :=
  ∃ document edited : Document, document.SpelledBy frame ∧ edited.SpelledBy other ∧
    document.Edit fields (Matches kept) edited

/-- The fields with another payload. -/
def mapPayload (change : Payload → Payload) (envelope : Envelope) : Envelope :=
  { envelope with payload := envelope.payload.map change }

theorem map_mapPayload_ofRecord? (change : Payload → Payload) (record : Record) :
    (ofRecord? record).map (mapPayload change) = (do
      let label ← record.required? Value.string? "type"
      let room ← record.optional? Value.string? "room"
      let recipient ← record.optional? Value.string? "recipient"
      let payload ← (record.optional? Payload.ofValue? "payload").map (Option.map change)
      some { label, room, recipient, payload }) := by
  simp only [ofRecord?, Option.bind_eq_bind, Option.map_bind, Option.bind_map, Function.comp_def,
    Option.map_some, mapPayload]

/-- The same fields are read from records that agree, provided that the change
makes payloads of values that match the same. -/
theorem map_ofRecord?_eq {first second : Record} (agree : Record.Agree (Matches kept) first second)
    (blind : ∀ value other, first.lookup "payload" = some value →
      second.lookup "payload" = some other → SameTokens value other → kept value other →
        (Payload.ofValue? value).map change = (Payload.ofValue? other).map change) :
    (ofRecord? first).map (mapPayload change) = (ofRecord? second).map (mapPayload change) := by
  have label : first.required? Value.string? "type" = second.required? Value.string? "type" := by
    refine (agree "type").required?_eq (fun _ _ isMatch => isMatch.1.string?_eq) ?_
    rintro _ ⟨_, rfl⟩
    rfl
  have name (field : String) :
      first.optional? Value.string? field = second.optional? Value.string? field :=
    (agree field).optional?_eq fun _ _ _ _ isMatch => ⟨isMatch.1.isNull_iff, isMatch.1.string?_eq⟩
  have payload : (first.optional? Payload.ofValue? "payload").map (Option.map change) =
      (second.optional? Payload.ofValue? "payload").map (Option.map change) := by
    rw [← Record.optional?_map, ← Record.optional?_map]
    refine (agree "payload").optional?_eq fun value other found foundOther isMatch => ?_
    exact ⟨isMatch.1.isNull_iff, blind value other found foundOther isMatch.1 (isMatch.2 rfl)⟩
  rw [map_mapPayload_ofRecord?, map_mapPayload_ofRecord?, label, name, name, payload]

/-- A single edit changes nothing but the payload, and not even that after a
change that makes payloads of values that match the same. -/
theorem EditedTo.map_read?_eq (edited : EditedTo kept frame other)
    (blind : ∀ value changed : Value, value.IsProper → changed.IsProper →
      SameTokens value changed → kept value changed →
        (Payload.ofValue? value).map change = (Payload.ofValue? changed).map change) :
    (read? frame).map (mapPayload change) = (read? other).map (mapPayload change) := by
  obtain ⟨document, changed, spelled, spelledOther, edit⟩ := edited
  have agree := edit.rel_ofDocument? nodup_fields
  have recorded {document : Document} {frame : Bytes} (spelled : document.SpelledBy frame) :
      Record.read? fields frame = Record.ofDocument? fields document := by
    rw [Record.read?, Document.read?_eq_some_iff.mpr spelled, Option.bind_some]
  rw [← recorded spelled, ← recorded spelledOther] at agree
  rw [read?_eq_bind, read?_eq_bind]
  generalize isFirst : Record.read? fields frame = first at agree ⊢
  generalize isSecond : Record.read? fields other = second at agree ⊢
  cases agree with
  | none => rfl
  | some agree =>
      refine map_ofRecord?_eq agree fun value changed found foundOther => ?_
      have proper {frame : Bytes} {record : Record} {value : Value}
          (read : Record.read? fields frame = some record)
          (found : record.lookup "payload" = some value) : value.IsProper := by
        obtain ⟨earlier, later, rfl, _⟩ := List.lookup_eq_some_iff.mp found
        exact Record.isProper_of_read? nodup_fields read
          (List.mem_append_right earlier List.mem_cons_self)
      exact blind value changed (proper isFirst found) (proper isSecond foundOther)

/-- Other blanks between the tokens of an object are an edit that need not keep
the text of the payload. -/
theorem editedTo_of_differInBlanks {members : List (List Piece × Value)}
    (spelled : (Document.object members).SpelledBy frame) (same : DifferInBlanks frame other) :
    EditedTo (fun _ _ => True) frame other := by
  obtain ⟨others, spelledOther, sameMembers⟩ := spelled.exists_of_differInBlanks same
  refine ⟨_, _, spelled, spelledOther, .respelled (sameMembers.imp ?_)⟩
  rintro ⟨name, value⟩ ⟨_, changed⟩ ⟨rfl, sameValue⟩
  exact ⟨fun _ => .rfl, fun _ _ _ => ⟨sameValue, fun _ => trivial⟩⟩

end Envelope

/-! ## Commands -/

namespace Command

/-- The command with another payload. -/
def mapPayload (change : Payload → Payload) : Command → Command
  | .broadcast payload => .broadcast (change payload)
  | .signal sent => .signal { sent with payload := sent.payload.map change }
  | .join room => .join room
  | .leave room => .leave room
  | .list room => .list room
  | .me => .me

theorem map_ofEnvelope (verb : Verb) (sender : Identity) (envelope : Envelope) :
    (ofEnvelope verb sender envelope).map (mapPayload change) =
      ofEnvelope verb sender (envelope.mapPayload change) := by
  have outcome := outcome_ofEnvelope verb sender envelope
  generalize ofEnvelope verb sender envelope = result at outcome ⊢
  cases outcome with
  | broadcast present | payloadMissing present =>
      rw [ofEnvelope, Envelope.mapPayload, present]
      rfl
  | join named | leave named =>
      rw [ofEnvelope, Envelope.mapPayload, named]
      rfl
  | roomMissing needed unnamed =>
      rcases needed with rfl | rfl
      all_goals
        rw [ofEnvelope, Envelope.mapPayload, unnamed]
        rfl
  | signal directed => cases verb <;> first | contradiction | rfl
  | list | me => rfl

/-- The command is read from the fields, whatever becomes of the payload. -/
theorem map_read_eq {vocabulary : Vocabulary} {sender : Identity}
    (same : (Envelope.read? frame).map (Envelope.mapPayload change) =
      (Envelope.read? other).map (Envelope.mapPayload change)) :
    (read vocabulary sender frame).map (mapPayload change) =
      (read vocabulary sender other).map (mapPayload change) := by
  have shape (frame : Bytes) : (read vocabulary sender frame).map (mapPayload change) =
      ((Envelope.read? frame).map (Envelope.mapPayload change)).elim (.error .malformed)
        fun envelope =>
          (vocabulary.resolve? envelope.label).elim (.error (.unknownLabel envelope.label))
            fun verb => ofEnvelope verb sender envelope := by
    rw [read]
    cases Envelope.read? frame with
    | none => rfl
    | some envelope =>
        dsimp only [Option.map_some, Option.elim_some, Envelope.mapPayload]
        cases vocabulary.resolve? envelope.label with
        | none => rfl
        | some verb => exact map_ofEnvelope verb sender envelope
  rw [shape, shape, same]

theorem map_mapPayload_id (command : Except CommandError Command) :
    command.map (mapPayload id) = command := by
  cases command with
  | error error => rfl
  | ok command => cases command <;> simp [Except.map, mapPayload]

/-- Frames that become each other by any number of edits are read the same,
after a change that makes payloads of values that match the same. -/
theorem map_read_eq_of_edits {vocabulary : Vocabulary} {sender : Identity}
    (edits : Relation.EqvGen (Envelope.EditedTo kept) frame other)
    (blind : ∀ value changed : Value, value.IsProper → changed.IsProper →
      SameTokens value changed → kept value changed →
        (Payload.ofValue? value).map change = (Payload.ofValue? changed).map change) :
    (read vocabulary sender frame).map (mapPayload change) =
      (read vocabulary sender other).map (mapPayload change) := by
  induction edits with
  | rel frame other edited => exact map_read_eq (edited.map_read?_eq blind)
  | refl frame => rfl
  | symm frame other _ ih => exact ih.symm
  | trans frame between other _ _ ih ihLater => exact ih.trans ihLater

/-- Edits that keep the text of the payload do not change what is read from a
frame. Blanks anywhere between the tokens of an object change at most the text
of the payload. -/
theorem read_eq_of_edits (vocabulary : Vocabulary) (sender : Identity) (frame other : Bytes) :
    (Relation.EqvGen (Envelope.EditedTo fun value changed => value.text = changed.text)
        frame other →
      read vocabulary sender frame = read vocabulary sender other) ∧
      ∀ members, (Document.object members).SpelledBy frame → DifferInBlanks frame other →
        ∀ payload : Payload,
          (read vocabulary sender frame).map (mapPayload fun _ => payload) =
            (read vocabulary sender other).map (mapPayload fun _ => payload) := by
  constructor
  · intro edits
    rw [← map_mapPayload_id (read vocabulary sender frame),
      ← map_mapPayload_id (read vocabulary sender other)]
    refine map_read_eq_of_edits edits fun value changed _ _ _ sameText => ?_
    rw [Payload.ofValue?, Payload.ofValue?, Value.raw?, Value.raw?, sameText]
  · intro members spelled sameTokens payload
    have edits := Relation.EqvGen.rel _ _ (Envelope.editedTo_of_differInBlanks spelled sameTokens)
    refine map_read_eq_of_edits edits fun value changed proper properChanged same _ => ?_
    have both : (Payload.ofValue? value).isSome = (Payload.ofValue? changed).isSome := by
      rw [Bool.eq_iff_iff, Payload.ofValue?, Payload.ofValue?, Option.isSome_map,
        Option.isSome_map, proper.isSome_raw?_iff, properChanged.isSome_raw?_iff,
        same.hasUtf8Strings_iff]
    cases first : Payload.ofValue? value <;> cases second : Payload.ofValue? changed <;>
      simp_all

/-- A literal in which every byte stands for itself. -/
def verbatim (text : String) : List Piece :=
  (utf8 text).map .byte

/-- A label under the name of its field, with an escape for the second letter. -/
def escapedLabel : List Piece × Value :=
  ([.byte 0x74, .unit 0x30 0x30 0x37 0x39, .byte 0x70, .byte 0x65],
    [⟨[0x20], .string (verbatim "me")⟩])

theorem editedTo_escapedLabel :
    Envelope.EditedTo (fun value changed => value.text = changed.text) (utf8 "[ \"me\"]")
      (utf8 "\x7b\"t\\u0079pe\" : \"me\"\x7d") := by
  refine ⟨.array [escapedLabel.2], .object [escapedLabel], by decide +kernel, by decide +kernel, ?_⟩
  have denote : List.Forall₂ (fun name field => Denotes name field.toList)
      [escapedLabel.1, verbatim "room", verbatim "recipient", verbatim "payload"]
      Envelope.fields := by
    refine .cons ?_ (.cons ?_ (.cons ?_ (.cons ?_ .nil)))
    all_goals exact denotation?_eq_some_iff.mp (by decide +kernel)
  exact .named denote (by decide)

/-- A position stands for a name that is spelled with an escape, and a blank in a
list shows in nothing but the payload. -/
theorem read_eq_of_edits_samples :
    let positional := utf8 "[ \"me\"]"
    let escaped := utf8 "\x7b\"t\\u0079pe\" : \"me\"\x7d"
    let spaced := utf8 "\x7b\"type\":\"broadcast\",\"payload\":[1 ]\x7d"
    let dense := utf8 "\x7b\"type\":\"broadcast\",\"payload\":[1]\x7d"
    (Relation.EqvGen (Envelope.EditedTo fun value changed => value.text = changed.text)
          positional escaped ∧
        read .standard ⟨"alice"⟩ positional = read .standard ⟨"alice"⟩ escaped) ∧
      (∃ members, (Document.object members).SpelledBy spaced) ∧ DifferInBlanks spaced dense ∧
        (read .standard ⟨"alice"⟩ spaced).map (mapPayload fun _ => ⟨"0"⟩) =
          (read .standard ⟨"alice"⟩ dense).map (mapPayload fun _ => ⟨"0"⟩) := by
  intro positional escaped spaced dense
  have exchanged := Relation.EqvGen.rel positional escaped editedTo_escapedLabel
  have spelled : (Document.object
      [(verbatim "type", [⟨[], .string (verbatim "broadcast")⟩]),
        (verbatim "payload", [⟨[], .mark .beginArray⟩, ⟨[], .number (utf8 "1")⟩,
          ⟨[0x20], .mark .endArray⟩])]).SpelledBy
      (utf8 "\x7b\"type\":\"broadcast\",\"payload\":[1 ]\x7d") := by
    decide +kernel
  have sameTokens : DifferInBlanks (utf8 "\x7b\"type\":\"broadcast\",\"payload\":[1 ]\x7d")
      (utf8 "\x7b\"type\":\"broadcast\",\"payload\":[1]\x7d") := by
    rw [DifferInBlanks]
    decide +kernel
  exact ⟨⟨exchanged, (read_eq_of_edits .standard ⟨"alice"⟩ positional escaped).1 exchanged⟩,
    ⟨_, spelled⟩, sameTokens,
    (read_eq_of_edits .standard ⟨"alice"⟩ spaced dense).2 _ spelled sameTokens ⟨"0"⟩⟩

/-- Blanks within a payload belong to its text. A name that denotes nothing
makes no sense even if it is the name of no field. -/
theorem read_tells_apart :
    let spaced := utf8 "\x7b\"type\":\"broadcast\",\"payload\":[1, 2]\x7d"
    let dense := utf8 "\x7b\"type\":\"broadcast\",\"payload\":[1,2]\x7d"
    let plain := utf8 "\x7b\"type\":\"me\"\x7d"
    let strange := utf8 "\x7b\"type\":\"me\",\"\\ud800\":0\x7d"
    (DifferInBlanks spaced dense ∧
        read .standard ⟨"alice"⟩ spaced = .ok (.broadcast ⟨"[1, 2]"⟩) ∧
        read .standard ⟨"alice"⟩ dense = .ok (.broadcast ⟨"[1,2]"⟩)) ∧
      (∃ members member, (Document.object members).SpelledBy plain ∧
          (Document.object (members ++ [member])).SpelledBy strange ∧
          ∀ field ∈ Envelope.fields, ¬Denotes member.1 field.toList) ∧
        read .standard ⟨"alice"⟩ plain = .ok .me ∧
        read .standard ⟨"alice"⟩ strange = .error .malformed := by
  refine ⟨⟨?_, by decide +kernel, by decide +kernel⟩, ?_, by decide +kernel, by decide +kernel⟩
  · rw [DifferInBlanks]
    decide +kernel
  · refine ⟨[(verbatim "type", [⟨[], .string (verbatim "me")⟩])],
      ([.unit 0x64 0x38 0x30 0x30], [⟨[], .number (utf8 "0")⟩]),
      by decide +kernel, by decide +kernel, ?_⟩
    intro field _ denotes
    have unpaired : denotation? [.unit 0x64 0x38 0x30 0x30] = none := by decide +kernel
    rw [denotation?_eq_some_iff.mpr denotes] at unpaired
    contradiction

end Command

end Switchboard
