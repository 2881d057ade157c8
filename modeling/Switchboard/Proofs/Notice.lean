import Switchboard.Proofs.Command
import Switchboard.Proofs.Notice.Written

/-!
# Notices are read as they were written

The fields of a notice are written under their own names, each at most once.
Reading the frame gives all of them back, provided that a payload is the text
of a value and not `null`. No other notices are ever read.
-/

namespace Switchboard

open Json Text

variable {notice : Notice} {frame : Bytes}

/-- A payload that is written whenever it is present is read as it is. -/
theorem IsRecordOf.optional?_payload_eq_some {members : List (String × String)} {record : Record}
    {field : String} {content : Option Payload} (isRecord : IsRecordOf members record)
    (transmissible : ∀ payload ∈ content, payload.IsTransmissible)
    (listed : ∀ text, (field, text) ∈ members ↔ ∃ payload ∈ content, text = payload.text) :
    record.optional? Payload.ofValue? field = some content := by
  refine isRecord.optional?_eq_some Payload.text listed fun value payload present proper same => ?_
  refine ⟨fun isNull => (transmissible payload present).notNull ?_,
    Payload.ofValue?_eq_some_iff.mpr same⟩
  rw [← Value.isNull_eq_true_iff, proper.isNull_eq_true_iff_text, same] at isNull
  exact utf8_injective isNull

namespace Notice

theorem nodup_fields : fields.Nodup := by
  decide

/-- The fields of a notice are read from the record of its frame. -/
theorem read?_eq_some_iff :
    read? frame = some notice ↔
      ∃ record, Record.read? fields frame = some record ∧
        record.required? Value.string? "event" = some notice.event ∧
        record.required? Value.string? "sender" = some notice.sender.name ∧
        record.optional? Value.string? "room" = some notice.room ∧
        record.optional? Value.string? "recipient" =
          some (notice.recipient.map Identity.name) ∧
        record.optional? Payload.ofValue? "payload" = some notice.payload ∧
        record.optional? Value.strings? "members" =
          some (notice.members.map (List.map Identity.name)) ∧
        record.optional? Value.string? "message" = some notice.message := by
  rcases notice with ⟨event, ⟨sender⟩, room, recipient, payload, members, message⟩
  simp only [read?, Option.bind_eq_bind, Option.bind_eq_some_iff, Option.some.injEq,
    Notice.mk.injEq, Identity.mk.injEq]
  constructor
  · rintro ⟨record, recorded, _, readEvent, _, readSender, _, readRoom, _, readRecipient,
      _, readPayload, _, readMembers, _, readMessage, rfl, rfl, rfl, rfl, rfl, rfl, rfl⟩
    refine ⟨record, recorded, readEvent, readSender, readRoom, ?_, readPayload, ?_, readMessage⟩
    · simpa [Function.comp_def] using readRecipient
    · simpa [Function.comp_def] using readMembers
  · rintro ⟨record, recorded, readEvent, readSender, readRoom, readRecipient, readPayload,
      readMembers, readMessage⟩
    refine ⟨record, recorded, _, readEvent, _, readSender, _, readRoom, _, readRecipient,
      _, readPayload, _, readMembers, _, readMessage, rfl, rfl, rfl, ?_, rfl, ?_, rfl⟩
    · simp [Function.comp_def]
    · simp [Function.comp_def]

/-! ## Written fields -/

/-- The notice is one that can be read back. -/
def IsTransmissible (notice : Notice) : Prop :=
  ∀ payload, notice.payload = some payload → payload.IsTransmissible

theorem isTransmissible_of_payload_eq_none (absent : notice.payload = none) :
    notice.IsTransmissible := by
  intro payload present
  rw [absent] at present
  contradiction

/-- The names of the written fields are in writing order. -/
theorem map_fst_writtenFields_sublist (notice : Notice) :
    (notice.writtenFields.map Prod.fst).Sublist fields := by
  have optional {α : Type} (content : Option α) (field : String) (write : α → String) :
      (((content.map fun value => (field, write value)).toList).map Prod.fst).Sublist [field] := by
    cases content <;> simp
  simp only [writtenFields, List.map_append]
  exact ((((((List.Sublist.refl ["event", "sender"]).append (optional ..)).append
    (optional ..)).append (optional ..)).append (optional ..)).append (optional ..))

/-- What is written, field by field. -/
theorem mem_writtenFields_iff {member : String × String} :
    member ∈ notice.writtenFields ↔
      member = ("event", quoted notice.event) ∨
      member = ("sender", quoted notice.sender.name) ∨
      (∃ room ∈ notice.room, member = ("room", quoted room)) ∨
      (∃ recipient ∈ notice.recipient, member = ("recipient", quoted recipient.name)) ∨
      (∃ payload ∈ notice.payload, member = ("payload", payload.text)) ∨
      (∃ members ∈ notice.members, member = ("members", writtenNames members)) ∨
      (∃ message ∈ notice.message, member = ("message", quoted message)) := by
  simp only [writtenFields, List.mem_append, Option.mem_toList, Option.map_eq_some_iff,
    List.mem_cons, List.not_mem_nil, or_false, or_assoc, Option.mem_def, eq_comm (a := member)]

/-- Each written field is the text of a value. -/
theorem isValueText_of_mem_writtenFields (transmissible : notice.IsTransmissible) :
    ∀ member ∈ notice.writtenFields, IsValueText (utf8 member.2) := by
  intro member listed
  obtain rfl | rfl | ⟨room, _, rfl⟩ | ⟨recipient, _, rfl⟩ | ⟨payload, present, rfl⟩ |
    ⟨members, _, rfl⟩ | ⟨message, _, rfl⟩ := mem_writtenFields_iff.mp listed
  · exact isValueText_quoted _
  · exact isValueText_quoted _
  · exact isValueText_quoted _
  · exact isValueText_quoted _
  · exact (transmissible payload present).isValue
  · exact isValueText_writtenNames _
  · exact isValueText_quoted _

/-- The frame of a notice is read as a record of what is written. -/
theorem exists_record (transmissible : notice.IsTransmissible) :
    ∃ record, Record.read? fields notice.frame = some record ∧
      IsRecordOf notice.writtenFields record := by
  have short := map_fst_writtenFields_sublist notice
  exact exists_isRecordOf (by simp [writtenFields])
    (isValueText_of_mem_writtenFields transmissible) nodup_fields short.subset
    (short.nodup nodup_fields)

/-- The record of what is written gives back the notice. -/
theorem read?_frame (transmissible : notice.IsTransmissible) :
    read? notice.frame = some notice := by
  obtain ⟨record, recorded, isRecord⟩ := exists_record transmissible
  refine read?_eq_some_iff.mpr ⟨record, recorded, ?_, ?_, ?_, ?_, ?_, ?_, ?_⟩
  · exact isRecord.required?_eq_some (by simp [mem_writtenFields_iff])
  · exact isRecord.required?_eq_some (by simp [mem_writtenFields_iff])
  · exact isRecord.optional?_string_eq_some (by simp [mem_writtenFields_iff])
  · exact isRecord.optional?_string_eq_some (by simp [mem_writtenFields_iff])
  · exact isRecord.optional?_payload_eq_some transmissible (by simp [mem_writtenFields_iff])
  · refine isRecord.optional?_eq_some (fun names => writtenNames (names.map Identity.mk))
      (by simp [mem_writtenFields_iff, Function.comp_def]) ?_
    intro value names present proper same
    have read := strings?_of_text_eq proper same
    refine ⟨?_, by simpa [Function.comp_def] using read⟩
    rintro ⟨blanks, rfl⟩
    contradiction
  · exact isRecord.optional?_string_eq_some (by simp [mem_writtenFields_iff])

/-- Only transmissible notices are read. -/
theorem isTransmissible_of_read? (read : read? frame = some notice) : notice.IsTransmissible := by
  obtain ⟨record, recorded, _, _, _, _, readPayload, _, _⟩ := read?_eq_some_iff.mp read
  obtain ⟨_, _, _, _, rfl, once⟩ := (Record.read?_eq_some_iff nodup_fields).mp recorded
  intro payload present
  rw [present, Record.optional?_eq_some_some_iff once] at readPayload
  obtain ⟨value, listed, notNull, readValue⟩ := readPayload
  exact Payload.isTransmissible_of_ofValue?
    (Record.isProper_of_read? nodup_fields recorded listed) notNull readValue

/-- Exactly the transmissible notices come through. Whatever spelling a notice
was read from, writing it and reading it again changes neither the notice nor
its frame. -/
theorem comes_through (notice : Notice) :
    (notice.IsTransmissible → read? notice.frame = some notice) ∧
      ∀ frame, read? frame = some notice →
        notice.IsTransmissible ∧ read? notice.frame = some notice ∧
          (read? notice.frame).map Notice.frame = some notice.frame := by
  refine ⟨read?_frame, fun frame read => ?_⟩
  have transmissible := isTransmissible_of_read? read
  have again := read?_frame transmissible
  exact ⟨transmissible, again, by rw [again, Option.map_some]⟩

/-- A frame with blanks, escapes and a field that is `null`. -/
def respelled : Bytes :=
  utf8 "[ \"offer\", \"\\u0061\\n\", null, \"b\", [ 1.50 ], [], \"\"]"

/-- The notice that the frame is read as. -/
def meantByRespelled : Notice :=
  { event := "offer"
    sender := ⟨"a\n"⟩
    recipient := some ⟨"b"⟩
    payload := some ⟨"[ 1.50 ]"⟩
    members := some []
    message := some "" }

theorem comes_through_respelled :
    read? respelled = some meantByRespelled ∧ meantByRespelled.IsTransmissible ∧
      read? meantByRespelled.frame = some meantByRespelled := by
  have read : read? respelled = some meantByRespelled := by decide +kernel
  obtain ⟨transmissible, _, _⟩ := (comes_through meantByRespelled).2 respelled read
  exact ⟨read, transmissible, (comes_through meantByRespelled).1 transmissible⟩

end Notice

end Switchboard
