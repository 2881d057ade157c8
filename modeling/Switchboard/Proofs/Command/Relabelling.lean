import Switchboard.Proofs.Command
import Switchboard.Proofs.Json.Edit
import Switchboard.Proofs.Vocabulary

/-!
# Frames in another vocabulary

A frame is put into another vocabulary by exchanging the text that it gives for
its label, and nothing else. What is then read under the other vocabulary is
the same command, or the same error, with the label exchanged where it is
repeated.
-/

namespace Switchboard

open Json Text

variable {vocabulary other : Vocabulary} {frame changed : Bytes}

namespace Envelope

/-- What a frame gives for a field, and what it gives in another vocabulary.
The text of a label becomes its counterpart, and everything else stays. -/
inductive Relabels (vocabulary other : Vocabulary) : String → Value → Value → Prop
  | label {value renamed : Value} {text counterpart : String} (isText : value.IsString text)
      (isCounterpart : renamed.IsString counterpart)
      (renames : vocabulary.Renames other text counterpart) :
      Relabels vocabulary other "type" value renamed
  | unlabelled {value : Value} (textless : ∀ text, ¬value.IsString text) :
      Relabels vocabulary other "type" value value
  | kept {field : String} {value : Value} (apart : field ≠ "type") :
      Relabels vocabulary other field value value

/-- The frame becomes another one when its label is put into another
vocabulary. A frame that makes no sense stays as it is. -/
inductive RelabelledTo (vocabulary other : Vocabulary) : Bytes → Bytes → Prop
  | object {frame changed : Bytes} {members others : List (List Piece × Value)}
      (spelled : (Document.object members).SpelledBy frame)
      (spelledOther : (Document.object others).SpelledBy changed)
      (corresponding : List.Forall₂ (Document.Corresponds fields (Relabels vocabulary other))
        members others) :
      RelabelledTo vocabulary other frame changed
  | array {frame changed : Bytes} {label renamed : Value} {rest : List Value}
      (spelled : (Document.array (label :: rest)).SpelledBy frame)
      (spelledOther : (Document.array (renamed :: rest)).SpelledBy changed)
      (relabels : Relabels vocabulary other "type" label renamed) :
      RelabelledTo vocabulary other frame changed
  | senseless {frame : Bytes} (unread : read? frame = none) :
      RelabelledTo vocabulary other frame frame

/-- Both records hold the same under the same names, but for the label. -/
abbrev RelabelsRecord (vocabulary other : Vocabulary) : Record → Record → Prop :=
  List.Forall₂ fun before after =>
    before.1 = after.1 ∧ Relabels vocabulary other before.1 before.2 after.2

/-- The fields are the same, but for the label. -/
inductive Renames (vocabulary other : Vocabulary) : Envelope → Envelope → Prop
  | intro {text counterpart : String} {room recipient : Option String} {payload : Option Payload}
      (renames : vocabulary.Renames other text counterpart) :
      Renames vocabulary other { label := text, room, recipient, payload }
        { label := counterpart, room, recipient, payload }

/-! ## Reading the fields -/

theorem Relabels.rel_string? {value renamed : Value}
    (relabels : Relabels vocabulary other "type" value renamed) :
    Option.Rel (vocabulary.Renames other) value.string? renamed.string? := by
  cases relabels with
  | label isText isCounterpart renames =>
      rw [Value.string?_eq_some_iff.mpr isText, Value.string?_eq_some_iff.mpr isCounterpart]
      exact .some renames
  | unlabelled textless =>
      have unread : value.string? = none := by
        rw [Option.eq_none_iff_forall_ne_some]
        intro text isText
        exact textless text (Value.string?_eq_some_iff.mp isText)
      rw [unread]
      exact .none
  | kept apart => contradiction

theorem Relabels.eq_of_ne {field : String} {value renamed : Value}
    (relabels : Relabels vocabulary other field value renamed) (apart : field ≠ "type") :
    renamed = value := by
  cases relabels with
  | label | unlabelled => contradiction
  | kept => rfl

/-- Of positions, only the first one is for the label. -/
theorem relabelsRecord_zip {label renamed : Value} {rest : List Value}
    (relabels : Relabels vocabulary other "type" label renamed) :
    RelabelsRecord vocabulary other (fields.zip (label :: rest))
      (fields.zip (renamed :: rest)) := by
  have behind : ∀ field ∈ ["room", "recipient", "payload"], field ≠ "type" := by decide
  apply List.Forall₂.cons ⟨rfl, relabels⟩
  rw [List.forall₂_same]
  intro member listed
  exact ⟨rfl, .kept (behind _ (List.of_mem_zip listed).1)⟩

theorem rel_label {first second : Record}
    (relabels : RelabelsRecord vocabulary other first second) :
    Option.Rel (vocabulary.Renames other) (first.required? Value.string? "type")
      (second.required? Value.string? "type") := by
  have found := Record.rel_lookup relabels "type"
  rw [Record.required?, Record.required?]
  generalize first.lookup "type" = before at found ⊢
  generalize second.lookup "type" = after at found ⊢
  cases found with
  | none => exact .none
  | some relabels => exact relabels.rel_string?

theorem optional?_eq_of_ne {first second : Record} {α : Type} (read? : Value → Option α)
    {field : String} (relabels : RelabelsRecord vocabulary other first second)
    (apart : field ≠ "type") : second.optional? read? field = first.optional? read? field := by
  have found := Record.rel_lookup relabels field
  rw [Record.optional?, Record.optional?]
  generalize first.lookup field = before at found ⊢
  generalize second.lookup field = after at found ⊢
  cases found with
  | none => rfl
  | some relabels => rw [relabels.eq_of_ne apart]

theorem rel_ofRecord? {first second : Record}
    (relabels : RelabelsRecord vocabulary other first second) :
    Option.Rel (Renames vocabulary other) (ofRecord? first) (ofRecord? second) := by
  have label := rel_label relabels
  rw [ofRecord?, ofRecord?, optional?_eq_of_ne _ relabels (by decide),
    optional?_eq_of_ne _ relabels (by decide), optional?_eq_of_ne _ relabels (by decide)]
  generalize first.required? Value.string? "type" = before at label ⊢
  generalize second.required? Value.string? "type" = after at label ⊢
  cases label with
  | none => exact .none
  | some renames =>
      cases first.optional? Value.string? "room" with
      | none => exact .none
      | some room =>
          cases first.optional? Value.string? "recipient" with
          | none => exact .none
          | some recipient =>
              cases first.optional? Payload.ofValue? "payload" with
              | none => exact .none
              | some payload => exact .some (.intro renames)

theorem read?_of_spelledBy {document : Document} (spelled : document.SpelledBy frame) :
    read? frame = (Record.ofDocument? fields document).bind ofRecord? := by
  rw [read?_eq_bind, Record.read?, Document.read?_eq_some_iff.mpr spelled, Option.bind_some]

/-- What is read from a frame in another vocabulary differs in the label at
most. -/
theorem RelabelledTo.rel_read? (relabelled : RelabelledTo vocabulary other frame changed) :
    Option.Rel (Renames vocabulary other) (read? frame) (read? changed) := by
  have read {document renamed : Document} (spelled : document.SpelledBy frame)
      (spelledOther : renamed.SpelledBy changed)
      (relabels : Option.Rel (RelabelsRecord vocabulary other)
        (Record.ofDocument? fields document) (Record.ofDocument? fields renamed)) :
      Option.Rel (Renames vocabulary other) (read? frame) (read? changed) := by
    rw [read?_of_spelledBy spelled, read?_of_spelledBy spelledOther]
    generalize Record.ofDocument? fields document = first at relabels ⊢
    generalize Record.ofDocument? fields renamed = second at relabels ⊢
    cases relabels with
    | none => exact .none
    | some relabels => exact rel_ofRecord? relabels
  cases relabelled with
  | object spelled spelledOther corresponding =>
      exact read spelled spelledOther
        (Document.rel_ofDocument?_of_corresponding nodup_fields corresponding)
  | array spelled spelledOther relabels =>
      apply read spelled spelledOther
      rw [Record.ofDocument?, Record.ofDocument?, List.length_cons, List.length_cons]
      split
      · exact .some (relabelsRecord_zip relabels)
      · exact .none
  | senseless unread =>
      rw [unread]
      exact .none

end Envelope

/-! ## Reading commands -/

/-- The same error, with the label of the same verb. -/
inductive CommandError.Renames (vocabulary other : Vocabulary) : CommandError → CommandError → Prop
  | malformed : Renames vocabulary other .malformed .malformed
  | unknownLabel {text : String} (unknown : text ∉ vocabulary.labels)
      (unknownThere : text ∉ other.labels) :
      Renames vocabulary other (.unknownLabel text) (.unknownLabel text)
  | roomMissing (verb : Verb) :
      Renames vocabulary other (.roomMissing (vocabulary.label verb))
        (.roomMissing (other.label verb))
  | payloadMissing (verb : Verb) :
      Renames vocabulary other (.payloadMissing (vocabulary.label verb))
        (.payloadMissing (other.label verb))

namespace Command

/-- What is read from a frame, and from its counterpart in another vocabulary. -/
inductive ReadAs (vocabulary other : Vocabulary) :
    Except CommandError Command → Except CommandError Command → Prop
  | error {error renamed : CommandError} (renames : error.Renames vocabulary other renamed) :
      ReadAs vocabulary other (.error error) (.error renamed)
  | signal (verb : Verb) (sender : Identity) (room : Option String) (recipient : Option Identity)
      (payload : Option Payload) :
      ReadAs vocabulary other
        (.ok (.signal
          { verb, event := vocabulary.label verb, sender, room, recipient, payload }))
        (.ok (.signal { verb, event := other.label verb, sender, room, recipient, payload }))
  | same {command : Command} (unlabelled : ∀ signal, command ≠ .signal signal) :
      ReadAs vocabulary other (.ok command) (.ok command)

theorem readAs_ofEnvelope (verb : Verb) (sender : Identity) (room recipient : Option String)
    (payload : Option Payload) :
    ReadAs vocabulary other
      (ofEnvelope verb sender { label := vocabulary.label verb, room, recipient, payload })
      (ofEnvelope verb sender { label := other.label verb, room, recipient, payload }) := by
  cases verb with
  | broadcast =>
      cases payload with
      | none => exact .error (.payloadMissing .broadcast)
      | some payload => exact .same (by rintro _ ⟨⟩)
  | join =>
      rw [ofEnvelope, ofEnvelope]
      cases nonempty? room with
      | none => exact .error (.roomMissing .join)
      | some room => exact .same (by rintro _ ⟨⟩)
  | leave =>
      rw [ofEnvelope, ofEnvelope]
      cases nonempty? room with
      | none => exact .error (.roomMissing .leave)
      | some room => exact .same (by rintro _ ⟨⟩)
  | offer | answer | iceCandidate => exact .signal _ sender _ _ payload
  | list => exact .same (by rintro _ ⟨⟩)
  | me => exact .same (by rintro _ ⟨⟩)

/-- A frame and its counterpart ask for the same under their vocabularies. -/
theorem readAs_read (usable : vocabulary.isUsable = true) (usableThere : other.isUsable = true)
    (relabelled : Envelope.RelabelledTo vocabulary other frame changed) (sender : Identity) :
    ReadAs vocabulary other (read vocabulary sender frame) (read other sender changed) := by
  have fields := relabelled.rel_read?
  rw [read, read]
  generalize Envelope.read? frame = before at fields ⊢
  generalize Envelope.read? changed = after at fields ⊢
  cases fields with
  | none => exact .error .malformed
  | some fields =>
      cases fields with
      | intro renames =>
          cases renames with
          | label verb =>
              dsimp only
              rw [Vocabulary.resolve?_label usable, Vocabulary.resolve?_label usableThere]
              exact readAs_ofEnvelope verb sender _ _ _
          | foreign unknown unknownThere =>
              dsimp only
              rw [Vocabulary.resolve?_eq_none_iff.mpr unknown,
                Vocabulary.resolve?_eq_none_iff.mpr unknownThere]
              exact .error (.unknownLabel unknown unknownThere)

end Command

end Switchboard
