import Switchboard.Proofs.Exchange.Relaying
import Switchboard.Terminal

/-!
# What becomes of a typed line

A line goes out as a broadcast of a string. The server does not read the string,
and passes it on as it was written. So what everybody else receives denotes what
has been typed, whatever characters that consists of.
-/

namespace Switchboard

open Json Text

variable {vocabulary : Vocabulary} {exchange : Exchange} {sender : Identity} {line text : String}

/-! ## Strings as payloads -/

namespace Payload

/-- The payload is written as a string that denotes the text. -/
def Denotes (payload : Payload) (text : String) : Prop :=
  ∃ value : Value, value.IsProper ∧ value.text = utf8 payload.text ∧ value.IsString text

/-- A written text denotes itself and nothing else. -/
theorem denotes_quoted_iff : Denotes ⟨quoted line⟩ text ↔ text = line := by
  constructor
  · rintro ⟨value, proper, written, isString⟩
    have isLine := isString_of_text_eq proper written
    rw [← Value.string?_eq_some_iff] at isString isLine
    exact Option.some.inj (isString.symm.trans isLine)
  · rintro rfl
    exact exists_string_quoted text

/-- A written text can be passed on as a payload. -/
theorem isTransmissible_quoted (line : String) : IsTransmissible ⟨quoted line⟩ := by
  obtain ⟨value, proper, written, isString⟩ := exists_string_quoted line
  exact isTransmissible_of_ofValue? proper isString.not_isNull (ofValue?_eq_some_iff.mpr written)

end Payload

/-! ## Reading a line that was sent -/

theorem Vocabulary.resolve?_label_broadcast (vocabulary : Vocabulary) :
    vocabulary.resolve? (vocabulary.label .broadcast) = some .broadcast := by
  rw [resolve?, Verb.all, List.find?_cons, decide_eq_true rfl]

namespace Terminal

/-- The server finds the label and the payload that the client has written. -/
theorem read?_broadcastText (line : String) :
    Envelope.read? (utf8 (broadcastText line)) =
      some ⟨"broadcast", none, none, some ⟨quoted line⟩⟩ := by
  have areValues : ∀ member ∈ [("payload", quoted line), ("type", quoted "broadcast")],
      IsValueText (utf8 member.2) := by
    simp [isValueText_quoted]
  obtain ⟨record, recorded, isRecord⟩ := exists_isRecordOf (List.cons_ne_nil _ _) areValues
    Envelope.nodup_fields (by simp [Envelope.fields]) (by simp)
  refine Envelope.read?_eq_some_iff.mpr ⟨record, recorded, ?_, ?_, ?_, ?_⟩
  · exact isRecord.required?_eq_some (by simp)
  · exact isRecord.optional?_string_eq_some (by simp)
  · exact isRecord.optional?_string_eq_some (by simp)
  · exact isRecord.optional?_payload_eq_some (by simp [Payload.isTransmissible_quoted]) (by simp)

/-- A line is read as a broadcast of its text, whoever has sent it. -/
theorem read_broadcastText (labelled : vocabulary.label .broadcast = "broadcast")
    (sender : Identity) (line : String) :
    Command.read vocabulary sender (utf8 (broadcastText line)) =
      .ok (.broadcast ⟨quoted line⟩) := by
  have resolved := vocabulary.resolve?_label_broadcast
  rw [labelled] at resolved
  rw [Command.read, read?_broadcastText]
  dsimp only
  rw [resolved]
  rfl

/-! ## Passing it on -/

theorem relays_broadcastText (labelled : exchange.vocabulary.label .broadcast = "broadcast")
    (registered : exchange.directory.contains sender = true) (line : String) :
    ∃ relayed,
      Notice.read? relayed =
        some { event := "broadcast", sender, payload := some ⟨quoted line⟩ } ∧
      Exchange.Relays (fun identity => identity ≠ sender) (fun _ _ => False) relayed exchange
        (exchange.handle sender (utf8 (broadcastText line))) := by
  have read := read_broadcastText labelled sender line
  have transmissible : (exchange.broadcastNotice sender ⟨quoted line⟩).IsTransmissible := by
    rintro _ ⟨⟩
    exact Payload.isTransmissible_quoted line
  refine ⟨(exchange.broadcastNotice sender ⟨quoted line⟩).frame, ?_, ?_⟩
  · rw [Notice.read?_frame transmissible, Exchange.broadcastNotice, labelled]
  · rw [Exchange.handle_of_uncomplained (Exchange.complaint?_of_broadcast registered read)]
    exact Exchange.relays_broadcast registered read

/-! ## What is typed -/

theorem sent_enter {client : Client} {typed : String} (runs : client.ending = none)
    (present : trimEnd typed ≠ "") (stays : (trimEnd typed).map Char.toLower ≠ quitWord) :
    (client.enter (utf8 typed)).sent = client.sent ++ [outgoing (trimEnd typed)] := by
  have entered : Entry.ofLine typed = .send (outgoing (trimEnd typed)) := by
    rw [Entry.ofLine, if_neg present, if_neg stays]
  rw [Client.enter, runs, ofUtf8?_utf8]
  dsimp only
  rw [entered]

/-- What is typed is sent, without the blanks at its end: as it is if it begins with a
brace, and otherwise as a broadcast of a payload that denotes it and nothing else.
Everybody but the sender receives that payload, in the name of the sender. -/
theorem typed_lines_arrive (line : String) :
    (∀ (client : Client) (typed : String), client.ending = none → trimEnd typed = line →
      line ≠ "" → line.map Char.toLower ≠ quitWord →
      (client.enter (utf8 typed)).sent = client.sent ++ [outgoing line]) ∧
    (line.toList.head? = some '\x7b' → outgoing line = line) ∧
    (line.toList.head? ≠ some '\x7b' → ∃ payload : Payload,
      (∀ text, payload.Denotes text ↔ text = line) ∧
      ∀ vocabulary : Vocabulary, vocabulary.label .broadcast = "broadcast" →
        (∀ sender, Command.read vocabulary sender (utf8 (outgoing line)) =
          .ok (.broadcast payload)) ∧
        ∀ (exchange : Exchange) (sender : Identity), exchange.vocabulary = vocabulary →
          exchange.directory.contains sender = true →
          ∃ relayed,
            Notice.read? relayed = some { event := "broadcast", sender, payload := some payload } ∧
            Exchange.Relays (fun identity => identity ≠ sender) (fun _ _ => False) relayed exchange
              (exchange.handle sender (utf8 (outgoing line)))) := by
  refine ⟨?_, fun braced => if_pos braced, fun plain => ⟨⟨quoted line⟩, ?_, ?_⟩⟩
  · rintro client typed runs rfl present stays
    exact sent_enter runs present stays
  · exact fun text => Payload.denotes_quoted_iff
  · intro vocabulary labelled
    have sent : outgoing line = broadcastText line := if_neg plain
    rw [sent]
    refine ⟨fun sender => read_broadcastText labelled sender line, ?_⟩
    rintro exchange sender rfl registered
    exact relays_broadcastText labelled registered line

/-- Alice types quotes, a backslash, a tab, a control character and one from beyond the
basic plane, and a blank at the end. -/
theorem typed_lines_arrive_pair :
    let line := "\"\\\t\x01😀"
    (Client.enter {} (utf8 (line ++ " "))).sent = [outgoing line] ∧
      Exchange.pair.directory.contains ⟨"alice"⟩ = true ∧
      ∃ payload : Payload, payload.Denotes line ∧
        Command.read .standard ⟨"alice"⟩ (utf8 (outgoing line)) = .ok (.broadcast payload) ∧
        ∃ relayed,
          Notice.read? relayed =
            some { event := "broadcast", sender := ⟨"alice"⟩, payload := some payload } ∧
          Exchange.Relays (fun identity => identity ≠ ⟨"alice"⟩) (fun _ _ => False) relayed
            Exchange.pair (Exchange.pair.handle ⟨"alice"⟩ (utf8 (outgoing line))) := by
  intro line
  obtain ⟨sent, _, arrives⟩ := typed_lines_arrive line
  have registered : Exchange.pair.directory.contains ⟨"alice"⟩ = true := by decide +kernel
  obtain ⟨payload, denotes, understood⟩ := arrives (by decide)
  obtain ⟨read, relayed⟩ := understood .standard rfl
  exact ⟨sent {} (line ++ " ") rfl (by decide +kernel) (by decide) (by decide +kernel), registered,
    payload, (denotes line).mpr rfl, read ⟨"alice"⟩, relayed Exchange.pair ⟨"alice"⟩ rfl registered⟩

end Terminal

end Switchboard
