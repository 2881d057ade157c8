import Switchboard.Proofs.Exchange.Gains
import Switchboard.Proofs.Notice

/-!
# In whose name notices are sent

Whatever a client sends, the exchange puts only notices in the client's own
name into queues. Labels, rooms, recipients and payloads are the client's
choice, but none of them can bring another sender into a notice. What a frame
says about its sender is skipped.
-/

namespace Switchboard

open Json Text

variable {sender : Identity} {notice : Notice} {frame : Bytes}

/-- The frame is a notice in the name of the sender. -/
def IsAuthoredBy (sender : Identity) (frame : Bytes) : Prop :=
  IsUtf8 frame ∧ ∃ notice, Notice.read? frame = some notice ∧ notice.sender = sender

theorem Notice.IsTransmissible.isAuthoredBy (transmissible : notice.IsTransmissible) :
    IsAuthoredBy notice.sender notice.frame :=
  ⟨isUtf8_utf8 notice.text, notice, read?_frame transmissible, rfl⟩

namespace Exchange

variable {exchange : Exchange} {command : Command} {request : Request}

/-- A command comes down to a notice in the name of its sender. -/
theorem isAuthoredBy_of_asked?
    (read : Command.read exchange.vocabulary sender frame = .ok command)
    (asked : exchange.asked? sender command = some request) {sent : Bytes}
    (isFrame : request.frame? = some sent) : IsAuthoredBy sender sent := by
  obtain ⟨envelope, verb, readEnvelope, _, meant⟩ := Command.read_eq_ok_iff.mp read
  cases command with
  | broadcast payload =>
      cases asked
      cases isFrame
      obtain ⟨_, present⟩ := Command.ofEnvelope_eq_broadcast_iff.mp meant
      have given := Envelope.isGivenBy_of_read? readEnvelope present
      have transmissible : (exchange.broadcastNotice sender payload).IsTransmissible := by
        rintro _ ⟨⟩
        exact given.transmissible
      exact transmissible.isAuthoredBy
  | signal signal =>
      obtain ⟨recipient, _, rfl⟩ := Option.map_eq_some_iff.mp asked
      cases isFrame
      obtain ⟨_, rfl⟩ := Command.ofEnvelope_eq_signal_iff.mp meant
      exact Notice.IsTransmissible.isAuthoredBy fun payload present =>
        (Envelope.isGivenBy_of_read? readEnvelope present).transmissible
  | list room =>
      cases asked
      cases isFrame
      have transmissible : (exchange.listNotice sender room).IsTransmissible := nofun
      exact transmissible.isAuthoredBy
  | me =>
      cases asked
      cases isFrame
      have transmissible : (exchange.meNotice sender).IsTransmissible := nofun
      exact transmissible.isAuthoredBy
  | join | leave => contradiction

theorem isAuthoredBy_of_routed? (routed : exchange.routed? sender frame = some request)
    {sent : Bytes} (isFrame : request.frame? = some sent) : IsAuthoredBy sender sent := by
  rw [routed?] at routed
  split at routed
  · split at routed
    · contradiction
    · rename_i read
      exact isAuthoredBy_of_asked? read routed isFrame
  · contradiction

theorem isAuthoredBy_of_complaint? (complained : exchange.complaint? sender frame = some request)
    {sent : Bytes} (isFrame : request.frame? = some sent) : IsAuthoredBy sender sent := by
  obtain ⟨error, _, _, rfl⟩ := complaint?_eq_some complained
  cases isFrame
  have transmissible : (Notice.error sender error.message).IsTransmissible := nofun
  exact transmissible.isAuthoredBy

theorem handle_eq_of_read_eq {other : Bytes}
    (same : Command.read exchange.vocabulary sender frame =
      Command.read exchange.vocabulary sender other) :
    exchange.handle sender frame = exchange.handle sender other := by
  rw [handle, handle, dispatch, dispatch, same]

/-- Handling a frame puts only notices in the name of its sender into queues.
Of an object, it makes no difference what is given under names that are no
fields, be it a sender. -/
theorem handle_is_authored (exchange : Exchange) (sender : Identity) :
    (∀ frame, Gains (fun _ sent => IsAuthoredBy sender sent) exchange
      (exchange.handle sender frame)) ∧
    ∀ frame other members others, (Document.object members).SpelledBy frame →
      (Document.object others).SpelledBy other →
      List.Forall₂ (Record.Alike Envelope.fields) members others →
        exchange.handle sender frame = exchange.handle sender other := by
  constructor
  · intro frame
    refine (exchange.gains_handle sender frame).mono ?_
    rintro connection sent ⟨request, routed | complained, isFrame, _⟩
    · exact isAuthoredBy_of_routed? routed isFrame
    · exact isAuthoredBy_of_complaint? complained isFrame
  · intro frame other members others spelled spelledOther alike
    have same := Record.read?_eq_of_alike Envelope.nodup_fields alike spelled spelledOther
    have sameEnvelope : Envelope.read? frame = Envelope.read? other := by
      rw [Envelope.read?, Envelope.read?, same]
    apply handle_eq_of_read_eq
    rw [Command.read, Command.read, sameEnvelope]

/-- Alice is registered, with room for one frame. -/
def aliceAlone : Exchange :=
  (start .standard 1).run [.openMailbox 1, .request (.register ⟨"alice"⟩ 0)]

/-- Alice asks who she is, and claims to be Bob. -/
def claimingBob : Bytes :=
  utf8 "\x7b\"sender\":\"bob\",\"type\":\"me\"\x7d"

/-- Alice asks who she is, and claims to be nobody. -/
def claimingNobody : Bytes :=
  utf8 "\x7b\"sender\": [null],\"type\":\"me\"\x7d"

theorem handle_is_authored_aliceAlone :
    aliceAlone.handle ⟨"alice"⟩ claimingBob = aliceAlone.handle ⟨"alice"⟩ claimingNobody ∧
      ∃ sent, (aliceAlone.handle ⟨"alice"⟩ claimingBob).queuedFor 0 = [sent] ∧
        IsAuthoredBy ⟨"alice"⟩ sent := by
  have unsent : aliceAlone.queuedFor 0 = [] := by decide +kernel
  have single : ((aliceAlone.handle ⟨"alice"⟩ claimingBob).queuedFor 0).length = 1 := by
    decide +kernel
  constructor
  · let sender : List Piece := (utf8 "sender").map .byte
    let type : List Piece := (utf8 "type").map .byte
    let me : Value := [⟨[], .string ((utf8 "me").map .byte)⟩]
    let bob : Value := [⟨[], .string ((utf8 "bob").map .byte)⟩]
    let list : Value :=
      [⟨[Ascii.space], .mark .beginArray⟩, ⟨[], .word .null⟩, ⟨[], .mark .endArray⟩]
    refine (handle_is_authored aliceAlone ⟨"alice"⟩).2 claimingBob claimingNobody
      [(sender, bob), (type, me)] [(sender, list), (type, me)]
      (by decide +kernel) (by decide +kernel)
      (.cons ⟨rfl, ?_⟩ (.cons ⟨rfl, fun _ _ _ => rfl⟩ .nil))
    intro field isField denotes
    rw [← denotation?_eq_some_iff] at denotes
    have named : denotation? sender = some "sender" := by decide +kernel
    cases named.symm.trans denotes
    exact absurd isField (by decide)
  · obtain ⟨added, grown, authored⟩ := (handle_is_authored aliceAlone ⟨"alice"⟩).1 claimingBob 0
    rw [unsent, List.nil_append] at grown
    obtain ⟨sent, rfl⟩ := List.length_eq_one_iff.mp (grown ▸ single)
    exact ⟨sent, grown, authored sent List.mem_cons_self⟩

end Exchange

end Switchboard
