import Switchboard.Proofs.Exchange.Authorship
import Switchboard.Proofs.Exchange.Standing
import Switchboard.Proofs.Vocabulary

/-!
# How payloads are relayed

A payload is never taken apart. The text that a frame gives for it reaches
everybody it is meant for, byte for byte, in a notice with the label that the
frame came with. A broadcast is meant for everybody else, and a signal for its
recipient alone.
-/

namespace Switchboard

open Json Text

namespace Exchange

variable {exchange next : Exchange} {sender recipient identity : Identity} {frame relayed : Bytes}
  {request : Request} {payload : Payload} {mailbox filled : Mailbox}

/-- One frame is put into the queues of those that it is meant for, and nothing
else into any queue, except for what is sent besides. -/
structure Relays (meant : Identity → Prop) (besides : Connection → Bytes → Prop)
    (relayed : Bytes) (exchange next : Exchange) : Prop where
  only : Gains (fun connection sent => (sent = relayed ∧ ∃ identity, meant identity ∧
    exchange.directory.find? identity = some connection) ∨ besides connection sent) exchange next
  /-- Whoever has room gets the frame. -/
  all : exchange.Equipped → exchange.running = true → ∀ identity mailbox filled, meant identity →
    exchange.mailboxOf? identity = some mailbox → mailbox.enqueue relayed = .ok filled →
      next.mailboxOf? identity = some filled

theorem mailbox_offered {standing : Standing} (registered : standing.mailbox = some mailbox)
    (accepted : mailbox.enqueue frame = .ok filled) :
    (standing.offered frame).mailbox = some filled := by
  simp [Standing.offered, registered, accepted]

/-- A request relays its frame to those whom it addresses. -/
theorem relays_serve (isFrame : request.frame? = some relayed) (exchange : Exchange) :
    Relays (fun identity => request.addresses identity = true) (fun _ _ => False) relayed exchange
      (exchange.serve request).2 := by
  have delivers : request.isDelivery = true := by
    cases request with
    | register | unregister => contradiction
    | deliver | broadcast => rfl
  constructor
  · refine (gains_serve delivers exchange).mono ?_
    rintro connection sent ⟨isSent, addressed⟩
    exact .inl ⟨Option.some.inj (isSent.symm.trans isFrame), addressed⟩
  · intro equipped serving identity mailbox filled addressed registered accepted
    have offered : (exchange.serve request).2.standing identity =
        (exchange.standing identity).offered relayed := by
      cases request with
      | register | unregister => contradiction
      | deliver recipient frame =>
          cases isFrame
          exact (standing_deliver equipped).trans
            (if_pos ⟨serving, by simpa [Request.addresses] using addressed⟩)
      | broadcast frame excluded =>
          cases isFrame
          exact (standing_broadcast equipped).trans
            (if_pos ⟨serving, by simpa [Request.addresses] using addressed⟩)
    exact (congrArg Standing.mailbox offered).trans (mailbox_offered registered accepted)

theorem dispatch_of_routed? (routed : exchange.routed? sender frame = some request) :
    (exchange.dispatch sender frame).2 = (exchange.serve request).2 := by
  have outcome := exchange.dispatched_dispatch sender frame
  generalize (exchange.dispatch sender frame).2 = next at outcome ⊢
  cases outcome with
  | served found =>
      rw [routed] at found
      rw [Option.some.inj found]
  | joined _ unrouted | left unrouted | unchanged unrouted =>
      rw [routed] at unrouted
      contradiction

theorem dispatch_of_read {command : Command}
    (registered : exchange.directory.contains sender = true)
    (read : Command.read exchange.vocabulary sender frame = .ok command) :
    exchange.dispatch sender frame = exchange.carryOut sender command := by
  rw [dispatch, if_pos registered, read]

theorem routed?_of_read {command : Command}
    (registered : exchange.directory.contains sender = true)
    (read : Command.read exchange.vocabulary sender frame = .ok command) :
    exchange.routed? sender frame = exchange.asked? sender command := by
  rw [routed?, if_pos registered, read]

theorem handle_of_uncomplained (uncomplained : exchange.complaint? sender frame = none) :
    exchange.handle sender frame = (exchange.dispatch sender frame).2 := by
  rw [handle_eq, uncomplained]

/-! ## Broadcasts -/

/-- A broadcast fails only when there is nobody left who would complain. -/
theorem complaint?_of_broadcast (registered : exchange.directory.contains sender = true)
    (read : Command.read exchange.vocabulary sender frame = .ok (.broadcast payload)) :
    exchange.complaint? sender frame = none := by
  rw [complaint?, dispatch_of_read registered read, carryOut, broadcast_eq]
  by_cases serving : exchange.running
  · rw [if_pos serving]
    rfl
  · rw [if_neg serving]
    rfl

theorem relays_broadcast (registered : exchange.directory.contains sender = true)
    (read : Command.read exchange.vocabulary sender frame = .ok (.broadcast payload)) :
    Relays (fun identity => identity ≠ sender) (fun _ _ => False)
      (exchange.broadcastNotice sender payload).frame exchange
        (exchange.dispatch sender frame).2 := by
  have routed := routed?_of_read registered read
  have addressed : (fun identity : Identity => Request.addresses identity
      (.broadcast (exchange.broadcastNotice sender payload).frame (some sender)) = true) =
        fun identity => identity ≠ sender := by
    funext identity
    rw [Request.addresses, decide_eq_true_eq, ne_eq, Option.some.injEq, ne_eq,
      eq_comm (a := sender)]
  rw [dispatch_of_routed? routed, ← addressed]
  exact relays_serve rfl exchange

/-! ## Signals -/

/-- The frame tells a sender, at its own connection, what went wrong. -/
def Complains (exchange : Exchange) (sender : Identity) (connection : Connection)
    (frame : Bytes) : Prop :=
  exchange.directory.find? sender = some connection ∧
    ∃ message, frame = (Notice.error sender message).frame

variable {signal : Signal}

theorem relays_signal (registered : exchange.directory.contains sender = true)
    (read : Command.read exchange.vocabulary sender frame = .ok (.signal signal)) :
    Relays (fun identity => signal.recipient = some identity) (fun _ _ => False)
      (Notice.ofSignal signal).frame exchange (exchange.dispatch sender frame).2 := by
  cases meant : signal.recipient with
  | none =>
      have unmoved : (exchange.dispatch sender frame).2 = exchange := by
        rw [dispatch_of_read registered read, carryOut, Signal.forward, meant]
      rw [unmoved]
      refine ⟨.of_mailboxes rfl, fun _ _ identity _ _ isMeant => ?_⟩
      contradiction
  | some recipient =>
      have routed : exchange.routed? sender frame =
          some (.deliver recipient (Notice.ofSignal signal).frame) := by
        rw [routed?_of_read registered read, asked?, meant, Option.map_some]
      have addressed : (fun identity => Request.addresses identity
          (.deliver recipient (Notice.ofSignal signal).frame) = true) =
            fun identity => some recipient = some identity := by
        funext identity
        simp [Request.addresses]
      rw [dispatch_of_routed? routed, ← addressed]
      exact relays_serve rfl exchange

theorem deliver_eq_ok (serving : exchange.running = true)
    (registered : exchange.mailboxOf? recipient = some mailbox)
    (accepted : mailbox.enqueue frame = .ok filled) :
    (exchange.deliver recipient frame).1 = .ok () := by
  obtain ⟨connection, found, opened⟩ := Option.bind_eq_some_iff.mp registered
  have queued := enqueue_eq_ok_iff.mpr ⟨mailbox, filled, opened, accepted, rfl⟩
  rw [deliver, if_pos serving, Directory.get, found]
  dsimp only
  rw [queued]

/-- When a signal cannot be delivered, its sender is told. -/
theorem relays_signal_handle (registered : exchange.directory.contains sender = true)
    (read : Command.read exchange.vocabulary sender frame = .ok (.signal signal)) :
    Relays (fun identity => signal.recipient = some identity) (exchange.Complains sender)
      (Notice.ofSignal signal).frame exchange (exchange.handle sender frame) := by
  constructor
  · refine (exchange.gains_handle sender frame).mono ?_
    rintro connection sent ⟨request, routed | complained, isSent, identity, addressed, found⟩
    · rw [routed?_of_read registered read] at routed
      obtain ⟨recipient, meant, rfl⟩ := Option.map_eq_some_iff.mp routed
      cases isSent
      have same : recipient = identity := by simpa [Request.addresses] using addressed
      exact .inl ⟨rfl, identity, same ▸ meant, found⟩
    · obtain ⟨error, _, _, rfl⟩ := complaint?_eq_some complained
      cases isSent
      have same : sender = identity := by simpa [Request.addresses] using addressed
      exact .inr ⟨same ▸ found, error.message, rfl⟩
  · intro equipped serving identity mailbox filled meant known accepted
    have delivered := deliver_eq_ok serving known accepted
    have uncomplained : exchange.complaint? sender frame = none := by
      rw [complaint?, dispatch_of_read registered read, carryOut, Signal.forward, meant]
      dsimp only
      rw [delivered]
      rfl
    rw [handle_of_uncomplained uncomplained]
    exact (relays_signal registered read).all equipped serving identity mailbox filled meant known
      accepted

/-! ## Payloads -/

/-- The payload of a broadcast or a signal is a slice of the frame that it came
with. It is relayed as it is, with the label and in the name of the sender:
that of a broadcast to everybody else, and that of a signal to its recipient,
together with the room and the recipient that are named. Only the sender may
hear of anything else. -/
theorem payloads_are_relayed (registered : exchange.directory.contains sender = true)
    (frame : Bytes) (payload : Payload) :
    (Command.read exchange.vocabulary sender frame = .ok (.broadcast payload) →
      payload.IsGivenBy frame ∧ ∃ envelope relayed, Envelope.read? frame = some envelope ∧
        Notice.read? relayed = some { event := envelope.label, sender, payload := some payload } ∧
        Relays (fun identity => identity ≠ sender) (fun _ _ => False) relayed exchange
          (exchange.dispatch sender frame).2 ∧
        exchange.handle sender frame = (exchange.dispatch sender frame).2) ∧
    ∀ signal, Command.read exchange.vocabulary sender frame = .ok (.signal signal) →
      signal.payload = some payload →
      payload.IsGivenBy frame ∧ ∃ envelope relayed, Envelope.read? frame = some envelope ∧
        Notice.read? relayed = some
          { event := envelope.label, sender, room := nonempty? envelope.room,
            recipient := (nonempty? envelope.recipient).map Identity.mk,
            payload := some payload } ∧
        Relays (fun identity => (nonempty? envelope.recipient).map Identity.mk = some identity)
          (fun _ _ => False) relayed exchange (exchange.dispatch sender frame).2 ∧
        Relays (fun identity => (nonempty? envelope.recipient).map Identity.mk = some identity)
          (exchange.Complains sender) relayed exchange (exchange.handle sender frame) := by
  constructor
  · intro read
    obtain ⟨envelope, verb, readEnvelope, resolved, meant⟩ := Command.read_eq_ok_iff.mp read
    obtain ⟨rfl, present⟩ := Command.ofEnvelope_eq_broadcast_iff.mp meant
    have given := Envelope.isGivenBy_of_read? readEnvelope present
    have transmissible : (exchange.broadcastNotice sender payload).IsTransmissible := by
      rintro _ ⟨⟩
      exact given.transmissible
    refine ⟨given, envelope, _, readEnvelope, ?_, relays_broadcast registered read,
      handle_of_uncomplained (complaint?_of_broadcast registered read)⟩
    rw [Notice.read?_frame transmissible, broadcastNotice, Vocabulary.label_of_resolve? resolved]
  · intro signal read carried
    obtain ⟨envelope, verb, readEnvelope, _, meant⟩ := Command.read_eq_ok_iff.mp read
    obtain ⟨_, rfl⟩ := Command.ofEnvelope_eq_signal_iff.mp meant
    have given := Envelope.isGivenBy_of_read? readEnvelope carried
    refine ⟨given, envelope, _, readEnvelope, ?_, relays_signal registered read,
      relays_signal_handle registered read⟩
    rw [Notice.read?_frame fun _ present =>
      (Envelope.isGivenBy_of_read? readEnvelope present).transmissible]
    change envelope.payload = some payload at carried
    rw [Notice.ofSignal, carried]

/-- Alice and Bob are registered, with room for a frame each. -/
def pair : Exchange :=
  (start .standard 1).run
    [.openMailbox 1, .openMailbox 1,
      .request (.register ⟨"alice"⟩ 0), .request (.register ⟨"bob"⟩ 1)]

/-- Alice tells everybody something. -/
def toEverybody : Bytes :=
  utf8 "[\"broadcast\", null, null, [ 1.50, \"\\ud800\" ] ]"

/-- Alice tells Bob something. -/
def toBob : Bytes :=
  utf8 "[\"offer\", \"\", \"bob\", 1e0 ]"

/-- Somebody tells Carol something. -/
def toCarol : Bytes :=
  utf8 "[\"offer\",null,\"carol\",1]"

/-- What Carol is told is a signal for her alone. -/
theorem read_toCarol : Command.read .standard ⟨"bob"⟩ toCarol =
    .ok (.signal ⟨.offer, "offer", ⟨"bob"⟩, none, some ⟨"carol"⟩, some ⟨"1"⟩⟩) := by
  decide +kernel

theorem payloads_are_relayed_pair :
    pair.directory.contains ⟨"alice"⟩ = true ∧
      (∃ relayed,
        Notice.read? relayed = some
          { event := "broadcast", sender := ⟨"alice"⟩,
            payload := some ⟨"[ 1.50, \"\\ud800\" ]"⟩ } ∧
        Relays (fun identity => identity ≠ ⟨"alice"⟩) (fun _ _ => False) relayed pair
          (pair.handle ⟨"alice"⟩ toEverybody)) ∧
      ∃ relayed,
        Notice.read? relayed = some
          { event := "offer", sender := ⟨"alice"⟩, recipient := some ⟨"bob"⟩,
            payload := some ⟨"1e0"⟩ } ∧
        Relays (fun identity => some ⟨"bob"⟩ = some identity) (pair.Complains ⟨"alice"⟩) relayed
          pair (pair.handle ⟨"alice"⟩ toBob) := by
  have registered : pair.directory.contains ⟨"alice"⟩ = true := by decide +kernel
  have toAll : Envelope.read? toEverybody = some
      ⟨"broadcast", none, none, some ⟨"[ 1.50, \"\\ud800\" ]"⟩⟩ := by decide +kernel
  have toOne : Envelope.read? toBob = some ⟨"offer", some "", some "bob", some ⟨"1e0"⟩⟩ := by
    decide +kernel
  refine ⟨registered, ?_, ?_⟩
  · obtain ⟨_, envelope, relayed, read, notice, relays, handled⟩ :=
      (payloads_are_relayed registered toEverybody ⟨"[ 1.50, \"\\ud800\" ]"⟩).1 (by decide +kernel)
    cases toAll.symm.trans read
    exact ⟨relayed, notice, handled ▸ relays⟩
  · obtain ⟨_, envelope, relayed, read, notice, _, relays⟩ :=
      (payloads_are_relayed registered toBob ⟨"1e0"⟩).2
        ⟨.offer, "offer", ⟨"alice"⟩, none, some ⟨"bob"⟩, some ⟨"1e0"⟩⟩ (by decide +kernel) rfl
    cases toOne.symm.trans read
    exact ⟨relayed, notice, relays⟩

end Exchange

end Switchboard
