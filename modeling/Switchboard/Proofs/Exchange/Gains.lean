import Switchboard.Proofs.Exchange.Ownership

/-!
# What is put into queues

Requests only ever put frames at the end of queues. What a request puts there
is its own frame, and only for connections of the identities that it
addresses. So whatever a client's frame does to the queues is seen from the
requests that it leads to.
-/

namespace Switchboard

/-- The frame that a request delivers. -/
def Request.frame? : Request → Option Bytes
  | .deliver _ frame | .broadcast frame _ => some frame
  | .register _ _ | .unregister _ => none

namespace Exchange

variable {exchange next last : Exchange} {identity recipient sender : Identity}
  {connection : Connection} {frame : Bytes} {request : Request}
  {sent allowed : Connection → Bytes → Prop}

/-- The frames that are queued for a connection. There are none before it is
opened. -/
def queuedFor (exchange : Exchange) (connection : Connection) : List Bytes :=
  match exchange.mailboxes[connection]? with
  | none => []
  | some mailbox => mailbox.queued.toList

/-- Every queue keeps what is in it, and gains only what may be sent to its
connection. -/
def Gains (sent : Connection → Bytes → Prop) (exchange next : Exchange) : Prop :=
  ∀ connection, ∃ added, next.queuedFor connection = exchange.queuedFor connection ++ added ∧
    ∀ frame ∈ added, sent connection frame

namespace Gains

theorem of_eq (unmoved : ∀ connection, next.queuedFor connection = exchange.queuedFor connection) :
    Gains sent exchange next := by
  intro connection
  refine ⟨[], ?_, nofun⟩
  rw [unmoved, List.append_nil]

theorem of_mailboxes (unmoved : next.mailboxes = exchange.mailboxes) :
    Gains sent exchange next :=
  .of_eq fun connection => by rw [queuedFor, queuedFor, unmoved]

theorem mono (gains : Gains sent exchange next)
    (weaker : ∀ connection frame, sent connection frame → allowed connection frame) :
    Gains allowed exchange next := by
  intro connection
  obtain ⟨added, grown, fromSent⟩ := gains connection
  exact ⟨added, grown, fun frame listed => weaker connection frame (fromSent frame listed)⟩

theorem trans (first : Gains sent exchange next) (second : Gains sent next last) :
    Gains sent exchange last := by
  intro connection
  obtain ⟨added, grown, fromSent⟩ := first connection
  obtain ⟨more, grownAgain, moreFromSent⟩ := second connection
  refine ⟨added ++ more, ?_, ?_⟩
  · rw [grownAgain, grown, List.append_assoc]
  · rw [List.forall_mem_append]
    exact ⟨fromSent, moreFromSent⟩

end Gains

/-! ## Requests -/

theorem queuedFor_depart {departure : Departure} {used : Connection}
    (found : exchange.directory.find? identity = some used) :
    (exchange.depart identity departure).queuedFor connection = exchange.queuedFor connection := by
  unfold queuedFor
  rw [getElem?_depart found]
  cases exchange.mailboxes[connection]? with
  | none => simp
  | some mailbox => by_cases same : connection = used <;> simp [same, Mailbox.close]

theorem queuedFor_enqueue {used : Connection}
    (queued : exchange.enqueue used frame = .ok next) :
    next.queuedFor connection =
      exchange.queuedFor connection ++ if connection = used then [frame] else [] := by
  unfold queuedFor
  rw [getElem?_enqueue queued]
  by_cases same : connection = used
  · obtain ⟨mailbox, filled, found, accepted, _⟩ := enqueue_eq_ok_iff.mp queued
    subst same
    obtain ⟨_, _, rfl⟩ := Mailbox.enqueue_eq_ok_iff.mp accepted
    simp [found, accepted, Except.toOption]
  · simp [same]

/-- The request puts the frame into the queue of a connection at most. -/
def Sends (exchange : Exchange) (request : Request) (connection : Connection) (frame : Bytes) :
    Prop :=
  request.frame? = some frame ∧
    ∃ identity, request.addresses identity = true ∧
      exchange.directory.find? identity = some connection

theorem gains_deliver (exchange : Exchange) (recipient : Identity) (frame : Bytes) :
    Gains (fun connection sent => exchange.directory.find? recipient = some connection ∧
      sent = frame) exchange (exchange.deliver recipient frame).2 := by
  have outcome := exchange.delivery_deliver recipient frame
  generalize exchange.deliver recipient frame = result at outcome ⊢
  cases outcome with
  | stopped | unknown => exact .of_mailboxes rfl
  | @queued used _ _ found accepted =>
      intro connection
      refine ⟨_, queuedFor_enqueue accepted, fun sent listed => ?_⟩
      by_cases same : connection = used
      · rw [if_pos same, List.mem_singleton] at listed
        exact ⟨same ▸ found, listed⟩
      · rw [if_neg same] at listed
        contradiction
  | shed _ found => exact .of_eq fun connection => queuedFor_depart found

theorem gains_deliverEach (frame : Bytes) (recipients : List Identity) (exchange : Exchange) :
    Gains (fun connection sent => (∃ recipient ∈ recipients,
      exchange.directory.find? recipient = some connection) ∧ sent = frame) exchange
      (deliverEach frame recipients exchange).2 := by
  induction recipients generalizing exchange with
  | nil => exact .of_mailboxes rfl
  | cons recipient rest ih =>
      rw [deliverEach_cons_snd]
      have steps := exchange.steps_deliver recipient frame
      refine ((exchange.gains_deliver recipient frame).mono ?_).trans ((ih _).mono ?_)
      · rintro connection sent ⟨found, same⟩
        exact ⟨⟨recipient, List.mem_cons_self, found⟩, same⟩
      · rintro connection sent ⟨⟨other, listed, found⟩, same⟩
        exact ⟨⟨other, List.mem_cons_of_mem _ listed, steps.find?_of_find? found⟩, same⟩

/-- A request puts nothing into queues but its own frame, and only where it is
addressed. -/
theorem gains_serve (delivers : request.isDelivery = true) (exchange : Exchange) :
    Gains (exchange.Sends request) exchange (exchange.serve request).2 := by
  cases request with
  | register | unregister => contradiction
  | deliver recipient frame =>
      refine (exchange.gains_deliver recipient frame).mono ?_
      rintro connection sent ⟨found, rfl⟩
      exact ⟨rfl, recipient, by simp [Request.addresses], found⟩
  | broadcast frame excluded =>
      change Gains _ exchange (exchange.broadcast frame excluded).2
      rw [broadcast_eq]
      by_cases serving : exchange.running
      · rw [if_pos serving]
        refine (gains_deliverEach frame _ exchange).mono ?_
        rintro connection sent ⟨⟨recipient, listed, found⟩, rfl⟩
        obtain ⟨included, _⟩ := mem_recipients.mp listed
        exact ⟨rfl, recipient, by simpa [Request.addresses] using included, found⟩
      · rw [if_neg serving]
        exact .of_mailboxes rfl

/-! ## Frames of clients -/

/-- A dispatched frame leads to no more than what it is routed to. -/
theorem gains_dispatch (exchange : Exchange) (sender : Identity) (frame : Bytes) :
    Gains (fun connection sent => ∃ request, exchange.routed? sender frame = some request ∧
      exchange.Sends request connection sent) exchange (exchange.dispatch sender frame).2 := by
  have outcome := exchange.dispatched_dispatch sender frame
  generalize (exchange.dispatch sender frame).2 = next at outcome ⊢
  cases outcome with
  | @served request routed =>
      refine (gains_serve (isDelivery_of_routed? routed) exchange).mono ?_
      exact fun connection sent sends => ⟨request, routed, sends⟩
  | joined => exact .of_mailboxes mailboxes_join
  | left => exact .of_mailboxes mailboxes_leave
  | unchanged => exact .of_mailboxes rfl

/-- Handling a frame leads in addition to a complaint at most, which is for the
sender. -/
theorem gains_handle (exchange : Exchange) (sender : Identity) (frame : Bytes) :
    Gains (fun connection sent => ∃ request, (exchange.routed? sender frame = some request ∨
      exchange.complaint? sender frame = some request) ∧ exchange.Sends request connection sent)
      exchange (exchange.handle sender frame) := by
  have dispatched : Gains (fun connection sent => ∃ request,
      (exchange.routed? sender frame = some request ∨
        exchange.complaint? sender frame = some request) ∧
          exchange.Sends request connection sent) exchange (exchange.dispatch sender frame).2 :=
    (exchange.gains_dispatch sender frame).mono
      fun connection sent ⟨request, routed, sends⟩ => ⟨request, .inl routed, sends⟩
  rw [handle_eq]
  cases complained : exchange.complaint? sender frame with
  | none =>
      rw [complained] at dispatched
      exact dispatched
  | some request =>
      rw [complained] at dispatched
      obtain ⟨_, _, _, rfl⟩ := complaint?_eq_some complained
      refine dispatched.trans ((gains_serve rfl _).mono ?_)
      rintro connection sent ⟨isFrame, identity, addressed, found⟩
      have known := (exchange.steps_dispatch sender frame).find?_of_find? found
      exact ⟨_, .inr rfl, isFrame, identity, addressed, known⟩

end Exchange

end Switchboard
