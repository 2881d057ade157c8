import Switchboard.Proofs.Exchange.Gains

/-!
# Where queued frames come from

Whatever waits in a queue was put there by one operation of the run, either for
an identity that was registered with the connection at that time, or directly.
Closing, reading and abandoning only take frames away.
-/

namespace Switchboard

namespace Mailbox

theorem mem_queued_of_mem_close (mailbox : Mailbox) :
    ∀ frame ∈ mailbox.close.queued.toList, frame ∈ mailbox.queued.toList :=
  fun _ waits => waits

theorem mem_queued_of_mem_drain (mailbox : Mailbox) :
    ∀ frame ∈ mailbox.drain.2.queued.toList, frame ∈ mailbox.queued.toList := by
  simp [drain]

theorem mem_queued_of_mem_abandon (mailbox : Mailbox) :
    ∀ frame ∈ mailbox.abandon.queued.toList, frame ∈ mailbox.queued.toList := by
  intro frame waits
  rw [abandon] at waits
  split at waits
  · exact waits
  · contradiction

theorem mem_queued_of_mem_receive (mailbox : Mailbox) :
    ∀ frame ∈ mailbox.receive.2.queued.toList, frame ∈ mailbox.queued.toList := by
  intro frame waits
  rw [receive] at waits
  split at waits
  · rename_i popped
    rw [Queue.pop?_eq_some_iff.mp popped]
    exact List.mem_cons_of_mem _ waits
  · exact waits

end Mailbox

namespace Exchange

variable {exchange next last : Exchange} {identity sender : Identity} {connection : Connection}
  {frame : Bytes} {sent : Connection → Bytes → Prop}

/-- The operation may put the frame into the queue of the connection. -/
def Emits (exchange : Exchange) (connection : Connection) (frame : Bytes) : Operation → Prop
  | .request request => exchange.Sends request connection frame
  | .dispatch sender inbound =>
      ∃ request, exchange.routed? sender inbound = some request ∧
        exchange.Sends request connection frame
  | .handle sender inbound =>
      ∃ request, (exchange.routed? sender inbound = some request ∨
        exchange.complaint? sender inbound = some request) ∧
          exchange.Sends request connection frame
  | .enqueue used queued => used = connection ∧ queued = frame
  | .openMailbox _ | .openSaturated | .disconnect _ | .join _ _ | .leave _ _ | .leaveAll _
  | .close _ | .receive _ | .drain _ | .abandon _ | .stop => False

/-- Whatever is in a queue has been there before, or was sent to it. -/
def Draws (sent : Connection → Bytes → Prop) (exchange next : Exchange) : Prop :=
  ∀ connection, ∀ frame ∈ next.queuedFor connection,
    frame ∈ exchange.queuedFor connection ∨ sent connection frame

theorem Gains.draws (gains : Gains sent exchange next) : Draws sent exchange next := by
  intro connection frame waits
  obtain ⟨added, grown, fromSent⟩ := gains connection
  rw [grown, List.mem_append] at waits
  rcases waits with before | isNew
  · exact .inl before
  · exact .inr (fromSent frame isNew)

/-! ## Mailboxes -/

theorem draws_openMailbox {mailbox : Mailbox} (vacant : mailbox.queued = .empty) :
    Draws sent exchange (exchange.openMailbox mailbox).2 := by
  intro connection frame waits
  have opened : (exchange.openMailbox mailbox).2.mailboxes[connection]? =
      if connection = exchange.mailboxes.size then some mailbox
      else exchange.mailboxes[connection]? :=
    Array.getElem?_push
  unfold queuedFor at waits ⊢
  rw [opened] at waits
  by_cases isNew : connection = exchange.mailboxes.size
  · rw [if_pos isNew] at waits
    dsimp only at waits
    rw [vacant] at waits
    contradiction
  · rw [if_neg isNew] at waits
    exact .inl waits

/-- Frames are only taken out where a mailbox is exchanged for one that holds
fewer of them. -/
theorem draws_of_change {used : Connection} {change : Mailbox → Mailbox}
    (kept : ∀ mailbox, ∀ frame ∈ (change mailbox).queued.toList, frame ∈ mailbox.queued.toList)
    (changed : ∀ known : Connection, next.mailboxes[known]? =
      if used = known then exchange.mailboxes[known]?.map change
      else exchange.mailboxes[known]?) :
    Draws sent exchange next := by
  intro connection frame waits
  unfold queuedFor at waits ⊢
  rw [changed] at waits
  by_cases same : used = connection
  · rw [if_pos same] at waits
    cases found : exchange.mailboxes[connection]? with
    | none =>
        rw [found] at waits
        contradiction
    | some mailbox =>
        rw [found] at waits
        exact .inl (kept mailbox frame waits)
  · rw [if_neg same] at waits
    exact .inl waits

theorem draws_modifyMailbox {change : Mailbox → Mailbox}
    (kept : ∀ mailbox, ∀ frame ∈ (change mailbox).queued.toList, frame ∈ mailbox.queued.toList)
    (used : Connection) : Draws sent exchange (exchange.modifyMailbox used change) :=
  draws_of_change kept fun _ => Array.getElem?_modify

theorem draws_read {look : Mailbox → Answer × Mailbox}
    (kept : ∀ mailbox, ∀ frame ∈ (look mailbox).2.queued.toList, frame ∈ mailbox.queued.toList)
    (used : Connection) : Draws sent exchange (exchange.read used look).2 := by
  rw [read]
  split
  · exact (Gains.of_mailboxes rfl).draws
  · split
    · exact (Gains.of_mailboxes rfl).draws
    · rename_i mailbox found _ _ _
      rw [← modify_eq_setIfInBounds (fun mailbox => (look mailbox).2) found]
      exact draws_modifyMailbox kept used

/-! ## Operations -/

theorem draws_unregister (exchange : Exchange) (identity : Identity) :
    Draws sent exchange (exchange.unregister identity).2 := by
  rcases exchange.unregister_snd identity with same | ⟨used, found, departed⟩
  · rw [same]
    exact (Gains.of_mailboxes rfl).draws
  · rw [departed]
    exact (Gains.of_eq fun _ => queuedFor_depart found).draws

theorem draws_enqueue (exchange : Exchange) (used : Connection) (frame : Bytes) :
    Draws (fun connection sent => used = connection ∧ frame = sent) exchange
      (exchange.perform (.enqueue used frame)).2 := by
  rw [perform]
  split
  · rename_i accepted
    intro connection sent waits
    rw [queuedFor_enqueue accepted, List.mem_append] at waits
    rcases waits with before | isNew
    · exact .inl before
    · split at isNew
      · rename_i same
        exact .inr ⟨same.symm, (List.mem_singleton.mp isNew).symm⟩
      · contradiction
  · exact (Gains.of_mailboxes rfl).draws

theorem draws_perform (exchange : Exchange) (operation : Operation) :
    Draws (fun connection frame => exchange.Emits connection frame operation) exchange
      (exchange.perform operation).2 := by
  cases operation with
  | openMailbox | openSaturated => exact draws_openMailbox rfl
  | request request =>
      cases request with
      | register => exact (Gains.of_mailboxes mailboxes_register).draws
      | unregister identity => exact exchange.draws_unregister identity
      | deliver | broadcast => exact (gains_serve rfl exchange).draws
  | disconnect identity =>
      change Draws _ exchange (exchange.disconnect identity).2
      rcases exchange.disconnect_snd identity with same | left
      · rw [same]
        exact exchange.draws_unregister identity
      · rw [left]
        exact exchange.draws_unregister identity
  | dispatch sender inbound => exact (exchange.gains_dispatch sender inbound).draws
  | handle sender inbound => exact (exchange.gains_handle sender inbound).draws
  | enqueue used frame => exact exchange.draws_enqueue used frame
  | join => exact (Gains.of_mailboxes mailboxes_join).draws
  | leave => exact (Gains.of_mailboxes mailboxes_leave).draws
  | leaveAll | stop => exact (Gains.of_mailboxes rfl).draws
  | close used => exact draws_modifyMailbox Mailbox.mem_queued_of_mem_close used
  | abandon used => exact draws_modifyMailbox Mailbox.mem_queued_of_mem_abandon used
  | receive used => exact draws_read Mailbox.mem_queued_of_mem_receive used
  | drain used => exact draws_read Mailbox.mem_queued_of_mem_drain used

/-- Whatever waits at the end of a run has waited at its beginning, or was put
there by one of its operations. -/
theorem emitted_of_mem_queuedFor {operations : List Operation}
    (waits : frame ∈ (exchange.run operations).queuedFor connection) :
    frame ∈ exchange.queuedFor connection ∨
      ∃ before operation after, operations = before ++ operation :: after ∧
        (exchange.run before).Emits connection frame operation := by
  induction operations generalizing exchange with
  | nil => exact .inl waits
  | cons operation rest ih =>
      rcases ih waits with early | ⟨before, later, after, rfl, emits⟩
      · rcases exchange.draws_perform operation connection frame early with first | emits
        · exact .inl first
        · exact .inr ⟨[], operation, rest, rfl, emits⟩
      · exact .inr ⟨operation :: before, later, after, rfl, emits⟩

end Exchange

end Switchboard
