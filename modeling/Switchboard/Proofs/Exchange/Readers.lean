import Switchboard.Proofs.Exchange.Closing

/-!
# Connections and their readers

A connection keeps its reader until the reader goes away: nothing that anybody
else does can take it away. As long as there is a reader, what it has taken
out is the beginning of what was accepted.

In a run in which each connection is brought once, a connection belongs to one
identity. Whoever asks for a name by way of a connection is told the name of
that identity.
-/

namespace Switchboard

namespace Mailbox

/-- There is somebody who takes frames out. -/
def IsAttended (mailbox : Mailbox) : Prop :=
  mailbox.outbox? = some mailbox.queued

variable {mailbox filled : Mailbox} {frame : Bytes}

theorem isAttended_iff :
    mailbox.IsAttended ↔ mailbox.abandoned = false ∧ mailbox.capacity ≠ 0 := by
  rw [IsAttended, outbox?]
  split
  · rename_i unread
    rw [Bool.or_eq_true, decide_eq_true_iff] at unread
    rcases unread with gone | narrow
    · simp [gone]
    · simp [narrow]
  · rename_i read
    rw [Bool.or_eq_true, decide_eq_true_iff, not_or, Bool.not_eq_true] at read
    exact iff_of_true rfl read

theorem isAttended_ofCapacity (capacity : Nat) : (ofCapacity capacity).IsAttended := by
  rw [isAttended_iff, ofCapacity]
  exact ⟨rfl, by dsimp only; omega⟩

theorem IsAttended.enqueue (attended : mailbox.IsAttended)
    (accepted : mailbox.enqueue frame = .ok filled) : filled.IsAttended := by
  obtain ⟨_, _, rfl⟩ := enqueue_eq_ok_iff.mp accepted
  rw [isAttended_iff] at attended ⊢
  exact attended

theorem IsAttended.close (attended : mailbox.IsAttended) : mailbox.close.IsAttended :=
  attended

theorem IsAttended.receive (attended : mailbox.IsAttended) : mailbox.receive.2.IsAttended := by
  rw [isAttended_iff] at attended ⊢
  rw [Mailbox.receive]
  split <;> exact attended

theorem IsAttended.drain (attended : mailbox.IsAttended) : mailbox.drain.2.IsAttended := by
  rw [isAttended_iff] at attended ⊢
  exact attended

theorem queued_eq_nil_of_ended (ended : mailbox.receive.1 = .ended) :
    mailbox.queued.toList = [] := by
  rw [receive] at ended
  split at ended
  · contradiction
  · rename_i nothing
    exact Queue.pop?_eq_none_iff.mp nothing

end Mailbox

namespace Operation

/-- The operation lets the reader of a connection take frames out. -/
def takesFrom (connection : Connection) : Operation → Bool
  | .receive used | .drain used => used = connection
  | _ => false

theorem takesFrom_of_uses {connection : Connection} {operation : Operation}
    (unused : operation.uses connection = false) : operation.takesFrom connection = false := by
  cases operation with
  | receive | drain => exact unused
  | _ => rfl

end Operation

namespace Exchange

open Relation

variable {exchange next : Exchange} {identity sender : Identity} {connection used : Connection}
  {frame inbound : Bytes} {operation : Operation} {operations : List Operation}

/-! ## Accounts of parts of a run -/

theorem accepted_append (exchange : Exchange) (first second : List Operation) :
    accepted connection exchange (first ++ second) =
      accepted connection exchange first ++ accepted connection (exchange.run first) second := by
  induction first generalizing exchange with
  | nil => rfl
  | cons operation rest ih =>
      rw [List.cons_append, accepted, accepted, ih, List.append_assoc]
      rfl

theorem taken_append (exchange : Exchange) (first second : List Operation) :
    taken connection exchange (first ++ second) =
      taken connection exchange first ++ taken connection (exchange.run first) second := by
  induction first generalizing exchange with
  | nil => rfl
  | cons operation rest ih =>
      rw [List.cons_append, taken, taken, ih, List.append_assoc]
      rfl

theorem takenBy_eq_nil (untaken : operation.takesFrom connection = false) (answer : Answer) :
    takenBy connection operation answer = [] := by
  cases operation with
  | receive | drain =>
      have other := of_decide_eq_false untaken
      cases answer <;> simp [takenBy, other]
  | _ => rfl

theorem taken_eq_nil
    (untaken : ∀ operation ∈ operations, operation.takesFrom connection = false) :
    taken connection exchange operations = [] := by
  induction operations generalizing exchange with
  | nil => rfl
  | cons operation rest ih =>
      rw [List.forall_mem_cons] at untaken
      rw [taken, takenBy_eq_nil untaken.1, ih untaken.2, List.append_nil]

/-! ## Readers -/

/-- The connection has a reader. -/
def Attended (exchange : Exchange) (connection : Connection) : Prop :=
  ∃ mailbox, exchange.mailboxes[connection]? = some mailbox ∧ mailbox.IsAttended

theorem Attended.of_getElem? (attended : exchange.Attended connection)
    (same : next.mailboxes[connection]? = exchange.mailboxes[connection]?) :
    next.Attended connection := by
  rwa [Attended, same]

theorem Attended.of_mailboxes (attended : exchange.Attended connection)
    (same : next.mailboxes = exchange.mailboxes) : next.Attended connection :=
  attended.of_getElem? (by rw [same])

theorem Attended.change (attended : exchange.Attended connection)
    (change : exchange.Change next) : next.Attended connection := by
  rcases attended with ⟨mailbox, opened, read⟩
  cases change with
  | @queued other frame _ accepted =>
      have moved := getElem?_enqueue accepted connection
      by_cases same : connection = other
      · subst same
        obtain ⟨before, filled, found, taken, _⟩ := enqueue_eq_ok_iff.mp accepted
        cases opened.symm.trans found
        rw [if_pos rfl, opened, Option.bind_some, taken] at moved
        exact ⟨filled, moved, read.enqueue taken⟩
      · rw [if_neg same] at moved
        exact ⟨mailbox, moved.trans opened, read⟩
  | departed found =>
      rw [Attended, getElem?_depart found, opened]
      split
      · exact ⟨mailbox.close, rfl, read.close⟩
      · exact ⟨mailbox, rfl, read⟩

theorem Attended.changes (attended : exchange.Attended connection)
    (changes : Changes exchange next) : next.Attended connection := by
  induction changes with
  | refl => exact attended
  | tail _ change ih => exact ih.change change

theorem Attended.dispatch (attended : exchange.Attended connection) (sender : Identity)
    (inbound : Bytes) : (exchange.dispatch sender inbound).2.Attended connection := by
  have outcome := exchange.dispatched_dispatch sender inbound
  generalize (exchange.dispatch sender inbound).2 = next at outcome ⊢
  cases outcome with
  | served routed => exact attended.changes (changes_serve (isDelivery_of_routed? routed) exchange)
  | joined => exact attended.of_mailboxes mailboxes_join
  | left => exact attended.of_mailboxes mailboxes_leave
  | unchanged => exact attended

theorem Attended.modify {change : Mailbox → Mailbox} (attended : exchange.Attended connection)
    (kept : used = connection → ∀ mailbox : Mailbox, mailbox.IsAttended →
      (change mailbox).IsAttended) :
    (exchange.modifyMailbox used change).Attended connection := by
  by_cases same : used = connection
  · rcases attended with ⟨mailbox, opened, read⟩
    rw [Attended, modifyMailbox, Array.getElem?_modify, if_pos same, opened]
    exact ⟨change mailbox, rfl, kept same mailbox read⟩
  · exact attended.of_getElem? (getElem?_modifyMailbox same change)

theorem Attended.read {look : Mailbox → Answer × Mailbox} (attended : exchange.Attended connection)
    (kept : ∀ mailbox : Mailbox, mailbox.IsAttended → (look mailbox).2.IsAttended) :
    (exchange.read used look).2.Attended connection := by
  rw [Exchange.read]
  split
  · exact attended
  · rename_i mailbox found
    split
    · exact attended
    · rw [← modify_eq_setIfInBounds (fun mailbox => (look mailbox).2) found]
      exact attended.modify fun _ => kept

/-- Nobody but the reader itself ends the reading. -/
theorem Attended.perform (attended : exchange.Attended connection)
    (stays : operation ≠ .abandon connection) :
    (exchange.perform operation).2.Attended connection := by
  cases operation with
  | openMailbox | openSaturated =>
      rcases attended with ⟨mailbox, opened, read⟩
      have inside := (Array.getElem?_eq_some_iff.mp opened).choose
      exact ⟨mailbox, (getElem?_openMailbox inside _).trans opened, read⟩
  | request request =>
      cases request with
      | register => exact attended.of_mailboxes mailboxes_register
      | unregister identity => exact attended.changes (exchange.changes_unregister identity)
      | deliver recipient frame =>
          have served : Changes exchange (exchange.serve (.deliver recipient frame)).2 :=
            changes_serve rfl exchange
          exact attended.changes served
      | broadcast frame excluded =>
          have served : Changes exchange (exchange.serve (.broadcast frame excluded)).2 :=
            changes_serve rfl exchange
          exact attended.changes served
  | disconnect identity =>
      have removed := attended.changes (exchange.changes_unregister identity)
      change (exchange.disconnect identity).2.Attended connection
      rcases exchange.disconnect_snd identity with same | left
      · rwa [same]
      · rw [left]
        exact removed
  | dispatch sender inbound => exact attended.dispatch sender inbound
  | handle sender inbound =>
      have dispatched := attended.dispatch sender inbound
      change (exchange.handle sender inbound).Attended connection
      rw [handle_eq]
      split
      · exact dispatched
      · rename_i complained
        obtain ⟨_, _, _, rfl⟩ := complaint?_eq_some complained
        exact dispatched.changes (changes_serve rfl _)
  | join => exact attended.of_mailboxes mailboxes_join
  | leave => exact attended.of_mailboxes mailboxes_leave
  | leaveAll | stop => exact attended
  | enqueue used frame =>
      rw [Exchange.perform]
      split
      · rename_i accepted
        exact attended.change (.queued accepted)
      · exact attended
  | close => exact attended.modify fun _ _ read => read.close
  | receive => exact attended.read fun _ read => read.receive
  | drain => exact attended.read fun _ read => read.drain
  | abandon used =>
      apply attended.modify
      rintro rfl
      contradiction

/-- A reader finds what its mailbox holds out to it. -/
theorem perform_receive {mailbox : Mailbox}
    (opened : exchange.mailboxes[connection]? = some mailbox) (attended : mailbox.IsAttended) :
    exchange.perform (.receive connection) =
      (.received mailbox.receive.1,
        exchange.modifyMailbox connection fun _ => mailbox.receive.2) := by
  rw [Exchange.perform, Exchange.read, opened]
  dsimp only
  rw [show mailbox.outbox? = some mailbox.queued from attended, modifyMailbox,
    modify_eq_setIfInBounds (fun _ => mailbox.receive.2) opened]

theorem Attended.run (attended : exchange.Attended connection)
    (stays : Operation.abandon connection ∉ operations) :
    (exchange.run operations).Attended connection := by
  apply @run_preserve _ (fun exchange => exchange.Attended connection) _ _ attended
  intro operation listed before attended
  apply attended.perform
  rintro rfl
  exact stays listed

/-- A reader takes out what was accepted, from the beginning. -/
theorem Attended.taken_append_queuedFor {vocabulary : Vocabulary} {queueCapacity : Nat}
    {arrangement : Arrangement} (fresh : (brought operations).Nodup)
    (attended : ((start vocabulary queueCapacity arrangement).run operations).Attended connection) :
    taken connection (start vocabulary queueCapacity arrangement) operations ++
        ((start vocabulary queueCapacity arrangement).run operations).queuedFor connection =
      accepted connection (start vocabulary queueCapacity arrangement) operations := by
  rcases attended with ⟨mailbox, opened, read⟩
  have awaits : (start vocabulary queueCapacity arrangement).Awaits operations := by
    intro brought _ known
    rw [find?_start]
    simp
  rw [queuedFor, opened]
  exact taken_append_queued (awaits.bringOwn fresh) opened read

/-! ## Whose connection it is -/

theorem request_of_find?_perform
    (found : (exchange.perform operation).2.directory.find? identity = some connection) :
    exchange.directory.find? identity = some connection ∨
      operation = .request (.register identity connection) := by
  have performed := exchange.performed_perform operation
  generalize (exchange.perform operation).2 = next at performed found
  cases performed with
  | joined => exact .inl (directory_join ▸ found)
  | arrived added =>
      replace found := (Directory.find?_add added identity).symm.trans found
      split at found
      · rename_i same
        cases found
        exact .inr (by rw [same])
      · exact .inl found
  | stepped steps => exact .inl (steps.find?_of_find? found)

/-- Whoever is registered in a run has asked for it with the same connection. -/
theorem request_of_find?_run
    (found : (exchange.run operations).directory.find? identity = some connection) :
    exchange.directory.find? identity = some connection ∨
      .request (.register identity connection) ∈ operations := by
  induction operations generalizing exchange with
  | nil => exact .inl found
  | cons operation rest ih =>
      rcases ih found with early | late
      · apply (request_of_find?_perform early).imp_right
        rintro rfl
        exact List.mem_cons_self
      · exact .inr (List.mem_cons_of_mem _ late)

theorem mem_brought (asked : .request (.register identity connection) ∈ operations) :
    connection ∈ brought operations :=
  List.mem_filterMap.mpr ⟨_, asked, rfl⟩

/-- A connection that is brought once is brought for one identity. -/
theorem eq_of_brought {known : Identity} (fresh : (brought operations).Nodup)
    (asked : .request (.register identity connection) ∈ operations)
    (also : .request (.register known connection) ∈ operations) : known = identity := by
  obtain ⟨before, after, rfl⟩ := List.append_of_mem asked
  have elsewhere : connection ∉ brought (before ++ after) := by
    rw [← List.append_nil (before ++ _ :: after)] at fresh
    have apart := not_mem_brought_of_fresh fresh
    rwa [List.append_nil] at apart
  rcases List.mem_append.mp also with early | late
  · exact absurd (mem_brought (List.mem_append_left after early)) elsewhere
  · rcases List.mem_cons.mp late with same | later
    · cases same
      rfl
    · exact absurd (mem_brought (List.mem_append_right before later)) elsewhere

/-! ## Replies with a name -/

/-- What is accepted when somebody asks for its name is the answer. -/
theorem eq_meNotice_of_mem_acceptedBy
    (read : Command.read exchange.vocabulary sender inbound = .ok .me)
    (listed : frame ∈ exchange.acceptedBy connection (.handle sender inbound)) :
    exchange.directory.find? sender = some connection ∧
      frame = (exchange.meNotice sender).frame := by
  rw [acceptedBy_handle, List.mem_append] at listed
  rcases listed with routed | complained
  · rw [acceptedBy_dispatch, List.mem_flatMap] at routed
    obtain ⟨request, routed, accepted⟩ := routed
    rw [Option.mem_toList, routed?] at routed
    split at routed
    · rw [read] at routed
      cases routed
      rw [accepts] at accepted
      split at accepted
      · rename_i meant
        exact ⟨meant.1, List.mem_singleton.mp accepted⟩
      · contradiction
    · contradiction
  · -- Nobody hears of a failure, since it is the sender who was removed.
    rw [List.mem_flatMap] at complained
    obtain ⟨request, complained, accepted⟩ := complained
    rw [Option.mem_toList] at complained
    have known := contains_of_complaint? complained
    obtain ⟨error, failed, reported, rfl⟩ := complaint?_eq_some complained
    rw [accepts] at accepted
    split at accepted
    · rename_i meant
      rw [dispatch_of_read known read, carryOut, answer] at failed meant
      have outcome := exchange.delivery_deliver sender (exchange.meNotice sender).frame
      generalize exchange.deliver sender (exchange.meNotice sender).frame = result
        at outcome failed meant
      cases outcome with
      | stopped =>
          cases failed
          contradiction
      | unknown _ absent =>
          rcases Directory.contains_iff_exists_find?.mp known with ⟨held, found⟩
          rw [absent] at found
          contradiction
      | queued => contradiction
      | shed _ found =>
          have gone := meant.1
          rw [directory_depart found, Directory.find?_erase, if_pos rfl] at gone
          contradiction
    · contradiction

end Exchange

end Switchboard
