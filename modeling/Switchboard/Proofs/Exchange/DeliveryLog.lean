import Switchboard.Proofs.Exchange.Ownership

/-!
# What reaches a connection

While a run goes on, two accounts are kept of a connection. One lists the
frames that were accepted for it, in the order in which they were served, and
the other what its reader has taken out. The difference is what waits in its
mailbox: no frame is lost, doubled, or put where another should be.

Only a connection with a reader keeps its accounts in balance. What waits in
an abandoned mailbox is gone.
-/

namespace Switchboard

namespace Exchange

variable {exchange next last : Exchange} {identity recipient : Identity}
  {connection : Connection} {frame : Bytes}

/-! ## The two accounts -/

/-- The frames that are accepted for a connection when a request is served. A
delivery has to be meant for the identity that is registered with it, and a
broadcast must neither exclude nor evict that identity. -/
def accepts (exchange : Exchange) (connection : Connection) : Request → List Bytes
  | .register _ _ | .unregister _ => []
  | .deliver recipient frame =>
      if exchange.directory.find? recipient = some connection ∧
          (exchange.deliver recipient frame).1.isOk then
        [frame]
      else
        []
  | .broadcast frame excluded =>
      match (exchange.broadcast frame excluded).1 with
      | .error _ => []
      | .ok report =>
          if ∃ entry ∈ exchange.directory.entries, entry.2 = connection ∧
              excluded ≠ some entry.1 ∧ entry.1 ∉ report.evicted then
            [frame]
          else
            []

/-- The frames that are accepted for a connection by an operation. -/
def acceptedBy (exchange : Exchange) (connection : Connection) : Operation → List Bytes
  | .enqueue used frame =>
      if used = connection ∧ (exchange.enqueue used frame).isOk then [frame] else []
  | operation =>
      (exchange.calls operation).flatMap fun (state, request) => state.accepts connection request

/-- The frames that an answer hands over to the reader of a connection. -/
def takenBy (connection : Connection) : Operation → Answer → List Bytes
  | .receive used, .received reception => if used = connection then reception.taken else []
  | .drain used, .drained frames => if used = connection then frames else []
  | _, _ => []

/-- All frames that are accepted for a connection in a run. -/
def accepted (connection : Connection) : Exchange → List Operation → List Bytes
  | _, [] => []
  | exchange, operation :: rest =>
      exchange.acceptedBy connection operation ++
        accepted connection (exchange.perform operation).2 rest

/-- All frames that the reader of a connection takes out in a run. -/
def taken (connection : Connection) : Exchange → List Operation → List Bytes
  | _, [] => []
  | exchange, operation :: rest =>
      takenBy connection operation (exchange.perform operation).1 ++
        taken connection (exchange.perform operation).2 rest

/-- The frames that wait for the reader of a connection, as long as there is
one. A connection that is not open yet has nothing to wait for. -/
def waitingFor? (exchange : Exchange) (connection : Connection) : Option (List Bytes) :=
  match exchange.mailboxes[connection]? with
  | none => some []
  | some mailbox => mailbox.waiting?

theorem waitingFor?_of_unopened (unopened : exchange.mailboxes[connection]? = none) :
    exchange.waitingFor? connection = some [] := by
  rw [waitingFor?, unopened]

theorem waitingFor?_of_opened {mailbox : Mailbox}
    (opened : exchange.mailboxes[connection]? = some mailbox) :
    exchange.waitingFor? connection = mailbox.waiting? := by
  rw [waitingFor?, opened]

/-- The accounts of a connection balance between two states: what is taken out
and what waits afterwards is what has waited before and what was accepted. -/
def Balances (connection : Connection) (accepted taken : List Bytes)
    (exchange next : Exchange) : Prop :=
  ∀ after, next.waitingFor? connection = some after →
    ∃ before, exchange.waitingFor? connection = some before ∧ taken ++ after = before ++ accepted

namespace Balances

theorem of_eq (unmoved : next.waitingFor? connection = exchange.waitingFor? connection) :
    Balances connection [] [] exchange next := by
  intro after waiting
  exact ⟨after, unmoved ▸ waiting, (List.append_nil after).symm⟩

theorem of_mailboxes (unmoved : next.mailboxes = exchange.mailboxes) :
    Balances connection [] [] exchange next :=
  of_eq (by rw [waitingFor?, waitingFor?, unmoved])

theorem trans {accepted accepted' taken taken' : List Bytes}
    (first : Balances connection accepted taken exchange next)
    (second : Balances connection accepted' taken' next last) :
    Balances connection (accepted ++ accepted') (taken ++ taken') exchange last := by
  intro after waiting
  obtain ⟨between, waited, balanced⟩ := second after waiting
  obtain ⟨before, was, balancedBefore⟩ := first between waited
  have together : (taken ++ taken') ++ after = before ++ (accepted ++ accepted') := by
    calc
      (taken ++ taken') ++ after = taken ++ (between ++ accepted') := by
        rw [List.append_assoc, balanced]
      _ = before ++ (accepted ++ accepted') := by
        rw [← List.append_assoc, balancedBefore, List.append_assoc]
  exact ⟨before, was, together⟩

end Balances

/-! ## Requests -/

theorem balances_enqueue {used : Connection} (queued : exchange.enqueue used frame = .ok next) :
    Balances connection (if used = connection then [frame] else []) [] exchange next := by
  have moved := getElem?_enqueue queued connection
  by_cases same : used = connection
  · subst same
    rw [if_pos rfl] at moved ⊢
    obtain ⟨mailbox, filled, found, accepted, _⟩ := enqueue_eq_ok_iff.mp queued
    rw [found, Option.bind_some, accepted] at moved
    intro after waiting
    change next.mailboxes[used]? = some filled at moved
    rw [waitingFor?, moved] at waiting
    dsimp only at waiting
    rw [Mailbox.waiting?_enqueue accepted, Option.map_eq_some_iff] at waiting
    rcases waiting with ⟨before, waited, rfl⟩
    exact ⟨before, (waitingFor?_of_opened found).trans waited, rfl⟩
  · rw [if_neg same]
    rw [if_neg (Ne.symm same)] at moved
    exact .of_eq (by rw [waitingFor?, waitingFor?, moved])

/-- Whoever departs leaves behind what is queued for the reader. -/
theorem waitingFor?_depart {departure : Departure} {used : Connection}
    (found : exchange.directory.find? identity = some used) :
    (exchange.depart identity departure).waitingFor? connection =
      exchange.waitingFor? connection := by
  unfold waitingFor?
  rw [getElem?_depart found]
  cases exchange.mailboxes[connection]? with
  | none => simp
  | some mailbox => by_cases same : connection = used <;> simp [same]

theorem balances_deliver (exchange : Exchange) (connection : Connection) (recipient : Identity)
    (frame : Bytes) :
    Balances connection (exchange.accepts connection (.deliver recipient frame)) [] exchange
      (exchange.deliver recipient frame).2 := by
  have outcome := exchange.delivery_deliver recipient frame
  rw [accepts]
  generalize exchange.deliver recipient frame = result at outcome ⊢
  cases outcome with
  | stopped | unknown => simpa [Except.isOk, Except.toBool] using .of_mailboxes rfl
  | @queued used next _ found queued =>
      have balanced : Balances connection _ [] exchange next := balances_enqueue queued
      simpa [found, Except.isOk, Except.toBool] using balanced
  | shed _ found => simpa [Except.isOk, Except.toBool] using .of_eq (waitingFor?_depart found)

/-! ## Broadcasts -/

theorem evicted_deliverEach_cons (recipient : Identity) (rest : List Identity) :
    (deliverEach frame (recipient :: rest) exchange).1.evicted =
      if (exchange.deliver recipient frame).1.isOk then
        (deliverEach frame rest (exchange.deliver recipient frame).2).1.evicted
      else
        recipient :: (deliverEach frame rest (exchange.deliver recipient frame).2).1.evicted := by
  rw [deliverEach]
  rcases exchange.deliver recipient frame with ⟨_ | _, next⟩ <;> rfl

theorem mem_of_mem_evicted {recipients : List Identity}
    (evicted : identity ∈ (deliverEach frame recipients exchange).1.evicted) :
    identity ∈ recipients := by
  induction recipients generalizing exchange with
  | nil => contradiction
  | cons recipient rest ih =>
      rw [evicted_deliverEach_cons] at evicted
      split at evicted
      · exact List.mem_cons_of_mem _ (ih evicted)
      · rcases List.mem_cons.mp evicted with rfl | later
        · exact List.mem_cons_self
        · exact List.mem_cons_of_mem _ (ih later)

/-- The recipients whose frames end up at a connection: they are registered
with it, and their mailbox did not refuse. -/
def reached (exchange : Exchange) (connection : Connection) (frame : Bytes)
    (recipients : List Identity) : List Identity :=
  recipients.filter fun identity => exchange.directory.find? identity = some connection ∧
    identity ∉ (deliverEach frame recipients exchange).1.evicted

theorem reached_cons {rest : List Identity} (distinct : (recipient :: rest).Nodup) :
    exchange.reached connection frame (recipient :: rest) =
      (if exchange.directory.find? recipient = some connection ∧
          (exchange.deliver recipient frame).1.isOk then [recipient] else []) ++
        (exchange.deliver recipient frame).2.reached connection frame rest := by
  rw [List.nodup_cons] at distinct
  have unlisted : recipient ∉
      (deliverEach frame rest (exchange.deliver recipient frame).2).1.evicted :=
    fun evicted => distinct.1 (mem_of_mem_evicted evicted)
  have sameRest : ∀ identity ∈ rest,
      decide (exchange.directory.find? identity = some connection ∧
        identity ∉ (deliverEach frame (recipient :: rest) exchange).1.evicted) =
      decide ((exchange.deliver recipient frame).2.directory.find? identity = some connection ∧
        identity ∉ (deliverEach frame rest (exchange.deliver recipient frame).2).1.evicted) := by
    intro identity listed
    have other : identity ≠ recipient := by
      rintro rfl
      exact distinct.1 listed
    rw [find?_deliver_of_ne other, evicted_deliverEach_cons]
    split <;> simp [other]
  unfold reached
  rw [List.filter_cons, List.filter_congr sameRest, evicted_deliverEach_cons]
  by_cases accepted : (exchange.deliver recipient frame).1.isOk
  · by_cases registered : exchange.directory.find? recipient = some connection <;>
      simp [accepted, registered, unlisted]
  · simp [accepted]

/-- The accounts balance over a list of deliveries, each of which counts by
itself. -/
theorem balances_deliverEach {recipients : List Identity} (distinct : recipients.Nodup) :
    Balances connection ((exchange.reached connection frame recipients).map fun _ => frame) []
      exchange (deliverEach frame recipients exchange).2 := by
  induction recipients generalizing exchange with
  | nil => exact .of_mailboxes rfl
  | cons recipient rest ih =>
      have first := exchange.balances_deliver connection recipient frame
      have both := first.trans (ih (List.nodup_cons.mp distinct).2)
      rw [deliverEach_cons_snd, reached_cons distinct, List.map_append]
      rw [accepts] at both
      split at both <;> simpa [*] using both

theorem mem_reached {recipients : List Identity} :
    identity ∈ exchange.reached connection frame recipients ↔
      identity ∈ recipients ∧ exchange.directory.find? identity = some connection ∧
        identity ∉ (deliverEach frame recipients exchange).1.evicted := by
  rw [reached, List.mem_filter, decide_eq_true_iff]

/-- Nobody shares a connection, so a broadcast reaches it once at most. -/
theorem reached_cases (apart : exchange.Apart) (connection : Connection) (frame : Bytes)
    {recipients : List Identity} (distinct : recipients.Nodup) :
    exchange.reached connection frame recipients = [] ∨
      ∃ identity, exchange.reached connection frame recipients = [identity] := by
  have few : (exchange.reached connection frame recipients).length ≤ 1 :=
    apart.length_le_one (distinct.sublist List.filter_sublist) fun _ listed =>
      (mem_reached.mp listed).2.1
  rcases Nat.le_one_iff_eq_zero_or_eq_one.mp few with nobody | one
  · exact .inl (List.length_eq_zero_iff.mp nobody)
  · exact .inr (List.length_eq_one_iff.mp one)

theorem accepts_broadcast (apart : exchange.Apart) (serving : exchange.running = true)
    (connection : Connection) (frame : Bytes) (excluded : Option Identity) :
    exchange.accepts connection (.broadcast frame excluded) =
      (exchange.reached connection frame (exchange.recipients excluded)).map fun _ => frame := by
  have someone : (∃ entry ∈ exchange.directory.entries, entry.2 = connection ∧
      excluded ≠ some entry.1 ∧ entry.1 ∉
        (deliverEach frame (exchange.recipients excluded) exchange).1.evicted) ↔
      ∃ identity, identity ∈ exchange.reached connection frame
        (exchange.recipients excluded) := by
    constructor
    · rintro ⟨⟨identity, _⟩, listed, rfl, included, kept⟩
      have found := Directory.mem_entries_iff.mp listed
      exact ⟨identity, mem_reached.mpr ⟨mem_recipients.mpr ⟨included, _, found⟩, found, kept⟩⟩
    · rintro ⟨identity, isReached⟩
      obtain ⟨listed, found, kept⟩ := mem_reached.mp isReached
      exact ⟨(identity, connection), Directory.mem_entries_iff.mpr found, rfl,
        (mem_recipients.mp listed).1, kept⟩
  rw [accepts, broadcast_eq, if_pos serving]
  dsimp only
  rcases reached_cases apart connection frame (exchange.nodup_recipients excluded) with
    nobody | ⟨identity, one⟩
  · rw [if_neg (by simp [someone, nobody]), nobody, List.map_nil]
  · rw [if_pos (someone.mpr ⟨identity, by simp [one]⟩), one, List.map_singleton]

theorem balances_broadcast (apart : exchange.Apart) (connection : Connection) (frame : Bytes)
    (excluded : Option Identity) :
    Balances connection (exchange.accepts connection (.broadcast frame excluded)) [] exchange
      (exchange.broadcast frame excluded).2 := by
  by_cases serving : exchange.running
  · rw [accepts_broadcast apart serving, broadcast_eq, if_pos serving]
    exact balances_deliverEach (exchange.nodup_recipients excluded)
  · rw [accepts, broadcast_eq, if_neg serving]
    exact .of_mailboxes rfl

/-! ## Operations -/

theorem balances_unregister (exchange : Exchange) (connection : Connection)
    (identity : Identity) :
    Balances connection [] [] exchange (exchange.unregister identity).2 := by
  rcases exchange.unregister_snd identity with same | ⟨used, found, departed⟩
  · rw [same]
    exact .of_mailboxes rfl
  · rw [departed]
    exact .of_eq (waitingFor?_depart found)

theorem balances_serve (apart : exchange.Apart) (connection : Connection) (request : Request) :
    Balances connection (exchange.accepts connection request) [] exchange
      (exchange.serve request).2 := by
  cases request with
  | register identity used => exact .of_mailboxes mailboxes_register
  | unregister identity => exact exchange.balances_unregister connection identity
  | deliver recipient frame => exact exchange.balances_deliver connection recipient frame
  | broadcast frame excluded => exact balances_broadcast apart connection frame excluded

theorem balances_disconnect (exchange : Exchange) (connection : Connection)
    (identity : Identity) :
    Balances connection [] [] exchange (exchange.disconnect identity).2 := by
  have removed := exchange.balances_unregister connection identity
  rcases exchange.disconnect_snd identity with same | left
  · rw [same]
    exact removed
  · rw [left]
    exact removed.trans (.of_mailboxes rfl)

theorem acceptedBy_dispatch (exchange : Exchange) (connection : Connection) (sender : Identity)
    (frame : Bytes) :
    exchange.acceptedBy connection (.dispatch sender frame) =
      (exchange.routed? sender frame).toList.flatMap (exchange.accepts connection) := by
  simp [acceptedBy, calls, List.flatMap_map]

theorem acceptedBy_handle (exchange : Exchange) (connection : Connection) (sender : Identity)
    (frame : Bytes) :
    exchange.acceptedBy connection (.handle sender frame) =
      exchange.acceptedBy connection (.dispatch sender frame) ++
        (exchange.complaint? sender frame).toList.flatMap
          ((exchange.dispatch sender frame).2.accepts connection) := by
  simp [acceptedBy, calls, List.flatMap_append, List.flatMap_map]

theorem balances_dispatch (apart : exchange.Apart) (connection : Connection) (sender : Identity)
    (frame : Bytes) :
    Balances connection (exchange.acceptedBy connection (.dispatch sender frame)) [] exchange
      (exchange.dispatch sender frame).2 := by
  have outcome := exchange.dispatched_dispatch sender frame
  rw [acceptedBy_dispatch]
  generalize (exchange.dispatch sender frame).2 = next at outcome ⊢
  cases outcome with
  | served routed =>
      rw [routed, Option.toList_some, List.flatMap_singleton]
      exact balances_serve apart connection _
  | joined _ unrouted =>
      rw [unrouted]
      exact .of_mailboxes mailboxes_join
  | left unrouted =>
      rw [unrouted]
      exact .of_mailboxes mailboxes_leave
  | unchanged unrouted =>
      rw [unrouted]
      exact .of_mailboxes rfl

theorem balances_handle (apart : exchange.Apart) (connection : Connection) (sender : Identity)
    (frame : Bytes) :
    Balances connection (exchange.acceptedBy connection (.handle sender frame)) [] exchange
      (exchange.handle sender frame) := by
  have first := balances_dispatch apart connection sender frame
  have later : (exchange.dispatch sender frame).2.Apart :=
    apart.steps (exchange.steps_dispatch sender frame)
  rw [acceptedBy_handle, handle_eq]
  cases complained : exchange.complaint? sender frame with
  | none =>
      rw [Option.toList_none, List.flatMap_nil, List.append_nil]
      exact first
  | some request =>
      rw [Option.toList_some, List.flatMap_singleton]
      exact first.trans (balances_serve later connection request)

/-- The mailbox of a new connection is empty, and no other is touched. -/
theorem balances_openMailbox {mailbox : Mailbox}
    (vacant : ∀ after, mailbox.waiting? = some after → after = []) :
    Balances connection [] [] exchange (exchange.openMailbox mailbox).2 := by
  have opened : (exchange.openMailbox mailbox).2.mailboxes[connection]? =
      if connection = exchange.mailboxes.size then some mailbox
      else exchange.mailboxes[connection]? :=
    Array.getElem?_push
  by_cases isNew : connection = exchange.mailboxes.size
  · rw [if_pos isNew] at opened
    have unopened : exchange.mailboxes[connection]? = none := by
      rw [isNew, Array.getElem?_size]
    intro after waiting
    rw [waitingFor?_of_opened opened] at waiting
    rw [vacant after waiting]
    exact ⟨[], waitingFor?_of_unopened unopened, rfl⟩
  · rw [if_neg isNew] at opened
    exact .of_eq (by rw [waitingFor?, waitingFor?, opened])

theorem balances_modifyMailbox {used : Connection} {change : Mailbox → Mailbox}
    (kept : ∀ mailbox after, (change mailbox).waiting? = some after →
      mailbox.waiting? = some after) :
    Balances connection [] [] exchange (exchange.modifyMailbox used change) := by
  have changed : (exchange.modifyMailbox used change).mailboxes[connection]? =
      if used = connection then exchange.mailboxes[connection]?.map change
      else exchange.mailboxes[connection]? :=
    Array.getElem?_modify
  cases found : exchange.mailboxes[connection]? with
  | none =>
      rw [found, Option.map_none, ite_self] at changed
      exact .of_eq (by rw [waitingFor?_of_unopened changed, waitingFor?_of_unopened found])
  | some mailbox =>
      intro after waiting
      refine ⟨after, ?_, (List.append_nil after).symm⟩
      rw [waitingFor?_of_opened found]
      by_cases same : used = connection
      · rw [if_pos same, found, Option.map_some] at changed
        rw [waitingFor?_of_opened changed] at waiting
        exact kept mailbox after waiting
      · rw [if_neg same, found] at changed
        rwa [waitingFor?_of_opened changed] at waiting

/-- A reader takes out what has waited longest, and only from its own mailbox. -/
theorem balances_read {used : Connection} {look : Mailbox → Answer × Mailbox}
    (takes : Answer → List Bytes)
    (kept : used = connection → ∀ mailbox, mailbox.waiting? =
      (look mailbox).2.waiting?.map (takes (look mailbox).1 ++ ·))
    (apart : used ≠ connection → ∀ answer, takes answer = [])
    (nothing : takes .noOutbox = []) :
    Balances connection [] (takes (exchange.read used look).1) exchange
      (exchange.read used look).2 := by
  rw [read]
  split
  · rw [nothing]
    exact .of_mailboxes rfl
  · rename_i mailbox found
    split
    · rw [nothing]
      exact .of_mailboxes rfl
    · have inside : used < exchange.mailboxes.size := (Array.getElem?_eq_some_iff.mp found).choose
      by_cases same : used = connection
      · subst same
        intro after waiting
        rw [waitingFor?_of_opened (Array.getElem?_setIfInBounds_self_of_lt inside)] at waiting
        have before : exchange.waitingFor? used = some (takes (look mailbox).1 ++ after) := by
          rw [waitingFor?_of_opened found, kept rfl mailbox, waiting, Option.map_some]
        exact ⟨_, before, (List.append_nil _).symm⟩
      · rw [apart same]
        apply Balances.of_eq
        rw [waitingFor?, waitingFor?, Array.getElem?_setIfInBounds_ne same]

theorem balances_enqueueBy (exchange : Exchange) (connection used : Connection) (frame : Bytes) :
    Balances connection (exchange.acceptedBy connection (.enqueue used frame)) [] exchange
      (exchange.perform (.enqueue used frame)).2 := by
  rw [perform, acceptedBy]
  cases outcome : exchange.enqueue used frame with
  | ok next => simpa [Except.isOk, Except.toBool] using balances_enqueue outcome
  | error refusal => simpa [Except.isOk, Except.toBool] using .of_mailboxes rfl

theorem balances_perform (apart : exchange.Apart) (connection : Connection)
    (operation : Operation) :
    Balances connection (exchange.acceptedBy connection operation)
      (takenBy connection operation (exchange.perform operation).1) exchange
      (exchange.perform operation).2 := by
  cases operation with
  | openMailbox capacity => exact balances_openMailbox (by simp)
  | openSaturated => exact balances_openMailbox (by simp)
  | request request =>
      have served := balances_serve apart connection request
      simpa [acceptedBy, calls, perform, takenBy] using served
  | disconnect identity => exact exchange.balances_disconnect connection identity
  | dispatch sender frame => exact balances_dispatch apart connection sender frame
  | handle sender frame => exact balances_handle apart connection sender frame
  | join => exact .of_mailboxes mailboxes_join
  | leave => exact .of_mailboxes mailboxes_leave
  | leaveAll => exact .of_mailboxes rfl
  | enqueue used frame => exact exchange.balances_enqueueBy connection used frame
  | close used => exact balances_modifyMailbox (by simp)
  | receive used =>
      apply balances_read (takenBy connection (.receive used))
      · intro same mailbox
        simpa [takenBy, same] using mailbox.waiting?_receive
      · intro apart answer
        cases answer <;> simp [takenBy, apart]
      · rfl
  | drain used =>
      apply balances_read (takenBy connection (.drain used))
      · intro same mailbox
        simpa [takenBy, same] using mailbox.waiting?_drain
      · intro apart answer
        cases answer <;> simp [takenBy, apart]
      · rfl
  | abandon used => exact balances_modifyMailbox (by simp)
  | stop => exact .of_mailboxes rfl

/-! ## Runs -/

theorem balances_run {operations : List Operation} (apart : exchange.Apart)
    (own : exchange.bringOwn operations = true) (connection : Connection) :
    Balances connection (accepted connection exchange operations)
      (taken connection exchange operations) exchange (exchange.run operations) := by
  induction operations generalizing exchange with
  | nil => exact .of_mailboxes rfl
  | cons operation rest ih =>
      rw [bringOwn, Bool.and_eq_true] at own
      exact (balances_perform apart connection operation).trans (ih (apart.perform own.1) own.2)

/-- In every run in which everybody brings a connection of their own, whatever
the reader of a connection has taken out, followed by what is still queued for
it, is exactly what was accepted for that connection, in this order. -/
theorem taken_append_queued {vocabulary : Vocabulary} {queueCapacity : Nat}
    {arrangement : Arrangement} {operations : List Operation} {mailbox : Mailbox}
    {queued : Queue Bytes}
    (own : (start vocabulary queueCapacity arrangement).bringOwn operations = true)
    (opened : ((start vocabulary queueCapacity arrangement).run operations).mailboxes[connection]? =
      some mailbox)
    (kept : mailbox.outbox? = some queued) :
    taken connection (start vocabulary queueCapacity arrangement) operations ++ queued.toList =
      accepted connection (start vocabulary queueCapacity arrangement) operations := by
  have waiting : ((start vocabulary queueCapacity arrangement).run operations).waitingFor?
      connection = some queued.toList := by
    rw [waitingFor?_of_opened opened, Mailbox.waiting?, kept, Option.map_some]
  obtain ⟨before, was, balanced⟩ :=
    balances_run (apart_start vocabulary queueCapacity arrangement) own connection _ waiting
  have unopened : (start vocabulary queueCapacity arrangement).waitingFor? connection = some [] :=
    waitingFor?_of_unopened rfl
  rw [unopened, Option.some.injEq] at was
  rw [balanced, ← was, List.nil_append]

/-- Alice does not read, so the second of two broadcasts removes her on its way
to Bob. She comes back with another connection. -/
def reconnection : List Operation :=
  [.openMailbox 1, .openMailbox 4,
    .request (.register ⟨"alice"⟩ 0), .request (.register ⟨"bob"⟩ 1),
    .request (.broadcast [1] none), .enqueue 1 [2], .receive 1,
    .request (.broadcast [3] none),
    .openMailbox 2, .request (.register ⟨"alice"⟩ 2), .request (.deliver ⟨"alice"⟩ [4])]

theorem taken_append_queued_reconnection :
    let exchange := start .standard 256
    exchange.bringOwn reconnection = true ∧
      ∃ mailbox queued, (exchange.run reconnection).mailboxes[1]? = some mailbox ∧
        mailbox.outbox? = some queued ∧ queued.toList = [[2], [3]] ∧
        taken 1 exchange reconnection ++ queued.toList = accepted 1 exchange reconnection := by
  intro exchange
  have own : exchange.bringOwn reconnection = true := by
    decide +kernel
  have waiting : ((exchange.run reconnection).mailboxes[1]?.bind Mailbox.waiting?) =
      some [[2], [3]] := by
    decide +kernel
  obtain ⟨mailbox, opened, waits⟩ := Option.bind_eq_some_iff.mp waiting
  obtain ⟨queued, kept, listed⟩ := Option.map_eq_some_iff.mp waits
  exact ⟨own, mailbox, queued, opened, kept, listed, taken_append_queued own opened kept⟩

example : accepted 1 (start .standard 256) reconnection = [[1], [2], [3]] ∧
    accepted 0 (start .standard 256) reconnection = [[1]] ∧
    accepted 2 (start .standard 256) reconnection = [[4]] := by
  decide +kernel

end Exchange

end Switchboard
