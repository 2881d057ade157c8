import Switchboard.Proofs.Exchange.DeliveryLog
import Switchboard.Proofs.Exchange.Reach

/-!
# Closed for good

A connection stays registered until its identity departs, and then it is closed.
Nothing enters a closed mailbox ever again, whoever comes back under the same
identity. The frames that are left in it can still be taken out, and the end
comes behind the last of them.

A connection whose registration was refused is a stranger to the exchange. Its
mailbox changes only where it is used directly.
-/

namespace Switchboard

namespace Operation

/-- The connection that somebody brings to be registered with. -/
def brought? : Operation → Option Connection
  | .request (.register _ connection) => some connection
  | _ => none

/-- The operation uses a connection directly. -/
def uses (connection : Connection) : Operation → Bool
  | .enqueue used _ | .close used | .receive used | .drain used | .abandon used =>
      used = connection
  | _ => false

end Operation

/-- The connections that are brought in a run. -/
def brought (operations : List Operation) : List Connection :=
  operations.filterMap Operation.brought?

theorem brought_cons (operation : Operation) (operations : List Operation) :
    brought (operation :: operations) = operation.brought?.toList ++ brought operations := by
  rw [brought, brought, List.filterMap_cons]
  cases operation.brought? <;> rfl

theorem brought_append (first second : List Operation) :
    brought (first ++ second) = brought first ++ brought second :=
  List.filterMap_append

namespace Exchange

variable {exchange next : Exchange} {identity known : Identity} {connection : Connection}
  {frame : Bytes} {operation : Operation} {operations : List Operation}

/-! ## Closed connections -/

/-- The connection has been opened and is closed. -/
def Shut (exchange : Exchange) (connection : Connection) : Prop :=
  ∃ mailbox, exchange.mailboxes[connection]? = some mailbox ∧ mailbox.isClosed = true

theorem Shut.of_mailboxes (shut : exchange.Shut connection)
    (unmoved : next.mailboxes = exchange.mailboxes) : next.Shut connection := by
  rwa [Shut, unmoved]

theorem Step.shut (step : exchange.Step next) (shut : exchange.Shut connection) :
    next.Shut connection := by
  rcases shut with ⟨mailbox, opened, closed⟩
  have inside : connection < exchange.mailboxes.size :=
    (Array.getElem?_eq_some_iff.mp opened).choose
  cases step with
  | opened =>
      refine ⟨mailbox, ?_, closed⟩
      rw [openMailbox, Array.getElem?_push_lt inside, ← opened, Array.getElem?_eq_getElem inside]
  | @altered used before changed found step =>
      by_cases same : used = connection
      · subst same
        cases opened.symm.trans found
        exact ⟨changed, Array.getElem?_setIfInBounds_self_of_lt inside,
          Mailbox.isClosed_step step closed⟩
      · exact ⟨mailbox, (Array.getElem?_setIfInBounds_ne same).trans opened, closed⟩
  | departed found =>
      rw [Shut, getElem?_depart found, opened]
      split
      · exact ⟨mailbox.close, rfl, rfl⟩
      · exact ⟨mailbox, rfl, closed⟩
  | joined => exact Shut.of_mailboxes ⟨mailbox, opened, closed⟩ mailboxes_join
  | left => exact Shut.of_mailboxes ⟨mailbox, opened, closed⟩ mailboxes_leave
  | leftAll | stopped => exact ⟨mailbox, opened, closed⟩

theorem Steps.shut (steps : Steps exchange next) (shut : exchange.Shut connection) :
    next.Shut connection :=
  steps.preserve (fun _ _ shut step => step.shut shut) shut

theorem shut_perform (shut : exchange.Shut connection) (operation : Operation) :
    (exchange.perform operation).2.Shut connection := by
  have performed := exchange.performed_perform operation
  generalize (exchange.perform operation).2 = next at performed ⊢
  cases performed with
  | joined => exact shut.of_mailboxes mailboxes_join
  | arrived => exact shut
  | stepped steps => exact steps.shut shut

theorem shut_run (shut : exchange.Shut connection) (operations : List Operation) :
    (exchange.run operations).Shut connection :=
  @run_preserve _ (fun exchange => exchange.Shut connection) _
    (fun operation _ _ shut => shut_perform shut operation) shut

theorem Shut.enqueue_eq (shut : exchange.Shut connection) (frame : Bytes) :
    exchange.enqueue connection frame = .error .closed := by
  rcases shut with ⟨mailbox, opened, closed⟩
  exact enqueue_eq_error_iff.mpr
    (.inr ⟨mailbox, opened, Mailbox.enqueue_eq_closed_iff.mpr closed⟩)

/-! ## Nothing is accepted -/

theorem Shut.isOk_deliver (shut : exchange.Shut connection)
    (found : exchange.directory.find? identity = some connection) (frame : Bytes) :
    (exchange.deliver identity frame).1.isOk = false := by
  have outcome := exchange.delivery_deliver identity frame
  generalize exchange.deliver identity frame = result at outcome ⊢
  cases outcome with
  | stopped | unknown | shed => rfl
  | queued _ foundUsed accepted =>
      cases found.symm.trans foundUsed
      rw [shut.enqueue_eq] at accepted
      contradiction

theorem Shut.mem_evicted {recipients : List Identity} (shut : exchange.Shut connection)
    (found : exchange.directory.find? identity = some connection)
    (listed : identity ∈ recipients) :
    identity ∈ (deliverEach frame recipients exchange).1.evicted := by
  induction recipients generalizing exchange with
  | nil => contradiction
  | cons recipient rest ih =>
      rw [evicted_deliverEach_cons]
      by_cases same : identity = recipient
      · subst same
        rw [shut.isOk_deliver found, if_neg Bool.false_ne_true]
        exact List.mem_cons_self
      · -- Until it is the turn of the identity, it is registered and its connection shut.
        have later := ih ((exchange.steps_deliver recipient frame).shut shut)
          ((find?_deliver_of_ne same).trans found) ((List.mem_cons.mp listed).resolve_left same)
        split
        · exact later
        · exact List.mem_cons_of_mem _ later

theorem Shut.accepts_eq_nil (shut : exchange.Shut connection) (request : Request) :
    exchange.accepts connection request = [] := by
  cases request with
  | register | unregister => rfl
  | deliver recipient frame =>
      rw [accepts, if_neg]
      rintro ⟨found, accepted⟩
      rw [shut.isOk_deliver found] at accepted
      contradiction
  | broadcast frame excluded =>
      rw [accepts, broadcast_eq]
      by_cases serving : exchange.running
      · rw [if_pos serving]
        dsimp only
        rw [if_neg]
        rintro ⟨⟨identity, used⟩, listed, rfl, included, kept⟩
        have found := Directory.mem_entries_iff.mp listed
        exact kept (shut.mem_evicted found (mem_recipients.mpr ⟨included, _, found⟩))
      · rw [if_neg serving]

theorem steps_of_mem_calls {state : Exchange} {request : Request}
    (called : (state, request) ∈ exchange.calls operation) : Steps exchange state := by
  cases operation with
  | request | disconnect =>
      cases List.mem_singleton.mp called
      exact .refl
  | dispatch sender frame =>
      rcases List.mem_map.mp called with ⟨_, _, ⟨⟩⟩
      exact .refl
  | handle sender frame =>
      rcases List.mem_append.mp called with routed | complained
      · rcases List.mem_map.mp routed with ⟨_, _, ⟨⟩⟩
        exact .refl
      · rcases List.mem_map.mp complained with ⟨_, _, ⟨⟩⟩
        exact exchange.steps_dispatch sender frame
  | _ => contradiction

theorem Shut.acceptedBy_eq_nil (shut : exchange.Shut connection) (operation : Operation) :
    exchange.acceptedBy connection operation = [] := by
  cases operation with
  | enqueue used frame =>
      rw [acceptedBy, if_neg]
      rintro ⟨rfl, accepted⟩
      rw [shut.enqueue_eq] at accepted
      contradiction
  | _ =>
      apply List.flatMap_eq_nil_iff.mpr
      rintro ⟨state, request⟩ called
      exact ((steps_of_mem_calls called).shut shut).accepts_eq_nil request

theorem Shut.accepted_eq_nil (shut : exchange.Shut connection) :
    accepted connection exchange operations = [] := by
  induction operations generalizing exchange with
  | nil => rfl
  | cons operation rest ih =>
      rw [accepted, shut.acceptedBy_eq_nil, ih (shut_perform shut operation), List.append_nil]

/-! ## What is left -/

theorem queuedFor_of_waitingFor? {frames : List Bytes}
    (waiting : exchange.waitingFor? connection = some frames) :
    exchange.queuedFor connection = frames := by
  rw [queuedFor]
  cases opened : exchange.mailboxes[connection]? with
  | none => exact Option.some.inj ((waitingFor?_of_unopened opened).symm.trans waiting)
  | some mailbox =>
      rw [waitingFor?_of_opened opened] at waiting
      exact (Mailbox.waiting?_eq_some_iff.mp waiting).2

theorem Shut.perform_receive {frames : List Bytes} (shut : exchange.Shut connection)
    (waiting : exchange.waitingFor? connection = some frames) :
    (exchange.perform (.receive connection)).1 = .received (.ofRemaining frames) := by
  rcases shut with ⟨mailbox, opened, closed⟩
  rw [waitingFor?_of_opened opened] at waiting
  rcases Mailbox.waiting?_eq_some_iff.mp waiting with ⟨present, rfl⟩
  rw [perform, read, opened]
  dsimp only
  rw [present]
  dsimp only
  rw [Mailbox.receive_of_isClosed closed]

/-! ## Registered connections -/

/-- The identity is registered with the connection, or the connection is closed. -/
def Keeps (exchange : Exchange) (identity : Identity) (connection : Connection) : Prop :=
  (exchange.directory.find? identity = some connection ∧ connection < exchange.mailboxes.size) ∨
    exchange.Shut connection

theorem Keeps.of_held (keeps : exchange.Keeps identity connection)
    (held : exchange.directory.find? identity = some connection →
      next.directory.find? identity = some connection)
    (mailboxes : next.mailboxes = exchange.mailboxes) : next.Keeps identity connection := by
  rw [Keeps, mailboxes]
  apply keeps.imp
  · rintro ⟨found, inside⟩
    exact ⟨held found, inside⟩
  · exact fun shut => shut.of_mailboxes mailboxes

theorem Keeps.of_eq (keeps : exchange.Keeps identity connection)
    (directory : next.directory = exchange.directory)
    (mailboxes : next.mailboxes = exchange.mailboxes) : next.Keeps identity connection :=
  keeps.of_held (fun found => by rwa [directory]) mailboxes

/-- A registration ends in one way only, and then the connection is closed. -/
theorem Step.keeps (step : exchange.Step next) (keeps : exchange.Keeps identity connection) :
    next.Keeps identity connection := by
  have grown := step.size_mailboxes_le
  rcases keeps with ⟨held, inside⟩ | shut
  · cases step with
    | opened | altered => exact .inl ⟨held, Nat.lt_of_lt_of_le inside grown⟩
    | leftAll | stopped => exact .inl ⟨held, inside⟩
    | joined => exact Keeps.of_eq (.inl ⟨held, inside⟩) directory_join mailboxes_join
    | left => exact Keeps.of_eq (.inl ⟨held, inside⟩) directory_leave mailboxes_leave
    | @departed other used departure found =>
        by_cases same : identity = other
        · subst same
          cases held.symm.trans found
          right
          rw [Shut, getElem?_depart found, if_pos rfl, Array.getElem?_eq_getElem inside]
          exact ⟨_, rfl, rfl⟩
        · left
          rw [directory_depart found, Directory.find?_erase, if_neg same]
          exact ⟨held, Nat.lt_of_lt_of_le inside grown⟩
  · exact .inr (step.shut shut)

theorem keeps_perform (keeps : exchange.Keeps identity connection) (operation : Operation) :
    (exchange.perform operation).2.Keeps identity connection := by
  have performed := exchange.performed_perform operation
  generalize (exchange.perform operation).2 = next at performed ⊢
  cases performed with
  | joined => exact keeps.of_eq directory_join mailboxes_join
  | @arrived other used directory added =>
      apply keeps.of_held
      · intro held
        have apart : identity ≠ other := by
          rintro rfl
          rw [(Directory.add_eq_ok_iff.mp added).2.1] at held
          contradiction
        exact (Directory.find?_add added identity).trans ((if_neg apart).trans held)
      · rfl
  | stepped steps => exact steps.preserve (fun _ _ keeps step => step.keeps keeps) keeps

theorem keeps_run (keeps : exchange.Keeps identity connection) (operations : List Operation) :
    (exchange.run operations).Keeps identity connection :=
  @run_preserve _ (fun exchange => exchange.Keeps identity connection) _
    (fun operation _ _ keeps => keeps_perform keeps operation) keeps

theorem find?_register (registered : (exchange.register identity connection).1 = .ok ()) :
    (exchange.register identity connection).2.directory.find? identity = some connection := by
  rw [register] at registered ⊢
  split at registered
  · rename_i serving
    rw [if_pos serving]
    split at registered
    · contradiction
    · rename_i added
      exact (Directory.find?_add added identity).trans (if_pos rfl)
  · contradiction

/-! ## Fresh connections -/

theorem find?_perform (found : (exchange.perform operation).2.directory.find? known =
      some connection) :
    exchange.directory.find? known = some connection ∨ operation.brought? = some connection := by
  have performed := exchange.performed_perform operation
  generalize (exchange.perform operation).2 = next at performed found
  cases performed with
  | joined => exact .inl (directory_join ▸ found)
  | arrived added =>
      replace found := (Directory.find?_add added known).symm.trans found
      split at found
      · exact .inr found
      · exact .inl found
  | stepped steps => exact .inl (steps.find?_of_find? found)

/-- Everybody who is registered in a run is registered before, or brings the
connection in the run. -/
theorem find?_run (found : (exchange.run operations).directory.find? known = some connection) :
    exchange.directory.find? known = some connection ∨ connection ∈ brought operations := by
  induction operations generalizing exchange with
  | nil => exact .inl found
  | cons operation rest ih =>
      rw [brought_cons, List.mem_append, Option.mem_toList]
      rcases ih found with early | late
      · exact (find?_perform early).imp_right .inl
      · exact .inr (.inr late)

/-- Nobody is registered with the connection. -/
def Unheld (exchange : Exchange) (connection : Connection) : Prop :=
  ∀ known, exchange.directory.find? known ≠ some connection

/-- Nobody is registered with a connection that is still to be brought. -/
def Awaits (exchange : Exchange) (operations : List Operation) : Prop :=
  ∀ connection ∈ brought operations, exchange.Unheld connection

theorem bringsOwn_of_awaits (awaits : exchange.Awaits [operation]) :
    exchange.bringsOwn operation = true := by
  cases operation with
  | request request =>
      cases request with
      | register identity connection =>
          rw [bringsOwn, List.all_eq_true]
          intro entry listed
          rw [decide_eq_true_iff]
          rintro rfl
          have held := Directory.mem_entries_iff.mp listed
          exact awaits entry.2 (List.mem_singleton_self _) entry.1 held
      | unregister | deliver | broadcast => rfl
  | _ => rfl

theorem Awaits.cons (awaits : exchange.Awaits (operation :: operations))
    (fresh : (brought (operation :: operations)).Nodup) :
    exchange.Awaits [operation] ∧ (exchange.perform operation).2.Awaits operations ∧
      (brought operations).Nodup := by
  rw [Awaits, brought_cons] at awaits
  rw [brought_cons, List.nodup_append] at fresh
  rcases fresh with ⟨_, freshLater, apart⟩
  refine ⟨?_, ?_, freshLater⟩
  · intro connection listed
    rw [brought_cons] at listed
    exact awaits connection (List.mem_append_left _ (by simpa [brought] using listed))
  · intro connection listed known found
    rcases find?_perform found with before | brings
    · exact awaits connection (List.mem_append_right _ listed) known before
    · exact apart connection (Option.mem_toList.mpr brings) connection listed rfl

/-- Whoever brings a fresh connection brings one of their own. -/
theorem Awaits.bringOwn (awaits : exchange.Awaits operations)
    (fresh : (brought operations).Nodup) : exchange.bringOwn operations = true := by
  induction operations generalizing exchange with
  | nil => rfl
  | cons operation rest ih =>
      rcases awaits.cons fresh with ⟨first, later, freshLater⟩
      rw [Exchange.bringOwn, Bool.and_eq_true]
      exact ⟨bringsOwn_of_awaits first, ih later freshLater⟩

theorem Apart.run (apart : exchange.Apart) (own : exchange.bringOwn operations = true) :
    (exchange.run operations).Apart := by
  induction operations generalizing exchange with
  | nil => exact apart
  | cons operation rest ih =>
      rw [bringOwn, Bool.and_eq_true] at own
      exact ih (apart.perform own.1) own.2

/-! ## Refused connections -/

theorem Confined.of_unheld {concerned : Identity → Prop}
    (confined : Confined concerned exchange next) (unheld : exchange.Unheld connection) :
    next.mailboxes[connection]? = exchange.mailboxes[connection]? :=
  confined.mailboxes connection fun known _ => unheld known

theorem getElem?_openMailbox (inside : connection < exchange.mailboxes.size) (mailbox : Mailbox) :
    (exchange.openMailbox mailbox).2.mailboxes[connection]? = exchange.mailboxes[connection]? := by
  rw [openMailbox, Array.getElem?_push_lt inside, Array.getElem?_eq_getElem inside]

theorem getElem?_modifyMailbox {used : Connection} (apart : used ≠ connection)
    (change : Mailbox → Mailbox) :
    (exchange.modifyMailbox used change).mailboxes[connection]? =
      exchange.mailboxes[connection]? := by
  rw [modifyMailbox, Array.getElem?_modify, if_neg apart]

theorem getElem?_read {used : Connection} (apart : used ≠ connection)
    (look : Mailbox → Answer × Mailbox) :
    (exchange.read used look).2.mailboxes[connection]? = exchange.mailboxes[connection]? := by
  rw [read]
  split
  · rfl
  · split
    · rfl
    · exact Array.getElem?_setIfInBounds_ne apart

/-- The mailbox of a connection with which nobody is registered changes only
where it is used directly. -/
theorem getElem?_perform (unheld : exchange.Unheld connection)
    (inside : connection < exchange.mailboxes.size)
    (unused : operation.uses connection = false) :
    (exchange.perform operation).2.mailboxes[connection]? =
      exchange.mailboxes[connection]? := by
  cases operation with
  | openMailbox | openSaturated => exact getElem?_openMailbox inside _
  | request request =>
      cases request with
      | register identity used => exact congrArg (·[connection]?) mailboxes_register
      | unregister identity => exact (exchange.confined_unregister identity).of_unheld unheld
      | deliver recipient frame =>
          exact (exchange.confined_deliver recipient frame).of_unheld unheld
      | broadcast frame excluded =>
          have confined : Confined _ exchange (exchange.serve (.broadcast frame excluded)).2 :=
            confined_serve rfl exchange
          exact confined.of_unheld unheld
  | disconnect identity => exact (exchange.confined_disconnect identity).of_unheld unheld
  | dispatch sender frame => exact (exchange.confined_dispatch sender frame).of_unheld unheld
  | handle sender frame => exact (exchange.confined_handle sender frame).of_unheld unheld
  | join => exact congrArg (·[connection]?) mailboxes_join
  | leave => exact congrArg (·[connection]?) mailboxes_leave
  | leaveAll | stop => rfl
  | enqueue used frame =>
      rw [perform]
      split
      · rename_i accepted
        rw [getElem?_enqueue accepted, if_neg (Ne.symm (of_decide_eq_false unused))]
      · rfl
  | close | abandon => exact getElem?_modifyMailbox (of_decide_eq_false unused) _
  | receive | drain => exact getElem?_read (of_decide_eq_false unused) _

theorem size_mailboxes_perform (exchange : Exchange) (operation : Operation) :
    exchange.mailboxes.size ≤ (exchange.perform operation).2.mailboxes.size := by
  have performed := exchange.performed_perform operation
  generalize (exchange.perform operation).2 = next at performed ⊢
  cases performed with
  | joined => rw [mailboxes_join]
  | arrived => exact Nat.le_refl _
  | stepped steps =>
      exact @Steps.preserve _ _ (fun next => exchange.mailboxes.size ≤ next.mailboxes.size) steps
        (fun _ _ grown step => grown.trans step.size_mailboxes_le) (Nat.le_refl _)

theorem size_mailboxes_run (exchange : Exchange) (operations : List Operation) :
    exchange.mailboxes.size ≤ (exchange.run operations).mailboxes.size :=
  @run_preserve _ (fun next => exchange.mailboxes.size ≤ next.mailboxes.size) _
    (fun operation _ next grown => grown.trans (next.size_mailboxes_perform operation))
    (Nat.le_refl _)

theorem getElem?_run (unheld : exchange.Unheld connection)
    (unbrought : connection ∉ brought operations)
    (inside : connection < exchange.mailboxes.size)
    (unused : ∀ operation ∈ operations, operation.uses connection = false) :
    (exchange.run operations).mailboxes[connection]? = exchange.mailboxes[connection]? := by
  induction operations generalizing exchange with
  | nil => rfl
  | cons operation rest ih =>
      rw [brought_cons, List.mem_append, not_or, Option.mem_toList] at unbrought
      rw [List.forall_mem_cons] at unused
      have unheldLater : (exchange.perform operation).2.Unheld connection := by
        intro known found
        exact (find?_perform found).elim (unheld known) unbrought.1
      have insideLater := Nat.lt_of_lt_of_le inside (exchange.size_mailboxes_perform operation)
      exact (ih unheldLater unbrought.2 insideLater unused.2).trans
        (getElem?_perform unheld inside unused.1)

/-! ## Runs -/

theorem run_append (exchange : Exchange) (first second : List Operation) :
    exchange.run (first ++ second) = (exchange.run first).run second :=
  List.foldl_append

theorem find?_start (vocabulary : Vocabulary) (queueCapacity : Nat)
    (arrangement : Arrangement) (known : Identity) :
    (start vocabulary queueCapacity arrangement).directory.find? known = none :=
  Directory.find?_empty known

theorem unheld_run {vocabulary : Vocabulary} {queueCapacity : Nat} {arrangement : Arrangement}
    (unbrought : connection ∉ brought operations) :
    ((start vocabulary queueCapacity arrangement).run operations).Unheld connection := by
  intro known found
  rcases find?_run found with early | brings
  · rw [find?_start] at early
    contradiction
  · exact unbrought brings

theorem not_mem_brought_of_fresh {before after later : List Operation}
    (fresh : (brought
      (before ++ .request (.register identity connection) :: after ++ later)).Nodup) :
    connection ∉ brought (before ++ after ++ later) := by
  simp only [List.append_assoc, List.cons_append, brought_append, brought_cons, Operation.brought?,
    Option.toList_some, List.nil_append] at fresh ⊢
  exact (List.nodup_cons.mp (List.nodup_middle.mp fresh)).1

/-- What is brought after a run is not held yet. -/
theorem awaits_run {vocabulary : Vocabulary} {queueCapacity : Nat}
    {arrangement : Arrangement} {later : List Operation}
    (fresh : (brought (operations ++ later)).Nodup) :
    ((start vocabulary queueCapacity arrangement).run operations).Awaits later := by
  rw [brought_append, List.nodup_append] at fresh
  intro connection listed
  exact unheld_run fun earlier => fresh.2.2 connection earlier connection listed rfl

theorem apart_run {vocabulary : Vocabulary} {queueCapacity : Nat} {arrangement : Arrangement}
    (fresh : (brought operations).Nodup) :
    ((start vocabulary queueCapacity arrangement).run operations).Apart := by
  have awaits : (start vocabulary queueCapacity arrangement).Awaits operations := by
    intro connection _ known
    rw [find?_start]
    simp
  exact (apart_start vocabulary queueCapacity arrangement).run (awaits.bringOwn fresh)

/-- In every run in which each registration brings a fresh connection, a
connection that was registered stays with its identity until it is closed. Once
it is closed it stays so and accepts nothing, whatever happens later, and the
frames that are left are taken out in order before the end. A connection whose
registration was refused is held by nobody, and its mailbox changes only where it
is used directly. -/
theorem removed_connections_stay_closed {vocabulary : Vocabulary} {queueCapacity : Nat}
    {arrangement : Arrangement} {before after later : List Operation} {identity : Identity}
    {connection : Connection}
    (fresh : (brought
      (before ++ .request (.register identity connection) :: after ++ later)).Nodup)
    (opened :
      connection < ((start vocabulary queueCapacity arrangement).run before).mailboxes.size) :
    let entered := (start vocabulary queueCapacity arrangement).run before
    let exchange := (start vocabulary queueCapacity arrangement).run
      (before ++ .request (.register identity connection) :: after)
    let last := exchange.run later
    ((entered.register identity connection).1 = .ok () →
      exchange.directory.find? identity = some connection ∨ exchange.Shut connection) ∧
    (exchange.Shut connection →
      last.Shut connection ∧ (∀ frame, last.enqueue connection frame = .error .closed) ∧
        accepted connection exchange later = []) ∧
    (∀ frames, last.waitingFor? connection = some frames →
      taken connection exchange later ++ frames =
        exchange.queuedFor connection ++ accepted connection exchange later ∧
      (last.Shut connection →
        (last.perform (.receive connection)).1 = .received (.ofRemaining frames))) ∧
    ∀ error, (entered.register identity connection).1 = .error error →
      (entered.register identity connection).2 = entered ∧ exchange.Unheld connection ∧
        ((∀ operation ∈ later, operation.uses connection = false) →
          last.mailboxes[connection]? = exchange.mailboxes[connection]?) := by
  intro entered exchange last
  have run_eq : exchange = (entered.register identity connection).2.run after :=
    (start vocabulary queueCapacity arrangement).run_append before _
  have freshBefore := (List.nodup_append.mp (brought_append _ later ▸ fresh)).1
  have awaits : exchange.Awaits later := awaits_run fresh
  have freshLater := (List.nodup_append.mp (brought_append _ later ▸ fresh)).2.1
  refine ⟨?_, ?_, ?_, ?_⟩
  · intro registered
    have keeps : (entered.register identity connection).2.Keeps identity connection :=
      .inl ⟨find?_register registered, by rwa [mailboxes_register]⟩
    rw [run_eq]
    exact (keeps_run keeps after).imp_left And.left
  · intro shut
    have shutLater := shut_run shut later
    exact ⟨shutLater, shutLater.enqueue_eq, shut.accepted_eq_nil⟩
  · intro frames waiting
    refine ⟨?_, fun shut => shut.perform_receive waiting⟩
    have apart : exchange.Apart := apart_run freshBefore
    rcases balances_run apart (awaits.bringOwn freshLater) connection frames waiting with
      ⟨earlier, waited, balanced⟩
    rw [balanced, queuedFor_of_waitingFor? waited]
  · intro error refused
    have unmoved : (entered.register identity connection).2 = entered :=
      (refuses_register refused).2
    have elsewhere := not_mem_brought_of_fresh fresh
    rw [brought_append, List.mem_append, not_or] at elsewhere
    have rest_eq :
        exchange = (start vocabulary queueCapacity arrangement).run (before ++ after) := by
      rw [run_eq, unmoved, run_append]
    have unheld : exchange.Unheld connection := by
      rw [rest_eq]
      exact unheld_run elsewhere.1
    have inside : connection < exchange.mailboxes.size := by
      rw [run_eq, unmoved]
      exact Nat.lt_of_lt_of_le opened (entered.size_mailboxes_run after)
    exact ⟨unmoved, unheld, getElem?_run unheld elsewhere.2 inside⟩

/-- Alice is removed, and comes back with another connection. The first stays
closed, and its reader still finds the frame that is left. While she is there
nobody else gets her name, and the connection that is brought for it stays
empty. -/
theorem removed_connections_stay_closed_reconnection :
    let before := reconnection.take 2
    let after := (reconnection.drop 3).take 5
    let later := reconnection.drop 8
    let exchange := (start .standard 256).run
      (before ++ .request (.register ⟨"alice"⟩ 0) :: after)
    let last := exchange.run later
    let present := (start .standard 256).run (reconnection.take 4 ++ [.openMailbox 2])
    let again := (start .standard 256).run
      (reconnection.take 4 ++ [.openMailbox 2] ++ [.request (.register ⟨"alice"⟩ 2)])
    (brought (before ++ .request (.register ⟨"alice"⟩ 0) :: after ++ later)).Nodup ∧
      0 < ((start .standard 256).run before).mailboxes.size ∧
      exchange.directory.find? ⟨"alice"⟩ = none ∧ exchange.Shut 0 ∧
      last.directory.find? ⟨"alice"⟩ = some 2 ∧ last.Shut 0 ∧
      last.enqueue 0 [5] = .error .closed ∧ accepted 0 exchange later = [] ∧
      last.waitingFor? 0 = some [[1]] ∧
      (last.perform (.receive 0)).1 = .received (.frame [1]) ∧
      (present.register ⟨"alice"⟩ 2).1 = .error (.directory (.alreadyRegistered ⟨"alice"⟩)) ∧
      again.Unheld 2 ∧ (again.run [.request (.broadcast [5] none)]).mailboxes[2]? =
        again.mailboxes[2]? := by
  intro before after later exchange last present again
  have fresh : (brought
      (before ++ .request (.register ⟨"alice"⟩ 0) :: after ++ later)).Nodup := by
    decide +kernel
  have opened : 0 < ((start .standard 256).run before).mailboxes.size := by decide +kernel
  have registered : (((start .standard 256).run before).register ⟨"alice"⟩ 0).1 = .ok () := by
    decide +kernel
  have removed : exchange.directory.find? ⟨"alice"⟩ = none := by decide +kernel
  have back : last.directory.find? ⟨"alice"⟩ = some 2 := by decide +kernel
  have waiting : last.waitingFor? 0 = some [[1]] := by decide +kernel
  have freshAgain : (brought (reconnection.take 4 ++ [.openMailbox 2] ++
      .request (.register ⟨"alice"⟩ 2) :: [] ++ [.request (.broadcast [5] none)])).Nodup := by
    decide +kernel
  have openedAgain : 2 < present.mailboxes.size := by decide +kernel
  have refused : (present.register ⟨"alice"⟩ 2).1 =
      .error (.directory (.alreadyRegistered ⟨"alice"⟩)) := by
    decide +kernel
  rcases removed_connections_stay_closed fresh opened with ⟨kept, shutFor, readable, _⟩
  have shut : exchange.Shut 0 := by
    rcases kept registered with held | shut
    · rw [removed] at held
      contradiction
    · exact shut
  rcases shutFor shut with ⟨shutLater, refusing, nothing⟩
  have received := (readable _ waiting).2 shutLater
  rcases removed_connections_stay_closed freshAgain openedAgain with ⟨_, _, _, spared⟩
  rcases spared _ refused with ⟨_, unheld, unmoved⟩
  exact ⟨fresh, opened, removed, shut, back, shutLater, refusing [5], nothing, waiting, received,
    refused, unheld, unmoved (by decide)⟩

end Exchange

end Switchboard
