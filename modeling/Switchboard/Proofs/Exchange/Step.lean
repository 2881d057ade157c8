import Mathlib.Logic.Relation
import Switchboard.Proofs.Exchange.Calls
import Switchboard.Proofs.Exchange.Delivery
import Switchboard.Proofs.Mailbox

/-!
# Elementary steps

However much an operation does, it does it in elementary steps: a mailbox is
opened or changed, an identity departs, a registered identity joins a room, a
room is left, or the exchange stops.

Two operations are no such steps, because they bring in somebody new: the
registration of an identity, and joining a room directly, on behalf of anybody.
-/

namespace Switchboard

open Relation

namespace Exchange

/-- The single changes of an exchange that bring in nobody new. -/
inductive Step (exchange : Exchange) : Exchange → Prop
  | opened {mailbox : Mailbox} (vacant : mailbox.queued = .empty) :
      Step exchange (exchange.openMailbox mailbox).2
  | altered {connection : Connection} {mailbox changed : Mailbox}
      (found : exchange.mailboxes[connection]? = some mailbox) (step : mailbox.Step changed) :
      Step exchange
        { exchange with mailboxes := exchange.mailboxes.setIfInBounds connection changed }
  | departed {identity : Identity} {connection : Connection} {departure : Departure}
      (found : exchange.directory.find? identity = some connection) :
      Step exchange (exchange.depart identity departure)
  | joined {room : String} {identity : Identity}
      (registered : exchange.directory.contains identity = true) :
      Step exchange (exchange.join room identity).2
  | left {room : String} {identity : Identity} : Step exchange (exchange.leave room identity).2
  | leftAll {identity : Identity} : Step exchange (exchange.leaveAll identity)
  | stopped : Step exchange exchange.stop

/-- Any number of steps, one after the other. -/
abbrev Steps : Exchange → Exchange → Prop :=
  ReflTransGen Step

variable {exchange next : Exchange} {room : String} {identity : Identity}
  {connection : Connection} {frame : Bytes}

/-! ## Rooms -/

theorem directory_join : (exchange.join room identity).2.directory = exchange.directory := by
  rw [join]
  split <;> rfl

theorem directory_leave : (exchange.leave room identity).2.directory = exchange.directory := by
  rw [leave]
  split <;> rfl

theorem mailboxes_join : (exchange.join room identity).2.mailboxes = exchange.mailboxes := by
  rw [join]
  split <;> rfl

theorem mailboxes_leave : (exchange.leave room identity).2.mailboxes = exchange.mailboxes := by
  rw [leave]
  split <;> rfl

theorem log_join :
    ∃ events, (∀ event ∈ events, event.IsAboutRoom) ∧
      (exchange.join room identity).2.log.toList = exchange.log.toList ++ events := by
  rw [join]
  split
  · exact ⟨[], by simp, by simp⟩
  · rename_i events joined
    exact ⟨events, Rooms.isAboutRoom_of_mem_join joined, log_record _⟩

theorem log_leave :
    ∃ events, (∀ event ∈ events, event.IsAboutRoom) ∧
      (exchange.leave room identity).2.log.toList = exchange.log.toList ++ events := by
  rw [leave]
  split
  · exact ⟨[], by simp, by simp⟩
  · rename_i events left
    refine ⟨events, fun event listed => ?_, log_record _⟩
    exact (Rooms.isDestruction_of_mem_leave left event listed).isAboutRoom

theorem log_leaveAll :
    ∃ events, (∀ event ∈ events, event.IsAboutRoom) ∧
      (exchange.leaveAll identity).log.toList = exchange.log.toList ++ events :=
  ⟨_, fun event listed => (Rooms.isDestruction_of_mem_leaveAll event listed).isAboutRoom,
    log_record _⟩

/-! ## Requests -/

theorem steps_of_enqueue (queued : exchange.enqueue connection frame = .ok next) :
    Steps exchange next := by
  obtain ⟨mailbox, filled, found, accepted, rfl⟩ := enqueue_eq_ok_iff.mp queued
  exact .single (.altered found (.queued accepted))

theorem steps_deliver (exchange : Exchange) (recipient : Identity) (frame : Bytes) :
    Steps exchange (exchange.deliver recipient frame).2 := by
  have outcome := exchange.delivery_deliver recipient frame
  generalize exchange.deliver recipient frame = result at outcome ⊢
  cases outcome with
  | stopped | unknown => exact .refl
  | queued _ _ accepted => exact steps_of_enqueue accepted
  | shed _ found => exact .single (.departed found)

/-- What holds of every delivery, and may be repeated, holds of deliveries one
after the other. -/
theorem related_deliverEach {related : Exchange → Exchange → Prop}
    (refl : ∀ exchange, related exchange exchange)
    (trans : ∀ {first second third}, related first second → related second third →
      related first third)
    (deliver : ∀ (exchange : Exchange) (recipient : Identity) (frame : Bytes),
      related exchange (exchange.deliver recipient frame).2)
    (frame : Bytes) (recipients : List Identity) (exchange : Exchange) :
    related exchange (deliverEach frame recipients exchange).2 := by
  induction recipients generalizing exchange with
  | nil => exact refl exchange
  | cons recipient rest ih =>
      rw [deliverEach_cons_snd]
      exact trans (deliver exchange recipient frame) (ih _)

/-- It also holds of every request that delivers. -/
theorem related_serve {request : Request} {related : Exchange → Exchange → Prop}
    (refl : ∀ exchange, related exchange exchange)
    (trans : ∀ {first second third}, related first second → related second third →
      related first third)
    (deliver : ∀ (exchange : Exchange) (recipient : Identity) (frame : Bytes),
      related exchange (exchange.deliver recipient frame).2)
    (delivers : request.isDelivery = true) : related exchange (exchange.serve request).2 := by
  cases request with
  | register | unregister => contradiction
  | deliver recipient frame => exact deliver exchange recipient frame
  | broadcast frame excluded =>
      change related exchange (exchange.broadcast frame excluded).2
      rw [broadcast_eq]
      split
      · exact related_deliverEach refl trans deliver frame _ exchange
      · exact refl exchange

theorem steps_serve {request : Request} (delivers : request.isDelivery = true)
    (exchange : Exchange) : Steps exchange (exchange.serve request).2 :=
  related_serve (fun _ => .refl) .trans steps_deliver delivers

/-- A removal on request is a departure, if there is anybody to remove. -/
theorem unregister_snd (exchange : Exchange) (identity : Identity) :
    (exchange.unregister identity).2 = exchange ∨
      ∃ connection, exchange.directory.find? identity = some connection ∧
        (exchange.unregister identity).2 = exchange.depart identity .requested := by
  rw [unregister]
  split
  · split
    · exact .inl rfl
    · rename_i found
      exact .inr ⟨_, found, exchange.remove_requested identity⟩
  · exact .inl rfl

theorem steps_unregister (exchange : Exchange) (identity : Identity) :
    Steps exchange (exchange.unregister identity).2 := by
  rcases exchange.unregister_snd identity with same | ⟨connection, found, departed⟩
  · rw [same]
  · rw [departed]
    exact .single (.departed found)

/-! ## Operations -/

theorem steps_dispatch (exchange : Exchange) (sender : Identity) (frame : Bytes) :
    Steps exchange (exchange.dispatch sender frame).2 := by
  have outcome := exchange.dispatched_dispatch sender frame
  generalize (exchange.dispatch sender frame).2 = next at outcome ⊢
  cases outcome with
  | served routed => exact steps_serve (isDelivery_of_routed? routed) exchange
  | joined registered => exact .single (.joined registered)
  | left => exact .single .left
  | unchanged => exact .refl

theorem steps_handle (exchange : Exchange) (sender : Identity) (frame : Bytes) :
    Steps exchange (exchange.handle sender frame) := by
  have first := exchange.steps_dispatch sender frame
  rw [handle_eq]
  split
  · exact first
  · rename_i complained
    obtain ⟨_, _, _, rfl⟩ := complaint?_eq_some complained
    exact first.trans (steps_deliver _ _ _)

/-- A connection ends with the removal of its identity, and perhaps with leaving
all rooms once more. -/
theorem disconnect_snd (exchange : Exchange) (identity : Identity) :
    (exchange.disconnect identity).2 = (exchange.unregister identity).2 ∨
      (exchange.disconnect identity).2 = (exchange.unregister identity).2.leaveAll identity := by
  rw [disconnect]
  rcases exchange.unregister identity with ⟨result, next⟩
  cases result with
  | ok => exact .inl rfl
  | error error =>
      cases error with
      | directory reason => cases reason <;> simp
      | shed | stopped => exact .inl rfl

theorem steps_disconnect (exchange : Exchange) (identity : Identity) :
    Steps exchange (exchange.disconnect identity).2 := by
  have removed := exchange.steps_unregister identity
  rcases exchange.disconnect_snd identity with same | left
  · rw [same]
    exact removed
  · rw [left]
    exact removed.tail .leftAll

theorem modify_eq_setIfInBounds {mailboxes : Array Mailbox} {mailbox : Mailbox}
    (change : Mailbox → Mailbox) (found : mailboxes[connection]? = some mailbox) :
    mailboxes.modify connection change = mailboxes.setIfInBounds connection (change mailbox) := by
  have inside : connection < mailboxes.size := (Array.getElem?_eq_some_iff.mp found).choose
  apply Array.ext_getElem?
  intro other
  rw [Array.getElem?_modify, Array.getElem?_setIfInBounds]
  by_cases same : connection = other
  · subst same
    rw [if_pos rfl, if_pos rfl, if_pos inside, found, Option.map_some]
  · rw [if_neg same, if_neg same]

theorem steps_modifyMailbox {change : Mailbox → Mailbox}
    (step : ∀ mailbox : Mailbox, mailbox.Step (change mailbox)) :
    Steps exchange (exchange.modifyMailbox connection change) := by
  rw [modifyMailbox]
  cases found : exchange.mailboxes[connection]? with
  | none =>
      have unmoved : exchange.mailboxes.modify connection change = exchange.mailboxes := by
        apply Array.ext_getElem?
        intro other
        rw [Array.getElem?_modify]
        by_cases same : connection = other
        · rw [if_pos same, ← same, found, Option.map_none]
        · rw [if_neg same]
      rw [unmoved]
  | some mailbox =>
      rw [modify_eq_setIfInBounds change found]
      exact .single (.altered found (step mailbox))

/-- A reader changes nothing but mailboxes. -/
theorem exists_read_eq (look : Mailbox → Answer × Mailbox) :
    ∃ mailboxes, (exchange.read connection look).2 = { exchange with mailboxes } := by
  rw [read]
  split
  · exact ⟨_, rfl⟩
  · split
    · exact ⟨_, rfl⟩
    · exact ⟨_, rfl⟩

theorem directory_read {look : Mailbox → Answer × Mailbox} :
    (exchange.read connection look).2.directory = exchange.directory := by
  obtain ⟨mailboxes, outcome⟩ := exchange.exists_read_eq look
  rw [outcome]

theorem log_read {look : Mailbox → Answer × Mailbox} :
    (exchange.read connection look).2.log = exchange.log := by
  obtain ⟨mailboxes, outcome⟩ := exchange.exists_read_eq look
  rw [outcome]

theorem steps_read {look : Mailbox → Answer × Mailbox}
    (step : ∀ mailbox : Mailbox, mailbox.Step (look mailbox).2) :
    Steps exchange (exchange.read connection look).2 := by
  rw [read]
  split
  · exact .refl
  · split
    · exact .refl
    · rename_i mailbox found _ _ _
      exact .single (.altered found (step mailbox))

/-- What an operation can do to the exchange. -/
inductive Performed (exchange : Exchange) : Operation → Exchange → Prop
  | joined {room : String} {identity : Identity} :
      Performed exchange (.join room identity) (exchange.join room identity).2
  | arrived {identity : Identity} {connection : Connection} {directory : Directory Connection}
      (added : exchange.directory.add identity connection = .ok directory) :
      Performed exchange (.request (.register identity connection))
        ({ exchange with directory }.record [.connected identity])
  | stepped {operation : Operation} {next : Exchange} (steps : Steps exchange next) :
      Performed exchange operation next

theorem mailboxes_register :
    (exchange.register identity connection).2.mailboxes = exchange.mailboxes := by
  rw [register]
  split
  · split <;> rfl
  · rfl

theorem performed_register (exchange : Exchange) (identity : Identity) (connection : Connection) :
    Performed exchange (.request (.register identity connection))
      (exchange.register identity connection).2 := by
  rw [register]
  split
  · split
    · exact .stepped .refl
    · rename_i added
      exact .arrived added
  · exact .stepped .refl

/-- Every operation joins a room directly, registers somebody, or is made of
steps. -/
theorem performed_perform (exchange : Exchange) (operation : Operation) :
    Performed exchange operation (exchange.perform operation).2 := by
  cases operation with
  | join room identity => exact .joined
  | request request =>
      cases request with
      | register identity connection => exact exchange.performed_register identity connection
      | unregister identity => exact .stepped (exchange.steps_unregister identity)
      | deliver recipient frame => exact .stepped (exchange.steps_deliver recipient frame)
      | broadcast frame excluded =>
          have served : Steps exchange (exchange.serve (.broadcast frame excluded)).2 :=
            steps_serve rfl exchange
          exact .stepped served
  | openMailbox => exact .stepped (.single (.opened rfl))
  | openSaturated => exact .stepped (.single (.opened rfl))
  | disconnect identity => exact .stepped (exchange.steps_disconnect identity)
  | dispatch sender frame => exact .stepped (exchange.steps_dispatch sender frame)
  | handle sender frame => exact .stepped (exchange.steps_handle sender frame)
  | leave => exact .stepped (.single .left)
  | leaveAll => exact .stepped (.single .leftAll)
  | enqueue connection frame =>
      rw [perform]
      split
      · rename_i queued
        exact .stepped (steps_of_enqueue queued)
      · exact .stepped .refl
  | close => exact .stepped (steps_modifyMailbox fun _ => .closed)
  | receive => exact .stepped (steps_read fun _ => .received)
  | drain => exact .stepped (steps_read fun _ => .drained)
  | abandon => exact .stepped (steps_modifyMailbox fun _ => .abandoned)
  | stop => exact .stepped (.single .stopped)

/-! ## Runs -/

/-- The exchange before anything has happened. -/
def start (vocabulary : Vocabulary) (queueCapacity : Nat) (arrangement : Arrangement := .byName) :
    Exchange :=
  { vocabulary, queueCapacity, arrangement }

/-- Alice and Bob each enter a room. Alice does not read, so the second of two
broadcasts removes her, and her next frame can no longer take her anywhere. -/
def slowReader : List Operation :=
  [.openMailbox 1, .openMailbox 4,
    .request (.register ⟨"alice"⟩ 0), .request (.register ⟨"bob"⟩ 1),
    .handle ⟨"alice"⟩ (Text.utf8 "[\"join\",\"hall\"]"),
    .handle ⟨"bob"⟩ (Text.utf8 "[\"join\",\"lobby\"]"),
    .handle ⟨"bob"⟩ (Text.utf8 "[\"broadcast\",null,null,1]"),
    .handle ⟨"bob"⟩ (Text.utf8 "[\"broadcast\",null,null,2]"),
    .handle ⟨"alice"⟩ (Text.utf8 "[\"join\",\"lobby\"]")]

/-- What every step preserves is preserved by any number of steps. -/
theorem Steps.preserve {property : Exchange → Prop} (steps : Steps exchange next)
    (preserved : ∀ before after, property before → before.Step after → property after)
    (holds : property exchange) : property next := by
  induction steps with
  | refl => exact holds
  | tail _ step ih => exact preserved _ _ ih step

theorem setUp_join : (exchange.join room identity).2.vocabulary = exchange.vocabulary ∧
    (exchange.join room identity).2.queueCapacity = exchange.queueCapacity := by
  rw [join]
  split <;> exact ⟨rfl, rfl⟩

/-- No step changes what the exchange was set up with. -/
theorem Step.setUp_eq (step : exchange.Step next) :
    next.vocabulary = exchange.vocabulary ∧ next.queueCapacity = exchange.queueCapacity := by
  cases step with
  | opened | altered | leftAll | stopped => exact ⟨rfl, rfl⟩
  | departed found =>
      rw [depart_eq found]
      exact ⟨rfl, rfl⟩
  | joined => exact setUp_join
  | left =>
      rw [leave]
      split <;> exact ⟨rfl, rfl⟩

theorem setUp_perform (exchange : Exchange) (operation : Operation) :
    (exchange.perform operation).2.vocabulary = exchange.vocabulary ∧
      (exchange.perform operation).2.queueCapacity = exchange.queueCapacity := by
  have performed := exchange.performed_perform operation
  generalize (exchange.perform operation).2 = next at performed ⊢
  cases performed with
  | joined => exact setUp_join
  | arrived => exact ⟨rfl, rfl⟩
  | stepped steps =>
      induction steps with
      | refl => exact ⟨rfl, rfl⟩
      | tail _ step ih => exact ⟨step.setUp_eq.1.trans ih.1, step.setUp_eq.2.trans ih.2⟩

/-- What every operation of a run preserves holds at its end. -/
theorem run_preserve {property : Exchange → Prop} {operations : List Operation}
    (preserved : ∀ operation ∈ operations, ∀ before, property before →
      property (before.perform operation).2)
    (holds : property exchange) : property (exchange.run operations) := by
  induction operations generalizing exchange with
  | nil => exact holds
  | cons operation rest ih =>
      rw [List.forall_mem_cons] at preserved
      exact ih preserved.2 (preserved.1 exchange holds)

theorem setUp_run (exchange : Exchange) (operations : List Operation) :
    (exchange.run operations).vocabulary = exchange.vocabulary ∧
      (exchange.run operations).queueCapacity = exchange.queueCapacity := by
  apply @run_preserve _ (fun next => next.vocabulary = exchange.vocabulary ∧
    next.queueCapacity = exchange.queueCapacity)
  · intro operation _ before same
    have kept := before.setUp_perform operation
    exact ⟨kept.1.trans same.1, kept.2.trans same.2⟩
  · exact ⟨rfl, rfl⟩

end Exchange

end Switchboard
