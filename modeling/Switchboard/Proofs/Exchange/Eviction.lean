import Switchboard.Proofs.Exchange.Standing

/-!
# Justified evictions

A registered identity departs because it was asked for, or because one of the
frames that an operation addresses to it was refused. The reason on record
tells which: a full mailbox is open and holds as many frames as it can, and a
closed one has lost its writer or its reader.

In the other direction, nobody is evicted whose mailbox has room for all the
frames that an operation addresses to its owner.
-/

namespace Switchboard

/-- The operation asks for the removal of an identity. -/
def Operation.removes (identity : Identity) : Operation → Bool
  | .request (.unregister other) | .disconnect other => other = identity
  | _ => false

/-- The mailbox is in a condition for which its owner departs, without having
asked for it. -/
def Mailbox.Warrants (mailbox : Mailbox) : Departure → Prop
  | .requested => False
  | .slowConsumer => mailbox.isClosed = false ∧ mailbox.queued.size = mailbox.capacity
  | .writerClosed => mailbox.isClosed = true

theorem Mailbox.warrants_of_refusal {mailbox : Mailbox} {frame : Bytes} {refusal : Refusal}
    (bounded : mailbox.Bounded) (refused : mailbox.enqueue frame = .error refusal) :
    mailbox.Warrants refusal.departure := by
  cases refusal with
  | full =>
      obtain ⟨usable, occupied⟩ := Mailbox.enqueue_eq_full_iff.mp refused
      exact ⟨usable, Nat.le_antisymm bounded occupied⟩
  | closed => exact Mailbox.enqueue_eq_closed_iff.mp refused

namespace Standing

variable {standing : Standing} {frame : Bytes} {count : Nat}

/-- The mailbox is open and has room for some more frames. -/
def HasRoom (standing : Standing) (count : Nat) : Prop :=
  ∃ mailbox, standing.mailbox = some mailbox ∧ mailbox.isClosed = false ∧
    mailbox.queued.size + count ≤ mailbox.capacity

theorem HasRoom.mono {fewer : Nat} (room : standing.HasRoom count) (le : fewer ≤ count) :
    standing.HasRoom fewer := by
  rcases room with ⟨mailbox, registered, usable, vacant⟩
  exact ⟨mailbox, registered, usable, by omega⟩

theorem HasRoom.offered (room : standing.HasRoom (count + 1)) :
    (standing.offered frame).HasRoom count := by
  rcases room with ⟨mailbox, registered, usable, vacant⟩
  have accepted : mailbox.enqueue frame =
      .ok { mailbox with queued := mailbox.queued.push frame } :=
    Mailbox.enqueue_eq_ok_iff.mpr ⟨usable, by omega, rfl⟩
  refine ⟨{ mailbox with queued := mailbox.queued.push frame }, ?_, usable, ?_⟩
  · simp [Standing.offered, registered, accepted]
  · rw [Queue.size_eq_length] at vacant ⊢
    rw [Queue.toList_push, List.length_append, List.length_singleton]
    dsimp only
    omega

end Standing

namespace Exchange

variable {exchange next : Exchange} {identity sender : Identity} {request : Request}
  {mailbox : Mailbox} {frame : Bytes}

/-- The departure was asked for, or the operation addressed a frame to the
identity while its mailbox was in the condition that the reason tells. -/
def Justifies (exchange : Exchange) (operation : Operation) (identity : Identity)
    (departure : Departure) : Prop :=
  (operation.removes identity = true ∧ departure = .requested) ∨
    ∃ state request mailbox, (state, request) ∈ exchange.calls operation ∧
      request.addresses identity = true ∧ state.mailboxOf? identity = some mailbox ∧
      mailbox.Warrants departure

/-- How many frames an operation addresses to an identity. -/
def addressed (exchange : Exchange) (operation : Operation) (identity : Identity) : Nat :=
  (exchange.calls operation).countP fun call => call.2.addresses identity

/-! ## Bounded mailboxes -/

/-- No mailbox holds more frames than it has room for. -/
def Bounded (exchange : Exchange) : Prop :=
  ∀ (connection : Connection) (mailbox : Mailbox),
    exchange.mailboxes[connection]? = some mailbox → mailbox.Bounded

theorem Bounded.step (bounded : exchange.Bounded) (step : exchange.Step next) :
    next.Bounded := by
  intro connection mailbox opened
  cases step with
  | @opened new vacant =>
      change (exchange.mailboxes.push new)[connection]? = some mailbox at opened
      rw [Array.getElem?_push] at opened
      split at opened
      · cases opened
        rw [Mailbox.Bounded, vacant]
        exact Nat.zero_le _
      · exact bounded connection mailbox opened
  | @altered used old changed found step =>
      dsimp only at opened
      rw [Array.getElem?_setIfInBounds] at opened
      split at opened
      · split at opened
        · cases opened
          exact (bounded used old found).step step
        · contradiction
      · exact bounded connection mailbox opened
  | departed found =>
      rw [getElem?_depart found] at opened
      split at opened
      · obtain ⟨old, wasOpened, rfl⟩ := Option.map_eq_some_iff.mp opened
        exact (bounded connection old wasOpened).step .closed
      · exact bounded connection mailbox opened
  | joined =>
      rw [mailboxes_join] at opened
      exact bounded connection mailbox opened
  | left =>
      rw [mailboxes_leave] at opened
      exact bounded connection mailbox opened
  | leftAll | stopped => exact bounded connection mailbox opened

theorem Bounded.steps (bounded : exchange.Bounded) (steps : Steps exchange next) :
    next.Bounded :=
  steps.preserve (fun _ _ bounded step => bounded.step step) bounded

theorem Bounded.perform (bounded : exchange.Bounded) (operation : Operation) :
    (exchange.perform operation).2.Bounded := by
  have performed := exchange.performed_perform operation
  generalize (exchange.perform operation).2 = next at performed ⊢
  cases performed with
  | joined =>
      intro connection mailbox opened
      rw [mailboxes_join] at opened
      exact bounded connection mailbox opened
  | arrived => exact bounded
  | stepped steps => exact bounded.steps steps

theorem bounded_run (vocabulary : Vocabulary) (queueCapacity : Nat) (arrangement : Arrangement)
    (operations : List Operation) :
    ((start vocabulary queueCapacity arrangement).run operations).Bounded :=
  run_preserve (fun operation _ _ bounded => bounded.perform operation)
    fun _ _ opened => absurd opened (by simp [start])

theorem Bounded.mailboxOf? (bounded : exchange.Bounded)
    (registered : exchange.mailboxOf? identity = some mailbox) : mailbox.Bounded := by
  obtain ⟨connection, _, opened⟩ := Option.bind_eq_some_iff.mp registered
  exact bounded connection mailbox opened

/-! ## One request -/

/-- A registered identity comes out of some calls with its mailbox, or it has
departed for a reason that one of the calls warrants. -/
inductive Fate (identity : Identity) (calls : List (Exchange × Request)) (before : Standing) :
    Standing → Prop
  | kept (mailbox : Mailbox) : Fate identity calls before { before with mailbox := some mailbox }
  | evicted {state : Exchange} {request : Request} {mailbox : Mailbox} {departure : Departure}
      (made : (state, request) ∈ calls) (meant : request.addresses identity = true)
      (registered : state.mailboxOf? identity = some mailbox)
      (warranted : mailbox.Warrants departure) :
      Fate identity calls before
        { mailbox := none, departures := before.departures ++ [departure] }

theorem fate_of_unchanged {calls : List (Exchange × Request)} {before after : Standing}
    (registered : before.mailbox = some mailbox) (unchanged : after = before) :
    Fate identity calls before after := by
  have same : after = { before with mailbox := some mailbox } := by
    rw [unchanged, ← registered]
  rw [same]
  exact .kept mailbox

/-- Nothing happens any more to an identity that has departed. -/
theorem Fate.trans {calls later : List (Exchange × Request)} {before between after : Standing}
    (first : Fate identity calls before between)
    (second : ∀ mailbox, between.mailbox = some mailbox → Fate identity later between after)
    (gone : between.mailbox = none → after = between) :
    Fate identity (calls ++ later) before after := by
  cases first with
  | kept mailbox =>
      cases second mailbox rfl with
      | kept mailbox => exact .kept mailbox
      | evicted made meant registered warranted =>
          exact .evicted (List.mem_append_right _ made) meant registered warranted
  | evicted made meant registered warranted =>
      rw [gone rfl]
      exact .evicted (List.mem_append_left _ made) meant registered warranted

/-- Without a frame addressed to it an identity keeps its registration. -/
theorem Fate.isSome_of_unaddressed {calls : List (Exchange × Request)}
    {before after : Standing} (fate : Fate identity calls before after)
    (unaddressed : ∀ call ∈ calls, call.2.addresses identity = false) :
    after.mailbox.isSome = true := by
  cases fate with
  | kept => rfl
  | evicted made meant =>
      rw [unaddressed _ made] at meant
      contradiction

theorem fate_serve (equipped : exchange.Equipped) (bounded : exchange.Bounded)
    (delivers : request.isDelivery = true)
    (registered : exchange.mailboxOf? identity = some mailbox) :
    Fate identity [(exchange, request)] (exchange.standing identity)
      ((exchange.serve request).2.standing identity) := by
  obtain ⟨frame, served⟩ := standing_serve equipped delivers identity
  rw [served]
  split
  · rename_i meant
    have known : (exchange.standing identity).mailbox = some mailbox := registered
    unfold Standing.offered Standing.departed
    rw [known]
    dsimp only
    cases outcome : mailbox.enqueue frame with
    | ok filled => exact .kept filled
    | error refusal =>
        exact .evicted List.mem_cons_self meant.2 registered
          (Mailbox.warrants_of_refusal (bounded.mailboxOf? registered) outcome)
  · exact fate_of_unchanged registered rfl

theorem standing_serve_of_unregistered (equipped : exchange.Equipped)
    (delivers : request.isDelivery = true)
    (unregistered : (exchange.standing identity).mailbox = none) :
    (exchange.serve request).2.standing identity = exchange.standing identity := by
  obtain ⟨frame, served⟩ := standing_serve equipped delivers identity
  rw [served, Standing.offered, unregistered, ite_self]

theorem hasRoom_serve {count : Nat} (equipped : exchange.Equipped)
    (delivers : request.isDelivery = true)
    (room : (exchange.standing identity).HasRoom
      (count + if request.addresses identity then 1 else 0)) :
    ((exchange.serve request).2.standing identity).HasRoom count := by
  obtain ⟨frame, served⟩ := standing_serve equipped delivers identity
  rw [served]
  by_cases meant : request.addresses identity
  · rw [if_pos meant] at room
    split
    · exact room.offered
    · exact room.mono (Nat.le_succ count)
  · rw [if_neg meant] at room
    simpa [meant] using room

/-! ## Frames of clients -/

theorem standing_dispatch (exchange : Exchange) (sender identity : Identity) (frame : Bytes) :
    (exchange.dispatch sender frame).2.standing identity =
      match exchange.routed? sender frame with
      | none => exchange.standing identity
      | some request => (exchange.serve request).2.standing identity := by
  have outcome := exchange.dispatched_dispatch sender frame
  generalize (exchange.dispatch sender frame).2 = next at outcome ⊢
  cases outcome with
  | served routed => rw [routed]
  | joined _ unrouted => rw [unrouted, standing_join]
  | left unrouted => rw [unrouted, standing_leave]
  | unchanged unrouted => rw [unrouted]

theorem fate_dispatch (equipped : exchange.Equipped) (bounded : exchange.Bounded)
    (registered : exchange.mailboxOf? identity = some mailbox) :
    Fate identity (exchange.calls (.dispatch sender frame)) (exchange.standing identity)
      ((exchange.dispatch sender frame).2.standing identity) := by
  rw [standing_dispatch, calls]
  cases routed : exchange.routed? sender frame with
  | none => exact fate_of_unchanged registered rfl
  | some request => exact fate_serve equipped bounded (isDelivery_of_routed? routed) registered

theorem isDelivery_of_complaint? (complained : exchange.complaint? sender frame = some request) :
    request.isDelivery = true := by
  obtain ⟨_, _, _, rfl⟩ := complaint?_eq_some complained
  rfl

theorem fate_handle (equipped : exchange.Equipped) (bounded : exchange.Bounded)
    (registered : exchange.mailboxOf? identity = some mailbox) :
    Fate identity (exchange.calls (.handle sender frame)) (exchange.standing identity)
      ((exchange.handle sender frame).standing identity) := by
  have steps := exchange.steps_dispatch sender frame
  have first : Fate identity (exchange.calls (.dispatch sender frame))
      (exchange.standing identity) ((exchange.dispatch sender frame).2.standing identity) :=
    fate_dispatch equipped bounded registered
  rw [handle_eq, calls]
  cases complained : exchange.complaint? sender frame with
  | none => exact first.trans (fun _ known => fate_of_unchanged known rfl) fun _ => rfl
  | some request =>
      have delivers := isDelivery_of_complaint? complained
      apply first.trans
      · intro mailbox known
        exact fate_serve (equipped.steps steps) (bounded.steps steps) delivers known
      · exact standing_serve_of_unregistered (equipped.steps steps) delivers

theorem hasRoom_dispatch {count : Nat} (equipped : exchange.Equipped)
    (room : (exchange.standing identity).HasRoom
      (count + exchange.addressed (.dispatch sender frame) identity)) :
    ((exchange.dispatch sender frame).2.standing identity).HasRoom count := by
  rw [standing_dispatch]
  rw [addressed, calls] at room
  cases routed : exchange.routed? sender frame with
  | none => exact room.mono (Nat.le_add_right _ _)
  | some request =>
      apply hasRoom_serve equipped (isDelivery_of_routed? routed)
      simpa [routed, List.countP_singleton] using room

theorem hasRoom_handle (equipped : exchange.Equipped)
    (room : (exchange.standing identity).HasRoom
      (exchange.addressed (.handle sender frame) identity)) :
    ((exchange.handle sender frame).standing identity).HasRoom 0 := by
  have steps := exchange.steps_dispatch sender frame
  rw [addressed, calls, List.countP_append, Nat.add_comm] at room
  have first := hasRoom_dispatch equipped room
  rw [handle_eq]
  cases complained : exchange.complaint? sender frame with
  | none => exact first.mono (Nat.zero_le _)
  | some request =>
      apply hasRoom_serve (equipped.steps steps) (isDelivery_of_complaint? complained)
      simpa [complained, List.countP_singleton] using first

/-! ## Operations -/

theorem fate_of_quiet {calls : List (Exchange × Request)} (equipped : exchange.Equipped)
    (registered : exchange.mailboxOf? identity = some mailbox) (steps : Steps exchange next)
    (directory : next.directory = exchange.directory) (log : next.log = exchange.log) :
    Fate identity calls (exchange.standing identity) (next.standing identity) := by
  obtain ⟨connection, found, _⟩ := Option.bind_eq_some_iff.mp registered
  obtain ⟨changed, _, still⟩ := (equipped.steps steps).mailboxOf?_eq (directory ▸ found)
  have same : next.standing identity =
      { exchange.standing identity with mailbox := some changed } := by
    rw [standing, standing, still, log]
  rw [same]
  exact .kept changed

theorem fate_perform {operation : Operation} (equipped : exchange.Equipped)
    (bounded : exchange.Bounded) (registered : exchange.mailboxOf? identity = some mailbox)
    (unasked : operation.removes identity = false) :
    Fate identity (exchange.calls operation) (exchange.standing identity)
      ((exchange.perform operation).2.standing identity) := by
  have unmoved : ∀ other, other ≠ identity →
      (exchange.unregister other).2.standing identity = exchange.standing identity := by
    intro other differ
    rw [standing_unregister equipped, if_neg fun asked => differ asked.2]
  cases operation with
  | openMailbox => exact fate_of_quiet equipped registered (.single (.opened rfl)) rfl rfl
  | openSaturated => exact fate_of_quiet equipped registered (.single (.opened rfl)) rfl rfl
  | request request =>
      cases request with
      | register other used =>
          obtain ⟨connection, found, _⟩ := Option.bind_eq_some_iff.mp registered
          exact fate_of_unchanged registered (standing_register found used)
      | unregister other =>
          have differ : other ≠ identity := by simpa [Operation.removes] using unasked
          exact fate_of_unchanged registered (unmoved other differ)
      | deliver => exact fate_serve equipped bounded rfl registered
      | broadcast => exact fate_serve equipped bounded rfl registered
  | disconnect other =>
      apply fate_of_unchanged registered
      rw [perform, standing_disconnect]
      exact unmoved other (by simpa [Operation.removes] using unasked)
  | dispatch => exact fate_dispatch equipped bounded registered
  | handle => exact fate_handle equipped bounded registered
  | join => exact fate_of_unchanged registered standing_join
  | leave => exact fate_of_unchanged registered standing_leave
  | leaveAll => exact fate_of_unchanged registered standing_leaveAll
  | enqueue used frame =>
      rw [perform]
      split
      · rename_i queued
        obtain ⟨_, directory, _, log⟩ := enqueue_ok_frame queued
        exact fate_of_quiet equipped registered (steps_of_enqueue queued) directory log
      · exact fate_of_unchanged registered rfl
  | close =>
      exact fate_of_quiet equipped registered (steps_modifyMailbox fun _ => .closed) rfl rfl
  | receive =>
      exact fate_of_quiet equipped registered (steps_read fun _ => .received) directory_read
        log_read
  | drain =>
      exact fate_of_quiet equipped registered (steps_read fun _ => .drained) directory_read
        log_read
  | abandon =>
      exact fate_of_quiet equipped registered (steps_modifyMailbox fun _ => .abandoned) rfl rfl
  | stop => exact fate_of_quiet equipped registered (.single .stopped) rfl rfl

/-- An identity that is removed on request has departed for that reason, if it
is gone. -/
theorem standing_removes {operation : Operation} (equipped : exchange.Equipped)
    (asked : operation.removes identity = true) :
    (exchange.perform operation).2.standing identity = exchange.standing identity ∨
      (exchange.perform operation).2.standing identity =
        (exchange.standing identity).departed .requested := by
  have removed : (exchange.unregister identity).2.standing identity = exchange.standing identity ∨
      (exchange.unregister identity).2.standing identity =
        (exchange.standing identity).departed .requested := by
    rw [standing_unregister equipped]
    split
    · exact .inr rfl
    · exact .inl rfl
  unfold Operation.removes at asked
  split at asked
  · cases of_decide_eq_true asked
    exact removed
  · cases of_decide_eq_true asked
    exact removed.imp standing_disconnect.trans standing_disconnect.trans
  · contradiction

theorem isSome_of_hasRoom {standing : Standing} {count : Nat} (room : standing.HasRoom count) :
    standing.mailbox.isSome = true := by
  rcases room with ⟨mailbox, registered, _⟩
  rw [registered, Option.isSome_some]

theorem isSome_perform {operation : Operation} (equipped : exchange.Equipped)
    (bounded : exchange.Bounded) (unasked : operation.removes identity = false)
    (room : (exchange.standing identity).HasRoom (exchange.addressed operation identity)) :
    ((exchange.perform operation).2.standing identity).mailbox.isSome = true := by
  obtain ⟨mailbox, registered, _⟩ := id room
  have fate := fate_perform equipped bounded registered unasked
  have served : ∀ request : Request, request.isDelivery = true →
      (exchange.standing identity).HasRoom (exchange.addressed (.request request) identity) →
      ((exchange.serve request).2.standing identity).mailbox.isSome = true := by
    intro request delivers room
    have left : ((exchange.serve request).2.standing identity).HasRoom 0 := by
      apply hasRoom_serve equipped delivers
      simpa [addressed, calls, List.countP_singleton] using room
    exact isSome_of_hasRoom left
  cases operation with
  | dispatch sender frame =>
      have left : ((exchange.dispatch sender frame).2.standing identity).HasRoom 0 :=
        hasRoom_dispatch equipped (by rwa [Nat.zero_add])
      exact isSome_of_hasRoom left
  | handle => exact isSome_of_hasRoom (hasRoom_handle equipped room)
  | request request =>
      cases request with
      | register | unregister =>
          exact fate.isSome_of_unaddressed (by simp [calls, Request.addresses])
      | deliver recipient frame => exact served (.deliver recipient frame) rfl room
      | broadcast frame excluded => exact served (.broadcast frame excluded) rfl room
  | _ => exact fate.isSome_of_unaddressed (by simp [calls, Request.addresses])

/-- In every state that a run can lead to, as long as everybody has a mailbox
of their own: a registered identity that an operation removes has departed for
one reason, which is on record and justified. And an operation removes nobody
whose mailbox is open and has room for all that it addresses to them, unless
this is what it is asked for. -/
theorem evictions_are_justified {vocabulary : Vocabulary} {queueCapacity : Nat}
    {arrangement : Arrangement} {operations : List Operation}
    (equipped : ((start vocabulary queueCapacity arrangement).run operations).Equipped)
    (operation : Operation) (identity : Identity) :
    let exchange := (start vocabulary queueCapacity arrangement).run operations
    let next := (exchange.perform operation).2
    (exchange.directory.contains identity = true → next.directory.contains identity = false →
      ∃ departure, exchange.Justifies operation identity departure ∧
        Event.departures identity next.log.toList =
          Event.departures identity exchange.log.toList ++ [departure]) ∧
    ∀ mailbox, exchange.mailboxOf? identity = some mailbox → mailbox.isClosed = false →
      mailbox.queued.size + exchange.addressed operation identity ≤ mailbox.capacity →
      operation.removes identity = false → next.directory.contains identity = true := by
  intro exchange next
  have bounded : exchange.Bounded := bounded_run vocabulary queueCapacity arrangement operations
  constructor
  · intro before after
    have gone : (next.standing identity).mailbox = none := by
      rw [← Option.not_isSome_iff_eq_none]
      intro kept
      rw [contains_of_mailboxOf? kept] at after
      contradiction
    obtain ⟨connection, found⟩ := Directory.contains_iff_exists_find?.mp before
    obtain ⟨mailbox, _, registered⟩ := equipped.mailboxOf?_eq found
    by_cases asked : operation.removes identity
    · refine ⟨.requested, .inl ⟨asked, rfl⟩, ?_⟩
      rcases standing_removes equipped asked with same | departed
      · rw [same] at gone
        exact absurd (registered.symm.trans gone) (Option.some_ne_none _)
      · have onRecord := congrArg Standing.departures departed
        rwa [Standing.departed, show (exchange.standing identity).mailbox = _ from registered]
          at onRecord
    · have fate := fate_perform equipped bounded registered (Bool.eq_false_iff.mpr asked)
      change Fate identity _ _ (next.standing identity) at fate
      generalize outcome : next.standing identity = after at fate gone
      have onRecord : Event.departures identity next.log.toList = after.departures :=
        congrArg Standing.departures outcome
      cases fate with
      | kept => contradiction
      | evicted made meant known warranted =>
          exact ⟨_, .inr ⟨_, _, _, made, meant, known, warranted⟩, onRecord⟩
  · intro mailbox registered usable vacant unasked
    exact contains_of_mailboxOf?
      (isSome_perform equipped bounded unasked ⟨mailbox, registered, usable, vacant⟩)

theorem evictions_are_justified_slowReader :
    let exchange := (start .standard 256).run (slowReader.take 7)
    let operation := Operation.request (.broadcast [2] none)
    let next := (exchange.perform operation).2
    exchange.Equipped ∧
      (exchange.directory.contains ⟨"alice"⟩ = true ∧
        next.directory.contains ⟨"alice"⟩ = false ∧
        ∃ departure, exchange.Justifies operation ⟨"alice"⟩ departure ∧
          Event.departures ⟨"alice"⟩ next.log.toList =
            Event.departures ⟨"alice"⟩ exchange.log.toList ++ [departure]) ∧
      ∃ mailbox, exchange.mailboxOf? ⟨"bob"⟩ = some mailbox ∧ mailbox.isClosed = false ∧
        mailbox.queued.size + exchange.addressed operation ⟨"bob"⟩ ≤ mailbox.capacity ∧
        operation.removes ⟨"bob"⟩ = false ∧ next.directory.contains ⟨"bob"⟩ = true := by
  intro exchange operation next
  have equipped : exchange.Equipped :=
    equipped_of_entries (by decide +kernel) (by decide +kernel)
  have before : exchange.directory.contains ⟨"alice"⟩ = true := by decide +kernel
  have after : next.directory.contains ⟨"alice"⟩ = false := by decide +kernel
  have condition : (exchange.mailboxOf? ⟨"bob"⟩).map
      (fun mailbox => (mailbox.isClosed, mailbox.queued.size, mailbox.capacity)) =
        some (false, 0, 4) := by
    decide +kernel
  obtain ⟨mailbox, registered, facts⟩ := Option.map_eq_some_iff.mp condition
  obtain ⟨usable, size, capacity⟩ : mailbox.isClosed = false ∧ mailbox.queued.size = 0 ∧
      mailbox.capacity = 4 := by
    simpa only [Prod.mk.injEq] using facts
  have vacant : mailbox.queued.size + exchange.addressed operation ⟨"bob"⟩ ≤
      mailbox.capacity := by
    rw [size, capacity]
    decide +kernel
  exact ⟨equipped,
    ⟨before, after, (evictions_are_justified equipped operation ⟨"alice"⟩).1 before after⟩,
    mailbox, registered, usable, vacant, rfl,
    (evictions_are_justified equipped operation ⟨"bob"⟩).2 mailbox registered usable vacant rfl⟩

end Exchange

end Switchboard
