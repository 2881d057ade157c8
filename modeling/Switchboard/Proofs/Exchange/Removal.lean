import Switchboard.Proofs.Exchange.Broadcast
import Switchboard.Proofs.Exchange.Departure
import Switchboard.Proofs.Exchange.Readers
import Switchboard.Proofs.Mailbox.Conduct

/-!
# Removing one identity

An identity is removed on request, or because a frame that was meant for it was
refused, be it one delivery or one of the many that make up a broadcast. All
removals are alike. They take away everything that belongs to the identity, and
nothing else, and they leave to its reader what has been queued before.
-/

namespace Switchboard

namespace Exchange

variable {exchange next : Exchange} {identity : Identity} {connection : Connection}
  {frame : Bytes} {departure : Departure} {recipients : List Identity}

/-! ## What is left to the reader -/

/-- A reader that receives so many times takes out so many of the frames that
wait for it, the first ones first, and the others stay. -/
theorem taken_receives {mailbox : Mailbox}
    (opened : exchange.mailboxes[connection]? = some mailbox) (attended : mailbox.IsAttended)
    (count : Nat) :
    let receives := List.replicate count (Operation.receive connection)
    taken connection exchange receives = mailbox.queued.toList.take count ∧
      ∃ rest, (exchange.run receives).mailboxes[connection]? = some rest ∧ rest.IsAttended ∧
        rest.isClosed = mailbox.isClosed ∧
        rest.queued.toList = mailbox.queued.toList.drop count := by
  induction count generalizing exchange mailbox with
  | zero => exact ⟨List.take_zero.symm, mailbox, opened, attended, rfl, rfl⟩
  | succ count ih =>
      have performed := perform_receive opened attended
      have received : (exchange.perform (.receive connection)).2.mailboxes[connection]? =
          some mailbox.receive.2 := by
        rw [performed, modifyMailbox, Array.getElem?_modify, if_pos rfl, opened]
        rfl
      obtain ⟨later, rest, left, stays, closed, remaining⟩ := ih received attended.receive
      rw [Mailbox.toList_receive] at later remaining
      constructor
      · rw [List.replicate_succ, taken, later, performed, takenBy, if_pos rfl,
          Mailbox.taken_receive, Nat.add_comm, List.take_add]
      · refine ⟨rest, left, stays, closed.trans mailbox.isClosed_receive, ?_⟩
        rw [remaining, List.drop_drop, Nat.add_comm]

/-! ## Whole removals -/

/-- An identity that was registered with some connection is removed, with all
that belongs to it, and nothing else is. -/
structure Removes (exchange : Exchange) (identity : Identity) (connection : Connection)
    (departure : Departure) (next : Exchange) : Prop
    extends Loses exchange identity departure next where
  gone : next.directory.find? identity = none ∧ ∀ room, identity ∉ next.rooms.peers room
  /-- A room goes away if nobody else was in it. -/
  destroyed_iff : ∀ room,
    exchange.rooms.table.contains room = true ∧ next.rooms.table.contains room = false ↔
      identity ∈ exchange.rooms.peers room ∧
        ∀ member ∈ exchange.rooms.peers room, member = identity
  /-- The rooms that are recorded as destroyed are those that go away. -/
  recorded_iff : ∀ room, room ∈ exchange.rooms.deserted identity ↔
    exchange.rooms.table.contains room = true ∧ next.rooms.table.contains room = false
  in_order : (exchange.rooms.deserted identity).Pairwise
    fun first second => Text.byteOrder first second = .lt
  closed : ∀ frame, next.enqueue connection frame = .error .closed
  /-- The reader takes out what was queued, and then finds the end. -/
  readable : ∀ mailbox, exchange.mailboxes[connection]? = some mailbox → mailbox.IsAttended →
    ∀ count, let receives := List.replicate count (Operation.receive connection)
      taken connection next receives = mailbox.queued.toList.take count ∧
        (mailbox.queued.toList.length ≤ count →
          ((next.run receives).perform (.receive connection)).1 = .received .ended)
  /-- Only whoever shares the connection finds it closed. -/
  others : ∀ other ≠ identity,
    next.directory.find? other = exchange.directory.find? other ∧
      (∀ room, other ∈ next.rooms.peers room ↔ other ∈ exchange.rooms.peers room) ∧
      ∀ theirs, exchange.directory.find? other = some theirs →
        next.queuedFor theirs = exchange.queuedFor theirs ∧
          (theirs ≠ connection → next.mailboxes[theirs]? = exchange.mailboxes[theirs]?)
  /-- Where nobody shares a connection, the others keep all that they have. -/
  apart : exchange.Apart → ∀ other ≠ identity,
    next.mailboxOf? other = exchange.mailboxOf? other
  again : next.running = true →
    next.unregister identity = (.error (.directory (.notRegistered identity)), next)

namespace Loses

theorem destroyed_iff (loses : exchange.Loses identity departure next)
    (sound : exchange.rooms.Sound) (room : String) :
    exchange.rooms.table.contains room = true ∧ next.rooms.table.contains room = false ↔
      identity ∈ exchange.rooms.peers room ∧
        ∀ member ∈ exchange.rooms.peers room, member = identity := by
  rw [← sound.hasMembers_eq, ← loses.sound.hasMembers_eq, ← Bool.not_eq_true,
    Rooms.hasMembers_eq_true_iff, Rooms.hasMembers_eq_true_iff]
  simp only [loses.memberships, not_exists, not_and, not_not]
  constructor
  · rintro ⟨⟨member, isMember⟩, alone⟩
    exact ⟨alone member isMember ▸ isMember, alone⟩
  · rintro ⟨isMember, alone⟩
    exact ⟨⟨identity, isMember⟩, alone⟩

theorem getElem?_of_ne {used : Connection} (loses : exchange.Loses identity departure next)
    (found : exchange.directory.find? identity = some connection) (away : used ≠ connection) :
    next.mailboxes[used]? = exchange.mailboxes[used]? := by
  rw [loses.mailboxes, if_neg]
  rw [found, Option.some.injEq]
  exact away.symm

theorem find?_of_ne {other : Identity} (loses : exchange.Loses identity departure next)
    (differs : other ≠ identity) :
    next.directory.find? other = exchange.directory.find? other := by
  rw [loses.registrations, if_neg differs]

theorem enqueue_eq (loses : exchange.Loses identity departure next)
    (found : exchange.directory.find? identity = some connection) (frame : Bytes) :
    next.enqueue connection frame = .error .closed := by
  have closed := loses.mailboxes connection
  rw [if_pos found] at closed
  rw [enqueue_eq_error_iff, closed, Option.map_eq_none_iff]
  cases opened : exchange.mailboxes[connection]? with
  | none => exact .inl ⟨rfl, rfl⟩
  | some mailbox =>
      exact .inr ⟨mailbox.close, rfl, Mailbox.enqueue_eq_closed_iff.mpr rfl⟩

theorem unregister_eq (loses : exchange.Loses identity departure next)
    (serving : next.running = true) :
    next.unregister identity = (.error (.directory (.notRegistered identity)), next) := by
  rw [unregister, if_pos serving, loses.registrations, if_pos rfl]

theorem readable {mailbox : Mailbox} (loses : exchange.Loses identity departure next)
    (found : exchange.directory.find? identity = some connection)
    (opened : exchange.mailboxes[connection]? = some mailbox) (attended : mailbox.IsAttended)
    (count : Nat) :
    let receives := List.replicate count (Operation.receive connection)
    taken connection next receives = mailbox.queued.toList.take count ∧
      (mailbox.queued.toList.length ≤ count →
        ((next.run receives).perform (.receive connection)).1 = .received .ended) := by
  have closed : next.mailboxes[connection]? = some mailbox.close := by
    rw [loses.mailboxes connection, if_pos found, opened, Option.map_some]
  obtain ⟨first, rest, left, stays, shut, remaining⟩ := taken_receives closed attended.close count
  refine ⟨first, fun all => ?_⟩
  have nothing : rest.queued.toList = [] := remaining.trans (List.drop_eq_nil_of_le all)
  rw [perform_receive left stays, Mailbox.receive_of_isClosed shut, nothing]
  rfl

end Loses

theorem removes_depart (sound : exchange.rooms.Sound)
    (found : exchange.directory.find? identity = some connection) (departure : Departure) :
    exchange.Removes identity connection departure (exchange.depart identity departure) := by
  have loses := loses_depart sound found departure
  refine { loses with
    gone := ⟨?_, fun room => ?_⟩
    destroyed_iff := loses.destroyed_iff sound
    recorded_iff := fun room => Rooms.mem_deserted.trans (loses.destroyed_iff sound room).symm
    in_order := (Std.ExtTreeMap.ordered_keys.filter _).filter _
    closed := loses.enqueue_eq found
    readable := fun mailbox => loses.readable found
    others := fun other differs => ⟨loses.find?_of_ne differs, fun room => ?_, fun theirs _ =>
      ⟨loses.queues theirs, loses.getElem?_of_ne found⟩⟩
    apart := fun apart other differs => mailboxOf?_of_ne apart found differs.symm
      (loses.find?_of_ne differs) fun used => loses.getElem?_of_ne found
    again := loses.unregister_eq }
  · rw [loses.registrations, if_pos rfl]
  · rw [loses.memberships]
    exact fun isMember => isMember.2 rfl
  · rw [loses.memberships, and_iff_left differs]

/-! ## Failed deliveries -/

/-- A delivery to a registered identity that fails removes it. The reason is
what its mailbox has answered, and only a mailbox that was full has lost the
frame. -/
def Sheds (exchange : Exchange) (identity : Identity) (connection : Connection)
    (frame : Bytes) : Prop :=
  ∀ error next, exchange.deliver identity frame = (.error error, next) →
    error = .shed identity ∧ ∃ refusal, exchange.enqueue connection frame = .error refusal ∧
      (refusal = .full → ∃ mailbox, exchange.mailboxes[connection]? = some mailbox ∧
        mailbox.isClosed = false ∧ mailbox.capacity ≤ mailbox.queued.size) ∧
      exchange.Removes identity connection refusal.departure next

theorem sheds_of_running (sound : exchange.rooms.Sound) (serving : exchange.running = true)
    (found : exchange.directory.find? identity = some connection) (frame : Bytes) :
    exchange.Sheds identity connection frame := by
  intro error next failed
  have outcome := exchange.delivery_deliver identity frame
  rw [failed] at outcome
  cases outcome with
  | stopped idle =>
      rw [serving] at idle
      contradiction
  | unknown _ absent =>
      rw [found] at absent
      contradiction
  | @shed used refusal _ known refused =>
      cases found.symm.trans known
      refine ⟨rfl, refusal, refused, ?_, removes_depart sound found _⟩
      rintro rfl
      rcases enqueue_eq_error_iff.mp refused with ⟨_, isClosed⟩ | ⟨mailbox, opened, occupied⟩
      · contradiction
      · exact ⟨mailbox, opened, Mailbox.enqueue_eq_full_iff.mp occupied⟩

/-! ## In the middle of a broadcast -/

theorem deliverEach_append_snd (before after : List Identity) :
    (deliverEach frame (before ++ after) exchange).2 =
      (deliverEach frame after (deliverEach frame before exchange).2).2 := by
  induction before generalizing exchange with
  | nil => rfl
  | cons recipient rest ih => rw [List.cons_append, deliverEach_cons_snd, deliverEach_cons_snd, ih]

theorem running_deliverEach (frame : Bytes) (recipients : List Identity) (exchange : Exchange) :
    (deliverEach frame recipients exchange).2.running = exchange.running :=
  @related_deliverEach (fun before after => after.running = before.running) (fun _ => rfl)
    (fun first second => second.trans first) running_deliver frame recipients exchange

/-- Whoever is still to be served is registered as before, in rooms that are
sound. -/
theorem sheds_deliverEach (sound : exchange.rooms.Sound) (serving : exchange.running = true)
    (found : exchange.directory.find? identity = some connection)
    (waits : identity ∉ recipients) (frame : Bytes) :
    (deliverEach frame recipients exchange).2.Sheds identity connection frame := by
  apply sheds_of_running
  · exact (changes_deliverEach frame recipients exchange).steps.sound sound
  · rw [running_deliverEach, serving]
  · rw [(confined_deliverEach frame recipients exchange).registrations identity waits, found]

/-- Removing an identity is complete, and confined to it. Whether it was asked
for or a frame was refused, alone or in the middle of a broadcast, the identity
loses its registration and its memberships, its mailbox is closed and can still
be read to the end, and the others keep what they have. Once the exchange has
stopped, nobody is removed any more. -/
theorem removal_is_complete (sound : exchange.rooms.Sound)
    (found : exchange.directory.find? identity = some connection) :
    (exchange.running = true →
      (∃ next, exchange.unregister identity = (.ok (), next) ∧
        exchange.Removes identity connection .requested next) ∧
      (∀ frame, exchange.Sheds identity connection frame) ∧
      ∀ frame excluded before after,
        exchange.recipients excluded = before ++ identity :: after →
          let state := (deliverEach frame before exchange).2
          (exchange.broadcast frame excluded).2 =
              (deliverEach frame after (state.deliver identity frame).2).2 ∧
            state.Sheds identity connection frame) ∧
    (exchange.running = false →
      exchange.unregister identity = (.error .stopped, exchange) ∧
        ∀ frame, exchange.deliver identity frame = (.error .stopped, exchange)) := by
  refine ⟨fun serving => ⟨?_, sheds_of_running sound serving found, ?_⟩, fun idle => ⟨?_, ?_⟩⟩
  · refine ⟨exchange.depart identity .requested, ?_, removes_depart sound found .requested⟩
    rw [unregister, if_pos serving, found]
    dsimp only
    rw [remove_requested]
  · intro frame excluded before after served state
    have distinct := exchange.nodup_recipients excluded
    rw [served] at distinct
    have waits : identity ∉ before := fun listed =>
      List.disjoint_of_nodup_append distinct listed List.mem_cons_self
    refine ⟨?_, sheds_deliverEach sound serving found waits frame⟩
    rw [broadcast_eq, if_pos serving, served, deliverEach_append_snd, deliverEach_cons_snd]
  · rw [unregister, if_neg (Bool.eq_false_iff.mp idle)]
  · exact deliver_of_stopped idle identity

/-- Alice is in the full hall, and alone in the attic. She does not read, so a
frame for her is lost, and the attic goes away with her. The frame that she has
not read is still there. -/
theorem removal_is_complete_fullHall :
    let exchange := (start .standard 256).run (fullHall ++ [.join "attic" ⟨"alice"⟩])
    exchange.rooms.Sound ∧ exchange.directory.find? ⟨"alice"⟩ = some 0 ∧
      exchange.running = true ∧
      (∃ next, exchange.unregister ⟨"alice"⟩ = (.ok (), next) ∧
        exchange.Removes ⟨"alice"⟩ 0 .requested next) ∧
      ∃ next, exchange.deliver ⟨"alice"⟩ [2] = (.error (.shed ⟨"alice"⟩), next) ∧
        next.queuedFor 0 = [[1]] ∧
        next.log.toList = exchange.log.toList ++ [.messageDropped ⟨"alice"⟩,
          .roomDestroyed "attic", .disconnected ⟨"alice"⟩ .slowConsumer] := by
  intro exchange
  have sound : exchange.rooms.Sound := sound_run _ _ _ _
  have found : exchange.directory.find? ⟨"alice"⟩ = some 0 := by decide +kernel
  have serving : exchange.running = true := by decide +kernel
  have full : (exchange.refusal? ⟨"alice"⟩) = some .full := by decide +kernel
  have alone : exchange.rooms.deserted ⟨"alice"⟩ = ["attic"] := by decide +kernel
  have waiting : exchange.queuedFor 0 = [[1]] := by decide +kernel
  have failed : exchange.deliver ⟨"alice"⟩ [2] =
      (.error (.shed ⟨"alice"⟩), exchange.depart ⟨"alice"⟩ .slowConsumer) := by
    rw [deliver_eq serving, found, full]
    rfl
  obtain ⟨requested, sheds, _⟩ := (removal_is_complete sound found).1 serving
  obtain ⟨_, refusal, refused, _, removes⟩ := sheds [2] _ _ failed
  cases (enqueue_of_refusal?_eq_some found full).symm.trans refused
  refine ⟨sound, found, serving, requested, _, failed, ?_, ?_⟩
  · rw [removes.queues, waiting]
  · rw [removes.log, alone]
    rfl

end Exchange

end Switchboard
