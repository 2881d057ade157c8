import Switchboard.Proofs.Exchange.Order
import Switchboard.Proofs.Exchange.Reach

/-!
# What a broadcast does

A broadcast splits those for whom it is. Whoever has room for the frame gets
it, once, and stays registered. Everybody else departs. Since the recipients
can be served in any order, each of them may be taken to be the first, and so
fares as if the frame were for nobody else.
-/

namespace Switchboard

namespace Exchange

variable {exchange : Exchange} {identity recipient : Identity}
  {connection : Connection} {frame : Bytes} {recipients : List Identity}

/-- What a broadcast does to the registrations, the mailboxes and the
memberships, and what it reports. -/
structure Splits (exchange : Exchange) (frame : Bytes) (excluded : Option Identity)
    (report : Report) (next : Exchange) : Prop where
  delivered : report.delivered = (exchange.recipients excluded).countP exchange.hasSlot
  evicted : ∀ identity, identity ∈ report.evicted ↔ excluded ≠ some identity ∧
    exchange.directory.contains identity = true ∧ exchange.hasSlot identity = false
  once : report.evicted.Nodup
  complete : report.delivered + report.evicted.length = (exchange.recipients excluded).length
  /-- Whoever has room gets the frame, and stays registered. -/
  served : ∀ identity connection mailbox, excluded ≠ some identity →
    exchange.directory.find? identity = some connection →
      exchange.mailboxes[connection]? = some mailbox → mailbox.hasSlot = true →
        next.directory.find? identity = some connection ∧
          next.mailboxes[connection]? = some (mailbox.put frame)
  /-- Nothing is left of the others but what has been queued for them. -/
  removed : ∀ identity ∈ report.evicted, ∀ connection,
    exchange.directory.find? identity = some connection →
      next.directory.find? identity = none ∧
        next.mailboxes[connection]? = exchange.mailboxes[connection]?.map Mailbox.close ∧
          ∀ room, identity ∉ next.rooms.peers room
  kept : ∀ identity ∉ report.evicted,
    next.directory.find? identity = exchange.directory.find? identity ∧
      ∀ room, identity ∈ next.rooms.peers room ↔ identity ∈ exchange.rooms.peers room
  /-- The frame is for nobody who is registered with the connection. -/
  untouched : ∀ connection : Connection,
    (∀ identity, exchange.directory.find? identity = some connection →
      excluded = some identity) →
        next.mailboxes[connection]? = exchange.mailboxes[connection]?

/-! ## One recipient among others -/

theorem changes_deliverEach (frame : Bytes) (recipients : List Identity) (exchange : Exchange) :
    Changes exchange (deliverEach frame recipients exchange).2 :=
  related_deliverEach (fun _ => .refl) .trans changes_deliver frame recipients exchange

namespace Ready

/-- A recipient and its mailbox fare as if the frame were for nobody else. -/
theorem deliverEach_as_deliver (ready : exchange.Ready recipients) (sound : exchange.rooms.Sound)
    (listed : recipient ∈ recipients)
    (found : exchange.directory.find? recipient = some connection) (frame : Bytes) :
    (Exchange.deliverEach frame recipients exchange).2.directory.find? recipient =
        (exchange.deliver recipient frame).2.directory.find? recipient ∧
      (Exchange.deliverEach frame recipients exchange).2.mailboxes[connection]? =
        (exchange.deliver recipient frame).2.mailboxes[connection]? := by
  have perm : recipients.Perm (recipient :: recipients.erase recipient) :=
    List.perm_cons_erase listed
  have alike := alike_deliverEach_of_perm perm ready.distinct ready.apart sound frame
  rw [deliverEach_cons_snd] at alike
  have others := confined_deliverEach frame (recipients.erase recipient)
    (exchange.deliver recipient frame).2
  have missing : recipient ∉ recipients.erase recipient := ready.distinct.not_mem_erase
  constructor
  · rw [← others.registrations recipient missing, alike.directory_eq]
  · rw [← others.mailboxes connection, alike.mailboxes_eq]
    intro identity isOther foundLater
    have foundFirst := (exchange.steps_deliver recipient frame).find?_of_find? foundLater
    exact missing (ready.apart _ _ _ foundFirst found ▸ isOther)

theorem deliverEach_of_hasSlot (ready : exchange.Ready recipients) (sound : exchange.rooms.Sound)
    (listed : recipient ∈ recipients)
    (found : exchange.directory.find? recipient = some connection)
    (slot : exchange.hasSlot recipient = true) (frame : Bytes) :
    (Exchange.deliverEach frame recipients exchange).2.directory.find? recipient =
        some connection ∧
      (Exchange.deliverEach frame recipients exchange).2.mailboxes[connection]? =
        exchange.mailboxes[connection]?.map (.put frame) := by
  obtain ⟨registration, mailbox⟩ := ready.deliverEach_as_deliver sound listed found frame
  have alone := deliver_of_hasSlot ready.serving found slot frame
  constructor
  · rw [registration, alone]
    exact found
  · rw [mailbox, alone, modifyMailbox, Array.getElem?_modify, if_pos rfl]

theorem deliverEach_of_not_hasSlot (ready : exchange.Ready recipients)
    (sound : exchange.rooms.Sound) (listed : recipient ∈ recipients)
    (found : exchange.directory.find? recipient = some connection)
    (noSlot : exchange.hasSlot recipient = false) (frame : Bytes) :
    (Exchange.deliverEach frame recipients exchange).2.directory.find? recipient = none ∧
      (Exchange.deliverEach frame recipients exchange).2.mailboxes[connection]? =
        exchange.mailboxes[connection]?.map Mailbox.close := by
  obtain ⟨registration, mailbox⟩ := ready.deliverEach_as_deliver sound listed found frame
  obtain ⟨_, alone⟩ := deliver_of_not_hasSlot ready.serving found noSlot frame
  constructor
  · rw [registration, alone, directory_depart found, Directory.find?_erase, if_pos rfl]
  · rw [mailbox, alone, getElem?_depart found, if_pos rfl]

theorem mem_evicted_iff (ready : exchange.Ready recipients) (frame : Bytes) :
    identity ∈ (Exchange.deliverEach frame recipients exchange).1.evicted ↔
      identity ∈ recipients ∧ exchange.hasSlot identity = false := by
  rw [ready.deliverEach_fst, List.mem_filter, Bool.not_eq_true']

/-- Nobody loses a registration without being reported. -/
theorem find?_deliverEach_of_spared (ready : exchange.Ready recipients)
    (sound : exchange.rooms.Sound)
    (spared : identity ∉ (Exchange.deliverEach frame recipients exchange).1.evicted) :
    (Exchange.deliverEach frame recipients exchange).2.directory.find? identity =
      exchange.directory.find? identity := by
  by_cases listed : identity ∈ recipients
  · have slot : exchange.hasSlot identity = true := by
      rw [← Bool.not_eq_false]
      exact fun noSlot => spared ((ready.mem_evicted_iff frame).mpr ⟨listed, noSlot⟩)
    obtain ⟨connection, found⟩ :=
      Directory.contains_iff_exists_find?.mp (ready.registered identity listed)
    rw [(ready.deliverEach_of_hasSlot sound listed found slot frame).1, found]
  · exact (confined_deliverEach frame recipients exchange).registrations identity listed

/-- Those that are reported lose their memberships, and nobody else does. -/
theorem mem_peers_deliverEach (ready : exchange.Ready recipients) (sound : exchange.rooms.Sound)
    {room : String} :
    identity ∈ (Exchange.deliverEach frame recipients exchange).2.rooms.peers room ↔
      identity ∈ exchange.rooms.peers room ∧
        identity ∉ (Exchange.deliverEach frame recipients exchange).1.evicted := by
  rw [(changes_deliverEach frame recipients exchange).mem_peers sound, Evicts,
    Directory.contains_eq_isSome_find?, Directory.contains_eq_isSome_find?]
  by_cases listed : identity ∈ (Exchange.deliverEach frame recipients exchange).1.evicted
  · obtain ⟨isRecipient, noSlot⟩ := (ready.mem_evicted_iff frame).mp listed
    obtain ⟨connection, found⟩ :=
      Directory.contains_iff_exists_find?.mp (ready.registered identity isRecipient)
    have gone := (ready.deliverEach_of_not_hasSlot sound isRecipient found noSlot frame).1
    simp [listed, found, gone]
  · rw [ready.find?_deliverEach_of_spared sound listed]
    cases exchange.directory.find? identity <;> simp [listed]

end Ready

/-! ## All recipients -/

theorem splits_deliverEach (apart : exchange.Apart) (sound : exchange.rooms.Sound)
    (serving : exchange.running = true) (frame : Bytes) (excluded : Option Identity) :
    exchange.Splits frame excluded
      (deliverEach frame (exchange.recipients excluded) exchange).1
      (deliverEach frame (exchange.recipients excluded) exchange).2 := by
  have ready : exchange.Ready (exchange.recipients excluded) :=
    ready_recipients apart serving excluded
  have reported := ready.deliverEach_fst frame
  constructor
  case delivered => rw [reported]
  case evicted =>
    intro identity
    rw [ready.mem_evicted_iff, mem_recipients_iff, and_assoc]
  case once =>
    rw [reported]
    exact ready.distinct.filter _
  case complete =>
    rw [reported, ← List.countP_eq_length_filter,
      List.length_eq_countP_add_countP exchange.hasSlot]
    simp
  case served =>
    intro identity connection mailbox included found opened slot
    have listed := mem_recipients.mpr ⟨included, connection, found⟩
    have hasSlot : exchange.hasSlot identity = true := by
      rw [hasSlot, mailboxOf?_eq_getElem? found, opened]
      exact slot
    have served := ready.deliverEach_of_hasSlot sound listed found hasSlot frame
    rw [opened, Option.map_some] at served
    exact served
  case removed =>
    intro identity evicted connection found
    obtain ⟨listed, noSlot⟩ := (ready.mem_evicted_iff frame).mp evicted
    obtain ⟨gone, closed⟩ := ready.deliverEach_of_not_hasSlot sound listed found noSlot frame
    exact ⟨gone, closed, fun _ isMember =>
      ((ready.mem_peers_deliverEach sound).mp isMember).2 evicted⟩
  case kept =>
    intro identity spared
    refine ⟨ready.find?_deliverEach_of_spared sound spared, fun _ => ?_⟩
    rw [ready.mem_peers_deliverEach sound, and_iff_left spared]
  case untouched =>
    intro connection unheard
    apply (confined_deliverEach frame _ exchange).mailboxes connection
    intro identity listed found
    exact (mem_recipients.mp listed).1 (unheard identity found)

/-- Whatever has happened before, as long as nobody shares a connection: a
broadcast splits those for whom it is. Only an exchange that has stopped
broadcasts nothing. -/
theorem broadcast_splits {vocabulary : Vocabulary} {queueCapacity : Nat} {arrangement : Arrangement}
    {operations : List Operation}
    (apart : ((start vocabulary queueCapacity arrangement).run operations).Apart)
    (frame : Bytes) (excluded : Option Identity) :
    let exchange := (start vocabulary queueCapacity arrangement).run operations
    let broadcast := exchange.broadcast frame excluded
    (exchange.running = true → ∃ report,
      broadcast.1 = .ok report ∧ exchange.Splits frame excluded report broadcast.2) ∧
    (exchange.running = false → broadcast = (.error .stopped, exchange)) := by
  intro exchange broadcast
  constructor
  · intro serving
    refine ⟨_, broadcast_fst serving frame excluded, ?_⟩
    have sound : exchange.rooms.Sound := sound_run vocabulary queueCapacity arrangement operations
    rw [show broadcast.2 = _ from broadcast_snd exchange frame excluded]
    exact splits_deliverEach apart sound serving frame excluded
  · intro idle
    exact (broadcast_eq exchange frame excluded).trans
      (if_neg (Bool.eq_false_iff.mp idle))

/-- Alice and Carol are the members of the hall, and neither has room. Carol is
left out, so Alice alone is evicted, and Bob gets the frame. -/
theorem broadcast_splits_fullHall :
    let exchange := (start .standard 256).run fullHall
    let broadcast := exchange.broadcast [2] (some ⟨"carol"⟩)
    exchange.Apart ∧ exchange.running = true ∧ exchange.hasSlot ⟨"carol"⟩ = false ∧
      ∃ report, broadcast.1 = .ok report ∧ report.delivered = 1 ∧ ⟨"alice"⟩ ∈ report.evicted ∧
        (∀ room, ⟨"alice"⟩ ∉ broadcast.2.rooms.peers room) ∧
        broadcast.2.queuedFor 1 = exchange.queuedFor 1 ++ [[2]] ∧
        broadcast.2.mailboxes[2]? = exchange.mailboxes[2]? := by
  intro exchange broadcast
  have serving : exchange.running = true := by decide +kernel
  have full : exchange.hasSlot ⟨"carol"⟩ = false := by decide +kernel
  have counted : (exchange.recipients (some ⟨"carol"⟩)).countP exchange.hasSlot = 1 := by
    decide +kernel
  have bob : exchange.directory.find? ⟨"bob"⟩ = some 1 := by decide +kernel
  have carol : exchange.directory.find? ⟨"carol"⟩ = some 2 := by decide +kernel
  obtain ⟨mailbox, opened⟩ : ∃ mailbox, exchange.mailboxes[1]? = some mailbox :=
    Option.isSome_iff_exists.mp (by decide +kernel)
  have slot : exchange.mailboxes[1]?.any Mailbox.hasSlot = true := by decide +kernel
  rw [opened, Option.any_some] at slot
  have carolOnly : ∀ identity, exchange.directory.find? identity = some 2 →
      some ⟨"carol"⟩ = some identity := by
    intro identity found
    rw [apart_fullHall _ _ _ found carol]
  obtain ⟨report, reported, splits⟩ :=
    (broadcast_splits apart_fullHall [2] (some ⟨"carol"⟩)).1 serving
  have alice : ⟨"alice"⟩ ∈ report.evicted :=
    (splits.evicted ⟨"alice"⟩).mpr (by decide +kernel)
  have gone := splits.removed ⟨"alice"⟩ alice 0 (by decide +kernel)
  have filled := splits.served ⟨"bob"⟩ 1 mailbox (by decide) bob opened slot
  have queued : broadcast.2.queuedFor 1 = exchange.queuedFor 1 ++ [[2]] := by
    rw [queuedFor, queuedFor, filled.2, opened]
    exact Queue.toList_push _ _
  exact ⟨apart_fullHall, serving, full, report, reported, splits.delivered.trans counted, alice,
    gone.2.2, queued, splits.untouched 2 carolOnly⟩

end Exchange

end Switchboard
