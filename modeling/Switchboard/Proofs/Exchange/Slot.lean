import Switchboard.Proofs.Exchange.Changes
import Switchboard.Proofs.Exchange.Standing

/-!
# Room for a frame

Whether a mailbox takes a frame does not depend on the frame. So it is known
beforehand what comes of a delivery: the frame is queued, or its recipient
departs. As long as nobody shares a connection, a delivery to one identity
decides nothing about the next, and what comes of a whole list of deliveries is
known before the first of them is made.
-/

namespace Switchboard

namespace Mailbox

/-- The mailbox is open and has room for one more frame. -/
def hasSlot (mailbox : Mailbox) : Bool :=
  !mailbox.isClosed && mailbox.queued.size < mailbox.capacity

/-- Why the mailbox would refuse a frame. -/
def refusal? (mailbox : Mailbox) : Option Refusal :=
  if mailbox.isClosed then
    some .closed
  else if mailbox.capacity ≤ mailbox.queued.size then
    some .full
  else
    none

/-- The mailbox with a frame at the end of its queue. -/
def put (frame : Bytes) (mailbox : Mailbox) : Mailbox :=
  { mailbox with queued := mailbox.queued.push frame }

theorem enqueue_eq (mailbox : Mailbox) (frame : Bytes) :
    mailbox.enqueue frame =
      match mailbox.refusal? with
      | none => .ok (mailbox.put frame)
      | some refusal => .error refusal := by
  rw [enqueue, refusal?]
  split
  · rfl
  · split <;> rfl

theorem isNone_refusal? (mailbox : Mailbox) : mailbox.refusal?.isNone = mailbox.hasSlot := by
  rw [refusal?, hasSlot]
  cases mailbox.isClosed with
  | true => rfl
  | false =>
      by_cases full : mailbox.capacity ≤ mailbox.queued.size
      · rw [if_neg Bool.false_ne_true, if_pos full, decide_eq_false (Nat.not_lt.mpr full)]
        rfl
      · rw [if_neg Bool.false_ne_true, if_neg full, decide_eq_true (Nat.lt_of_not_le full)]
        rfl

end Mailbox

namespace Exchange

variable {exchange : Exchange} {identity recipient : Identity} {connection : Connection}
  {frame : Bytes}

/-- The identity is registered, with a mailbox that is open and has room for one
more frame. -/
def hasSlot (exchange : Exchange) (identity : Identity) : Bool :=
  (exchange.mailboxOf? identity).any Mailbox.hasSlot

/-- Why a frame for a registered identity would be refused. A connection
without a mailbox refuses like a closed one. -/
def refusal? (exchange : Exchange) (identity : Identity) : Option Refusal :=
  match exchange.mailboxOf? identity with
  | none => some .closed
  | some mailbox => mailbox.refusal?

theorem isNone_refusal? (exchange : Exchange) (identity : Identity) :
    (exchange.refusal? identity).isNone = exchange.hasSlot identity := by
  rw [refusal?, hasSlot]
  cases exchange.mailboxOf? identity with
  | none => rfl
  | some mailbox => exact mailbox.isNone_refusal?

theorem refusal?_eq_none_iff :
    exchange.refusal? identity = none ↔ exchange.hasSlot identity = true := by
  rw [← isNone_refusal?, Option.isNone_iff_eq_none]

theorem mailboxOf?_eq_getElem? (found : exchange.directory.find? identity = some connection) :
    exchange.mailboxOf? identity = exchange.mailboxes[connection]? := by
  rw [mailboxOf?, found, Option.bind_some]

/-! ## One delivery -/

theorem enqueue_of_refusal?_eq_none (found : exchange.directory.find? identity = some connection)
    (accepts : exchange.refusal? identity = none) :
    exchange.enqueue connection frame = .ok (exchange.modifyMailbox connection (.put frame)) := by
  rw [refusal?, mailboxOf?_eq_getElem? found] at accepts
  cases opened : exchange.mailboxes[connection]? with
  | none =>
      rw [opened] at accepts
      contradiction
  | some mailbox =>
      rw [opened] at accepts
      dsimp only at accepts
      rw [enqueue, opened, modifyMailbox, modify_eq_setIfInBounds _ opened]
      dsimp only
      rw [mailbox.enqueue_eq, accepts]
      rfl

theorem enqueue_of_refusal?_eq_some {refusal : Refusal}
    (found : exchange.directory.find? identity = some connection)
    (refuses : exchange.refusal? identity = some refusal) :
    exchange.enqueue connection frame = .error refusal := by
  rw [refusal?, mailboxOf?_eq_getElem? found] at refuses
  rw [enqueue_eq_error_iff]
  cases opened : exchange.mailboxes[connection]? with
  | none =>
      rw [opened] at refuses
      exact .inl ⟨rfl, (Option.some.inj refuses).symm⟩
  | some mailbox =>
      rw [opened] at refuses
      dsimp only at refuses
      exact .inr ⟨mailbox, rfl, by rw [mailbox.enqueue_eq, refuses]⟩

/-- What comes of a delivery, as it is known beforehand. -/
theorem deliver_eq (serving : exchange.running = true) (recipient : Identity) (frame : Bytes) :
    exchange.deliver recipient frame =
      match exchange.directory.find? recipient with
      | none => (.error (.directory (.notRegistered recipient)), exchange)
      | some connection =>
          match exchange.refusal? recipient with
          | none => (.ok (), exchange.modifyMailbox connection (.put frame))
          | some refusal =>
              (.error (.shed recipient), exchange.depart recipient refusal.departure) := by
  rw [deliver, if_pos serving, Directory.get]
  cases found : exchange.directory.find? recipient with
  | none => rfl
  | some connection =>
      dsimp only
      cases refused : exchange.refusal? recipient with
      | none => rw [enqueue_of_refusal?_eq_none found refused]
      | some refusal =>
          rw [enqueue_of_refusal?_eq_some found refused]
          dsimp only
          rw [shed_eq_depart]

theorem deliver_of_stopped (idle : exchange.running = false) (recipient : Identity)
    (frame : Bytes) : exchange.deliver recipient frame = (.error .stopped, exchange) := by
  rw [deliver, if_neg (Bool.eq_false_iff.mp idle)]

theorem deliver_of_hasSlot (serving : exchange.running = true)
    (found : exchange.directory.find? recipient = some connection)
    (slot : exchange.hasSlot recipient = true) (frame : Bytes) :
    exchange.deliver recipient frame =
      (.ok (), exchange.modifyMailbox connection (.put frame)) := by
  rw [deliver_eq serving, found, refusal?_eq_none_iff.mpr slot]

theorem deliver_of_not_hasSlot (serving : exchange.running = true)
    (found : exchange.directory.find? recipient = some connection)
    (noSlot : exchange.hasSlot recipient = false) (frame : Bytes) :
    ∃ refusal : Refusal, exchange.deliver recipient frame =
      (.error (.shed recipient), exchange.depart recipient refusal.departure) := by
  rw [← isNone_refusal?, ← Option.not_isSome, Bool.not_eq_false'] at noSlot
  obtain ⟨refusal, refused⟩ := Option.isSome_iff_exists.mp noSlot
  exact ⟨refusal, by rw [deliver_eq serving, found, refused]⟩

/-- What is answered when a frame is delivered to a registered identity. -/
def deliveryTo (exchange : Exchange) (recipient : Identity) : Except ExchangeError Unit :=
  if exchange.hasSlot recipient then .ok () else .error (.shed recipient)

theorem deliver_fst (serving : exchange.running = true)
    (found : exchange.directory.find? recipient = some connection) (frame : Bytes) :
    (exchange.deliver recipient frame).1 = exchange.deliveryTo recipient := by
  rw [deliveryTo]
  cases slot : exchange.hasSlot recipient with
  | true => rw [deliver_of_hasSlot serving found slot, if_pos rfl]
  | false =>
      obtain ⟨refusal, outcome⟩ := deliver_of_not_hasSlot serving found slot frame
      rw [outcome, if_neg Bool.false_ne_true]

/-! ## The others -/

theorem contains_deliver_of_ne (differ : recipient ≠ identity) :
    (exchange.deliver recipient frame).2.directory.contains identity =
      exchange.directory.contains identity := by
  rw [Directory.contains_eq_isSome_find?, Directory.contains_eq_isSome_find?,
    find?_deliver_of_ne differ.symm]

/-- A delivery leaves the mailboxes of all others as they are. -/
theorem mailboxOf?_deliver_of_ne (apart : exchange.Apart) (differ : recipient ≠ identity) :
    (exchange.deliver recipient frame).2.mailboxOf? identity = exchange.mailboxOf? identity := by
  have outcome := exchange.delivery_deliver recipient frame
  generalize exchange.deliver recipient frame = result at outcome ⊢
  cases outcome with
  | stopped | unknown => rfl
  | queued _ found accepted =>
      apply mailboxOf?_of_ne apart found differ
      · rw [(enqueue_ok_frame accepted).2.1]
      · intro used away
        rw [getElem?_enqueue accepted, if_neg away]
  | shed _ found =>
      apply mailboxOf?_of_ne apart found differ
      · rw [directory_depart found, Directory.find?_erase, if_neg differ.symm]
      · intro used away
        rw [getElem?_depart found, if_neg away]

theorem refusal?_deliver_of_ne (apart : exchange.Apart) (differ : recipient ≠ identity) :
    (exchange.deliver recipient frame).2.refusal? identity = exchange.refusal? identity := by
  rw [refusal?, refusal?, mailboxOf?_deliver_of_ne apart differ]

theorem hasSlot_deliver_of_ne (apart : exchange.Apart) (differ : recipient ≠ identity) :
    (exchange.deliver recipient frame).2.hasSlot identity = exchange.hasSlot identity := by
  rw [hasSlot, hasSlot, mailboxOf?_deliver_of_ne apart differ]

theorem deliveryTo_deliver_of_ne (apart : exchange.Apart) (differ : recipient ≠ identity) :
    (exchange.deliver recipient frame).2.deliveryTo identity = exchange.deliveryTo identity := by
  rw [deliveryTo, deliveryTo, hasSlot_deliver_of_ne apart differ]

/-! ## Many deliveries -/

/-- A frame can be delivered to some identities one after the other: they are
registered, each is listed once, and none shares its connection. -/
structure Ready (exchange : Exchange) (recipients : List Identity) : Prop where
  apart : exchange.Apart
  serving : exchange.running = true
  distinct : recipients.Nodup
  registered : ∀ recipient ∈ recipients, exchange.directory.contains recipient = true

namespace Ready

variable {recipients rest : List Identity}

theorem ne_of_mem (ready : exchange.Ready (recipient :: rest)) {other : Identity}
    (listed : other ∈ rest) : recipient ≠ other :=
  Ne.symm (ne_of_mem_of_not_mem listed (List.nodup_cons.mp ready.distinct).1)

theorem perm (ready : exchange.Ready recipients) {others : List Identity}
    (same : recipients.Perm others) : exchange.Ready others where
  apart := ready.apart
  serving := ready.serving
  distinct := same.nodup_iff.mp ready.distinct
  registered recipient listed := ready.registered recipient (same.mem_iff.mpr listed)

/-- After the first delivery the others can still be made. -/
theorem deliver (ready : exchange.Ready (recipient :: rest)) (frame : Bytes) :
    (exchange.deliver recipient frame).2.Ready rest where
  apart := ready.apart.steps (exchange.steps_deliver recipient frame)
  serving := (exchange.running_deliver recipient frame).trans ready.serving
  distinct := (List.nodup_cons.mp ready.distinct).2
  registered other listed := by
    rw [contains_deliver_of_ne (ready.ne_of_mem listed)]
    exact ready.registered other (List.mem_cons_of_mem _ listed)

theorem deliver_fst (ready : exchange.Ready (recipient :: rest)) (frame : Bytes) :
    (exchange.deliver recipient frame).1 = exchange.deliveryTo recipient := by
  obtain ⟨connection, found⟩ :=
    Directory.contains_iff_exists_find?.mp (ready.registered recipient List.mem_cons_self)
  exact Exchange.deliver_fst ready.serving found frame

/-- Whoever has room at first is served in the end, and everybody else is
evicted. -/
theorem deliverEach_fst (ready : exchange.Ready recipients) (frame : Bytes) :
    (deliverEach frame recipients exchange).1 =
      { delivered := recipients.countP exchange.hasSlot
        evicted := recipients.filter fun recipient => !exchange.hasSlot recipient } := by
  induction recipients generalizing exchange with
  | nil => rfl
  | cons recipient rest ih =>
      have slots : ∀ other ∈ rest, (exchange.deliver recipient frame).2.hasSlot other =
          exchange.hasSlot other :=
        fun other listed => hasSlot_deliver_of_ne ready.apart (ready.ne_of_mem listed)
      have later := ih (ready.deliver frame)
      rw [List.countP_congr fun other listed => by rw [slots other listed],
        List.filter_congr fun other listed => by rw [slots other listed]] at later
      have answered := ready.deliver_fst frame
      rw [Exchange.deliverEach]
      generalize exchange.deliver recipient frame = outcome at later answered ⊢
      rcases outcome with ⟨result, next⟩
      dsimp only at later answered ⊢
      rw [answered, deliveryTo, List.countP_cons, List.filter_cons]
      cases exchange.hasSlot recipient <;> simp [later]

end Ready

/-- Nobody shares a connection in the full hall. -/
theorem apart_fullHall : ((start .standard 256).run fullHall).Apart := by
  have equipped : ((start .standard 256).run fullHall).Equipped :=
    equipped_of_entries (by decide +kernel) (by decide +kernel)
  exact equipped.apart

end Exchange

end Switchboard
