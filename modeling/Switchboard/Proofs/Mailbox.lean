import Switchboard.Mailbox

/-!
# What happens in a mailbox

A mailbox changes in one of five ways. A frame goes in at the end, frames are
taken out at the beginning, and neither closing it nor a refusal touches what
is queued. No change ever fills it beyond its capacity, or opens it again.
-/

namespace Switchboard

/-- The frame that was received, if there was one. -/
def Reception.taken : Reception → List Bytes
  | frame received => [received]
  | pending | ended => []

/-- What the reader of a closed mailbox finds when some frames are left. -/
def Reception.ofRemaining : List Bytes → Reception
  | [] => ended
  | next :: _ => frame next

namespace Mailbox

variable {mailbox changed filled : Mailbox} {frame : Bytes}

/-! ## Refusals -/

theorem enqueue_eq_ok_iff :
    mailbox.enqueue frame = .ok filled ↔
      mailbox.isClosed = false ∧ mailbox.queued.size < mailbox.capacity ∧
        filled = { mailbox with queued := mailbox.queued.push frame } := by
  rw [enqueue]
  split
  · rename_i shut
    simp [shut]
  · rename_i usable
    split
    · rename_i occupied
      simp [Nat.not_lt.mpr occupied, -Queue.size_eq_length]
    · rename_i vacant
      simp [usable, Nat.lt_of_not_le vacant, eq_comm, -Queue.size_eq_length]

theorem enqueue_eq_full_iff :
    mailbox.enqueue frame = .error .full ↔
      mailbox.isClosed = false ∧ mailbox.capacity ≤ mailbox.queued.size := by
  rw [enqueue]
  split
  · rename_i shut
    simp [shut]
  · rename_i usable
    split
    · rename_i occupied
      simp [usable, occupied, -Queue.size_eq_length]
    · rename_i vacant
      simp [vacant, -Queue.size_eq_length]

theorem enqueue_eq_closed_iff :
    mailbox.enqueue frame = .error .closed ↔ mailbox.isClosed = true := by
  rw [enqueue]
  split
  · rename_i shut
    simp [shut]
  · rename_i usable
    split <;> simp [usable]

/-! ## Frames with a reader -/

/-- The frames that wait for the reader, as long as there is one. -/
def waiting? (mailbox : Mailbox) : Option (List Bytes) :=
  mailbox.outbox?.map Queue.toList

theorem waiting?_eq_some_iff {frames : List Bytes} :
    mailbox.waiting? = some frames ↔
      mailbox.outbox? = some mailbox.queued ∧ mailbox.queued.toList = frames := by
  rw [waiting?, outbox?]
  split <;> simp

@[simp]
theorem waiting?_ofCapacity (capacity : Nat) : (ofCapacity capacity).waiting? = some [] := by
  have room : max capacity 1 ≠ 0 := by omega
  simp [waiting?, outbox?, ofCapacity, room]

@[simp]
theorem waiting?_saturated : saturated.waiting? = none :=
  rfl

@[simp]
theorem waiting?_close : mailbox.close.waiting? = mailbox.waiting? :=
  rfl

@[simp]
theorem waiting?_abandon : mailbox.abandon.waiting? = none := by
  rw [abandon]
  split <;> simp_all [waiting?, outbox?]

/-- A frame is only accepted for a reader, and waits behind all others. -/
theorem waiting?_enqueue (accepted : mailbox.enqueue frame = .ok filled) :
    filled.waiting? = mailbox.waiting?.map (· ++ [frame]) := by
  obtain ⟨usable, room, rfl⟩ := enqueue_eq_ok_iff.mp accepted
  have read : mailbox.abandoned = false := (Bool.or_eq_false_iff.mp usable).2
  have capacious : mailbox.capacity ≠ 0 := by omega
  simp [waiting?, outbox?, read, capacious]

theorem waiting?_receive (mailbox : Mailbox) :
    mailbox.waiting? = mailbox.receive.2.waiting?.map (mailbox.receive.1.taken ++ ·) := by
  rw [receive]
  cases popped : mailbox.queued.pop? with
  | none =>
      have unmoved : (if mailbox.isClosed then Reception.ended else .pending).taken = [] := by
        split <;> rfl
      simp [unmoved]
  | some result =>
      rcases result with ⟨received, rest⟩
      have listed := Queue.pop?_eq_some_iff.mp popped
      by_cases unread : mailbox.abandoned ∨ mailbox.capacity = 0
      · simp [waiting?, outbox?, unread]
      · simp [waiting?, outbox?, unread, listed, Reception.taken]

theorem waiting?_drain (mailbox : Mailbox) :
    mailbox.waiting? = mailbox.drain.2.waiting?.map (mailbox.drain.1 ++ ·) := by
  unfold waiting? outbox? drain
  by_cases unread : mailbox.abandoned || mailbox.capacity = 0
  · simp only [unread, if_true, Option.map_none]
  · simp [unread]

/-! ## Changes -/

/-- The single changes of a mailbox. -/
inductive Step (mailbox : Mailbox) : Mailbox → Prop
  | queued {frame : Bytes} {filled : Mailbox} (accepted : mailbox.enqueue frame = .ok filled) :
      Step mailbox filled
  | closed : Step mailbox mailbox.close
  | received : Step mailbox mailbox.receive.2
  | drained : Step mailbox mailbox.drain.2
  | abandoned : Step mailbox mailbox.abandon

/-- No more is queued than there is room for. -/
def Bounded (mailbox : Mailbox) : Prop :=
  mailbox.queued.size ≤ mailbox.capacity

theorem Bounded.step (bounded : mailbox.Bounded) (step : mailbox.Step changed) :
    changed.Bounded := by
  rw [Bounded] at bounded ⊢
  cases step with
  | queued accepted =>
      obtain ⟨_, room, rfl⟩ := enqueue_eq_ok_iff.mp accepted
      rw [Queue.size_eq_length] at room ⊢
      rw [Queue.toList_push, List.length_append, List.length_singleton]
      exact room
  | closed => exact bounded
  | received =>
      rw [receive]
      split
      · rename_i popped
        have listed := Queue.pop?_eq_some_iff.mp popped
        rw [Queue.size_eq_length, listed, List.length_cons] at bounded
        rw [Queue.size_eq_length]
        exact Nat.le_of_succ_le bounded
      · exact bounded
  | drained => exact Nat.zero_le _
  | abandoned =>
      rw [abandon]
      split
      · exact bounded
      · exact Nat.zero_le _

/-- Closing is final. -/
theorem isClosed_step (step : mailbox.Step changed) (shut : mailbox.isClosed = true) :
    changed.isClosed = true := by
  cases step with
  | queued accepted =>
      rw [(enqueue_eq_ok_iff.mp accepted).1] at shut
      contradiction
  | closed => rfl
  | received =>
      rw [receive]
      split <;> exact shut
  | drained => exact shut
  | abandoned =>
      rw [abandon]
      split
      · exact shut
      · exact Bool.or_true _

theorem receive_of_isClosed (shut : mailbox.isClosed = true) :
    mailbox.receive.1 = .ofRemaining mailbox.queued.toList := by
  rw [receive]
  cases popped : mailbox.queued.pop? with
  | none => rw [Queue.pop?_eq_none_iff.mp popped, shut, if_pos rfl, Reception.ofRemaining]
  | some result => rw [Queue.pop?_eq_some_iff.mp popped, Reception.ofRemaining]

end Mailbox

end Switchboard
