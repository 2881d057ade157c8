import Switchboard.Proofs.Mailbox

/-!
# The two sides of a mailbox

Frames are put into a mailbox on one side and taken out on the other. Neither
side knows what the other is about to do. Whatever they do, and in whatever
order, the frames come out as they were put in: what was accepted is what was
taken out, followed by what is still queued.

What a mailbox answers depends on very little of what has happened to it. It
has been shut or not, by either side, and so many frames are queued.
-/

namespace Switchboard

/-- What the two sides of a mailbox can do. -/
inductive MailboxCall
  | enqueue (frame : Bytes)
  | close
  | receive
  /-- Receive a frame that is already there. -/
  | tryReceive
  | drain
  | abandon
  deriving DecidableEq, Repr

/-- What a mailbox answers. -/
inductive MailboxAnswer
  | nothing
  | queued (result : Except Refusal Unit)
  | received (reception : Reception)
  | tried (next? : Option Bytes)
  | drained (frames : List Bytes)
  /-- There is no reader who could take anything out. -/
  | noOutbox

/-- The frame that was received, if there was one. -/
def Reception.frame? : Reception → Option Bytes
  | frame received => some received
  | pending | ended => none

theorem Reception.toList_frame? (reception : Reception) :
    reception.frame?.toList = reception.taken := by
  cases reception <;> rfl

/-- The frames that an answer hands over. -/
def MailboxAnswer.taken : MailboxAnswer → List Bytes
  | received reception => reception.taken
  | tried next? => next?.toList
  | drained frames => frames
  | nothing | queued _ | noOutbox => []

/-- The frame that a call puts in, if the answer says that it was queued. -/
def MailboxCall.accepted : MailboxCall → MailboxAnswer → List Bytes
  | enqueue frame, .queued (.ok _) => [frame]
  | _, _ => []

namespace Mailbox

variable {mailbox : Mailbox} {frame : Bytes} {capacity : Nat} {past : List MailboxCall}

/-! ## Calls -/

/-- Take out the next frame without waiting for one. -/
def tryReceive (mailbox : Mailbox) : Option Bytes × Mailbox :=
  (mailbox.receive.1.frame?, mailbox.receive.2)

/-- Let the reader have an answer, as long as there is a reader. -/
def read (mailbox : Mailbox) (look : MailboxAnswer × Mailbox) : MailboxAnswer × Mailbox :=
  match mailbox.outbox? with
  | none => (.noOutbox, mailbox)
  | some _ => look

/-- Answer a call. -/
def call (mailbox : Mailbox) : MailboxCall → MailboxAnswer × Mailbox
  | .enqueue frame =>
      match mailbox.enqueue frame with
      | .ok filled => (.queued (.ok ()), filled)
      | .error refusal => (.queued (.error refusal), mailbox)
  | .close => (.nothing, mailbox.close)
  | .receive => mailbox.read (.received mailbox.receive.1, mailbox.receive.2)
  | .tryReceive => mailbox.read (.tried mailbox.tryReceive.1, mailbox.tryReceive.2)
  | .drain => mailbox.read (.drained mailbox.drain.1, mailbox.drain.2)
  | .abandon => (.nothing, mailbox.abandon)

/-- The mailbox after a list of calls. -/
def afterAll (mailbox : Mailbox) (calls : List MailboxCall) : Mailbox :=
  calls.foldl (fun state call => (state.call call).2) mailbox

/-- All frames that are accepted in the course of a list of calls. -/
def accepted : Mailbox → List MailboxCall → List Bytes
  | _, [] => []
  | mailbox, call :: rest =>
      call.accepted (mailbox.call call).1 ++ accepted (mailbox.call call).2 rest

/-- All frames that are taken out in the course of a list of calls. -/
def taken : Mailbox → List MailboxCall → List Bytes
  | _, [] => []
  | mailbox, call :: rest => (mailbox.call call).1.taken ++ taken (mailbox.call call).2 rest

/-! ## Readers -/

theorem receive_fst (mailbox : Mailbox) :
    mailbox.receive.1 =
      match mailbox.queued.toList with
      | next :: _ => .frame next
      | [] => if mailbox.isClosed then .ended else .pending := by
  rw [receive]
  cases popped : mailbox.queued.pop? with
  | none => rw [Queue.pop?_eq_none_iff.mp popped]
  | some result => rw [Queue.pop?_eq_some_iff.mp popped]

theorem taken_receive (mailbox : Mailbox) :
    mailbox.receive.1.taken = mailbox.queued.toList.take 1 := by
  rw [receive_fst]
  cases mailbox.queued.toList with
  | nil => cases mailbox.isClosed <;> rfl
  | cons next rest => rfl

theorem toList_receive (mailbox : Mailbox) :
    mailbox.receive.2.queued.toList = mailbox.queued.toList.drop 1 := by
  rw [receive]
  cases popped : mailbox.queued.pop? with
  | none => rw [Queue.pop?_eq_none_iff.mp popped, List.drop_nil]
  | some result => rw [Queue.pop?_eq_some_iff.mp popped, List.drop_one, List.tail_cons]

/-- Receiving changes nothing but the queue. -/
theorem exists_receive_eq (mailbox : Mailbox) :
    ∃ queue, mailbox.receive.2 = { mailbox with queued := queue } := by
  rw [receive]
  cases mailbox.queued.pop? with
  | none => exact ⟨mailbox.queued, rfl⟩
  | some result => exact ⟨result.2, rfl⟩

theorem isClosed_receive (mailbox : Mailbox) :
    mailbox.receive.2.isClosed = mailbox.isClosed := by
  obtain ⟨queue, received⟩ := mailbox.exists_receive_eq
  rw [received]
  rfl

theorem tryReceive_fst (mailbox : Mailbox) :
    mailbox.tryReceive.1 = mailbox.queued.toList.head? := by
  rw [tryReceive, receive_fst]
  cases mailbox.queued.toList with
  | nil => cases mailbox.isClosed <;> rfl
  | cons next rest => rfl

/-- A mailbox is drained by taking out one frame after the other until there is
none. -/
theorem drain_eq_match_tryReceive (mailbox : Mailbox) :
    mailbox.drain =
      match mailbox.tryReceive with
      | (none, _) => ([], mailbox)
      | (some frame, rest) => (frame :: rest.drain.1, rest.drain.2) := by
  rw [tryReceive, receive]
  cases popped : mailbox.queued.pop? with
  | none =>
      have isEmpty : mailbox.queued = .empty := Queue.ext (Queue.pop?_eq_none_iff.mp popped)
      have drained : mailbox.drain = ([], mailbox) := by
        rw [drain, isEmpty, Queue.toList_empty, ← isEmpty]
      cases mailbox.isClosed <;> exact drained
  | some result =>
      rw [drain, Queue.pop?_eq_some_iff.mp popped]
      rfl

/-! ## Accounts -/

/-- The accounts balance between two states of a mailbox with a reader: what has
waited before and what was accepted is what was taken out and what waits
afterwards. -/
def Balances (mailbox : Mailbox) (accepted taken : List Bytes) (next : Mailbox) : Prop :=
  ∀ after, next.waiting? = some after →
    ∃ before, mailbox.waiting? = some before ∧ before ++ accepted = taken ++ after

namespace Balances

theorem refl (mailbox : Mailbox) : mailbox.Balances [] [] mailbox :=
  fun after waiting => ⟨after, waiting, List.append_nil after⟩

theorem trans {accepted accepted' taken taken' : List Bytes} {next last : Mailbox}
    (first : mailbox.Balances accepted taken next) (second : next.Balances accepted' taken' last) :
    mailbox.Balances (accepted ++ accepted') (taken ++ taken') last := by
  intro after waiting
  obtain ⟨between, waited, balanced⟩ := second after waiting
  obtain ⟨before, was, balancedBefore⟩ := first between waited
  refine ⟨before, was, ?_⟩
  rw [← List.append_assoc, balancedBefore, List.append_assoc, balanced, List.append_assoc]

/-- Frames are taken out at the beginning. -/
theorem of_taken {taken : List Bytes} {next : Mailbox}
    (left : mailbox.waiting? = next.waiting?.map (taken ++ ·)) :
    mailbox.Balances [] taken next := by
  intro after waiting
  rw [waiting, Option.map_some] at left
  exact ⟨taken ++ after, left, List.append_nil _⟩

theorem read {look : MailboxAnswer × Mailbox} (balances : mailbox.Balances [] look.1.taken look.2) :
    mailbox.Balances [] (mailbox.read look).1.taken (mailbox.read look).2 := by
  rw [Mailbox.read]
  cases mailbox.outbox? with
  | none => exact refl mailbox
  | some queue => exact balances

end Balances

theorem balances_call (mailbox : Mailbox) (call : MailboxCall) :
    mailbox.Balances (call.accepted (mailbox.call call).1) (mailbox.call call).1.taken
      (mailbox.call call).2 := by
  cases call with
  | enqueue frame =>
      rw [Mailbox.call]
      cases enqueued : mailbox.enqueue frame with
      | error refusal => exact .refl mailbox
      | ok filled =>
          intro after waiting
          rw [waiting?_enqueue enqueued, Option.map_eq_some_iff] at waiting
          exact waiting
  | close => exact fun after waiting => ⟨after, waiting, List.append_nil after⟩
  | receive => exact .read (.of_taken mailbox.waiting?_receive)
  | tryReceive =>
      refine .read (.of_taken ?_)
      rw [MailboxAnswer.taken, tryReceive, Reception.toList_frame?]
      exact mailbox.waiting?_receive
  | drain => exact .read (.of_taken mailbox.waiting?_drain)
  | abandon =>
      intro after waiting
      rw [Mailbox.call, waiting?_abandon] at waiting
      contradiction

theorem balances_afterAll (mailbox : Mailbox) (calls : List MailboxCall) :
    mailbox.Balances (mailbox.accepted calls) (mailbox.taken calls) (mailbox.afterAll calls) := by
  induction calls generalizing mailbox with
  | nil => exact .refl mailbox
  | cons call rest ih => exact (mailbox.balances_call call).trans (ih _)

/-! ## What remains of the past -/

/-- A call by which neither side shuts the mailbox changes nothing but the queue,
if anything. -/
theorem call_eq_or_step (mailbox : Mailbox) {call : MailboxCall} (usable : call ≠ .close)
    (attended : call ≠ .abandon) :
    (mailbox.call call).2 = mailbox ∨ mailbox.Step (mailbox.call call).2 ∧
      ∃ queue, (mailbox.call call).2 = { mailbox with queued := queue } := by
  cases call with
  | enqueue frame =>
      rw [Mailbox.call]
      cases enqueued : mailbox.enqueue frame with
      | error refusal => exact .inl rfl
      | ok filled =>
          exact .inr ⟨.queued enqueued, _, (enqueue_eq_ok_iff.mp enqueued).2.2⟩
  | receive | tryReceive =>
      rw [Mailbox.call, read]
      split
      · exact .inl rfl
      · exact .inr ⟨.received, mailbox.exists_receive_eq⟩
  | drain =>
      rw [Mailbox.call, read]
      split
      · exact .inl rfl
      · exact .inr ⟨.drained, .empty, rfl⟩
  | close => exact absurd rfl usable
  | abandon => exact absurd rfl attended

/-- What can be told of a mailbox from the calls of the past. -/
structure Follows (mailbox : Mailbox) (capacity : Nat) (past : List MailboxCall) : Prop where
  capacity : mailbox.capacity = max capacity 1
  bounded : mailbox.Bounded
  closed_iff : mailbox.closed = true ↔ .close ∈ past
  abandoned_iff : mailbox.abandoned = true ↔ .abandon ∈ past

theorem follows_ofCapacity (capacity : Nat) : (ofCapacity capacity).Follows capacity [] where
  capacity := rfl
  bounded := Nat.zero_le _
  closed_iff := iff_of_false Bool.false_ne_true List.not_mem_nil
  abandoned_iff := iff_of_false Bool.false_ne_true List.not_mem_nil

namespace Follows

theorem capacity_ne_zero (follows : mailbox.Follows capacity past) :
    mailbox.capacity ≠ 0 := by
  rw [follows.capacity]
  omega

theorem call (follows : mailbox.Follows capacity past)
    (call : MailboxCall) : (mailbox.call call).2.Follows capacity (past ++ [call]) := by
  by_cases closes : call = .close
  · subst closes
    exact ⟨follows.capacity, follows.bounded.step .closed, by simp [Mailbox.call, close],
      by simp [Mailbox.call, close, follows.abandoned_iff]⟩
  · by_cases abandons : call = .abandon
    · subst abandons
      have left : mailbox.abandon = { mailbox with queued := .empty, abandoned := true } :=
        if_neg follows.capacity_ne_zero
      rw [Mailbox.call, left]
      exact ⟨follows.capacity, Nat.zero_le _, by simp [follows.closed_iff], by simp⟩
    · have closed_iff : mailbox.closed = true ↔ .close ∈ past ++ [call] := by
        simp [follows.closed_iff, Ne.symm closes]
      have abandoned_iff : mailbox.abandoned = true ↔ .abandon ∈ past ++ [call] := by
        simp [follows.abandoned_iff, Ne.symm abandons]
      rcases mailbox.call_eq_or_step closes abandons with unmoved | ⟨step, queue, next⟩
      · rw [unmoved]
        exact ⟨follows.capacity, follows.bounded, closed_iff, abandoned_iff⟩
      · have bounded := follows.bounded.step step
        rw [next] at bounded ⊢
        exact ⟨follows.capacity, bounded, closed_iff, abandoned_iff⟩

theorem afterAll (follows : mailbox.Follows capacity past)
    (calls : List MailboxCall) : (mailbox.afterAll calls).Follows capacity (past ++ calls) := by
  induction calls generalizing mailbox past with
  | nil =>
      rw [List.append_nil]
      exact follows
  | cons call rest ih =>
      rw [List.append_cons]
      exact ih (follows.call call)

theorem isClosed_iff (follows : mailbox.Follows capacity past) :
    mailbox.isClosed = true ↔ .close ∈ past ∨ .abandon ∈ past := by
  rw [isClosed, Bool.or_eq_true, follows.closed_iff, follows.abandoned_iff]

/-- There is a reader until it goes away. -/
theorem attended_iff (follows : mailbox.Follows capacity past) :
    mailbox.outbox? = some mailbox.queued ↔ .abandon ∉ past := by
  rw [outbox?, ← follows.abandoned_iff]
  simp [follows.capacity_ne_zero]

/-- A reader that is still there is given what it asks for. -/
theorem read_eq (follows : mailbox.Follows capacity past)
    (stays : .abandon ∉ past) (look : MailboxAnswer × Mailbox) : mailbox.read look = look := by
  rw [read, follows.attended_iff.mpr stays]

theorem isClosed_eq_false_iff (follows : mailbox.Follows capacity past) :
    mailbox.isClosed = false ↔ ¬(.close ∈ past ∨ .abandon ∈ past) := by
  rw [← follows.isClosed_iff, Bool.not_eq_true]

/-- A mailbox is full when it holds just as much as it can. -/
theorem capacity_le_iff (follows : mailbox.Follows capacity past) :
    mailbox.capacity ≤ mailbox.queued.size ↔ mailbox.queued.size = max capacity 1 := by
  have bounded := follows.bounded
  rw [Bounded] at bounded
  rw [← follows.capacity]
  omega

end Follows

/-! ## Answers -/

theorem call_enqueue_eq_error_iff {refusal : Refusal} :
    (mailbox.call (.enqueue frame)).1 = .queued (.error refusal) ↔
      mailbox.enqueue frame = .error refusal := by
  rw [call]
  cases mailbox.enqueue frame <;> simp

theorem call_enqueue_eq_ok_iff :
    (mailbox.call (.enqueue frame)).1 = .queued (.ok ()) ↔
      mailbox.isClosed = false ∧ mailbox.queued.size < mailbox.capacity := by
  have accepts : (mailbox.call (.enqueue frame)).1 = .queued (.ok ()) ↔
      ∃ filled, mailbox.enqueue frame = .ok filled := by
    rw [call]
    cases mailbox.enqueue frame <;> simp
  simp only [accepts, enqueue_eq_ok_iff, exists_and_left, exists_eq, and_true]

/-- A frame that is refused changes nothing. -/
theorem call_enqueue_of_refused {refusal : Refusal}
    (refused : (mailbox.call (.enqueue frame)).1 = .queued (.error refusal)) :
    (mailbox.call (.enqueue frame)).2 = mailbox := by
  rw [call, call_enqueue_eq_error_iff.mp refused]

/-- The answer to a reader depends on what is queued, and at the end on whether
more can come. -/
theorem receive_fst_eq_iff (mailbox : Mailbox) :
    (mailbox.receive.1 = .ended ↔ mailbox.isClosed = true ∧ mailbox.queued.toList = []) ∧
      (mailbox.receive.1 = .pending ↔ mailbox.isClosed = false ∧ mailbox.queued.toList = []) ∧
      ∀ frame, mailbox.receive.1 = .frame frame ↔ mailbox.queued.toList.head? = some frame := by
  rw [receive_fst]
  cases mailbox.queued.toList with
  | nil => cases mailbox.isClosed <;> simp
  | cons next rest => simp

/-- How a mailbox that began with so much room stands after a list of calls, and
what it answers to the next one. -/
structure Conducts (capacity : Nat) (calls : List MailboxCall) (mailbox : Mailbox) : Prop where
  attended_iff : mailbox.outbox? = some mailbox.queued ↔ .abandon ∉ calls
  /-- What was accepted has been taken out or still waits, in the same order. -/
  in_order : .abandon ∉ calls →
    (ofCapacity capacity).accepted calls =
      (ofCapacity capacity).taken calls ++ mailbox.queued.toList
  bounded : mailbox.queued.size ≤ max capacity 1
  isClosed_iff : mailbox.isClosed = true ↔ .close ∈ calls ∨ .abandon ∈ calls
  isClosed_afterAll : mailbox.isClosed = true → ∀ later, (mailbox.afterAll later).isClosed = true
  /-- Being closed goes before being full. -/
  closed_iff : ∀ frame, (mailbox.call (.enqueue frame)).1 = .queued (.error .closed) ↔
    .close ∈ calls ∨ .abandon ∈ calls
  full_iff : ∀ frame, (mailbox.call (.enqueue frame)).1 = .queued (.error .full) ↔
    ¬(.close ∈ calls ∨ .abandon ∈ calls) ∧ mailbox.queued.size = max capacity 1
  ok_iff : ∀ frame, (mailbox.call (.enqueue frame)).1 = .queued (.ok ()) ↔
    ¬(.close ∈ calls ∨ .abandon ∈ calls) ∧ mailbox.queued.size ≠ max capacity 1
  refused : ∀ frame refusal, (mailbox.call (.enqueue frame)).1 = .queued (.error refusal) →
    (mailbox.call (.enqueue frame)).2 = mailbox
  ended_iff : .abandon ∉ calls → ((mailbox.call .receive).1 = .received .ended ↔
    .close ∈ calls ∧ mailbox.queued.toList = [])
  pending_iff : .abandon ∉ calls → ((mailbox.call .receive).1 = .received .pending ↔
    .close ∉ calls ∧ mailbox.queued.toList = [])
  frame_iff : .abandon ∉ calls → ∀ frame, ((mailbox.call .receive).1 = .received (.frame frame) ↔
    mailbox.queued.toList.head? = some frame)
  tried : .abandon ∉ calls →
    (mailbox.call .tryReceive).1 = .tried mailbox.queued.toList.head?
  drained : .abandon ∉ calls → (mailbox.call .drain).1 = .drained mailbox.queued.toList

/-- Whatever the two sides of a mailbox do, the frames keep their order, there are
never too many of them, and the mailbox answers by what is queued and by whether
one of the sides has shut it. -/
theorem conducts_frames (capacity : Nat) (calls : List MailboxCall) :
    Conducts capacity calls ((ofCapacity capacity).afterAll calls) := by
  have follows : ((ofCapacity capacity).afterAll calls).Follows capacity calls :=
    (follows_ofCapacity capacity).afterAll calls
  have balances := (ofCapacity capacity).balances_afterAll calls
  generalize (ofCapacity capacity).afterAll calls = mailbox at follows balances
  obtain ⟨ended, pending, next⟩ := mailbox.receive_fst_eq_iff
  have found (stays : .abandon ∉ calls) (reception : Reception) :
      (mailbox.call .receive).1 = .received reception ↔ mailbox.receive.1 = reception := by
    rw [call, follows.read_eq stays, MailboxAnswer.received.injEq]
  constructor
  case attended_iff => exact follows.attended_iff
  case in_order =>
    intro stays
    have waiting : mailbox.waiting? = some mailbox.queued.toList := by
      rw [waiting?, follows.attended_iff.mpr stays, Option.map_some]
    obtain ⟨before, waited, balanced⟩ := balances _ waiting
    rw [waiting?_ofCapacity, Option.some_inj] at waited
    rw [← waited, List.nil_append] at balanced
    exact balanced
  case bounded => exact follows.capacity ▸ follows.bounded
  case isClosed_iff => exact follows.isClosed_iff
  case isClosed_afterAll =>
    intro shut later
    rw [(follows.afterAll later).isClosed_iff, List.mem_append, List.mem_append]
    exact (follows.isClosed_iff.mp shut).imp .inl .inl
  case closed_iff =>
    intro frame
    rw [call_enqueue_eq_error_iff, enqueue_eq_closed_iff, follows.isClosed_iff]
  case full_iff =>
    intro frame
    rw [call_enqueue_eq_error_iff, enqueue_eq_full_iff, follows.isClosed_eq_false_iff,
      follows.capacity_le_iff]
  case ok_iff =>
    intro frame
    rw [call_enqueue_eq_ok_iff, follows.isClosed_eq_false_iff, ← Nat.not_le,
      follows.capacity_le_iff]
  case refused => exact fun frame refusal => call_enqueue_of_refused
  case ended_iff =>
    intro stays
    rw [found stays, ended, follows.isClosed_iff, or_iff_left stays]
  case pending_iff =>
    intro stays
    rw [found stays, pending, follows.isClosed_eq_false_iff, or_iff_left stays]
  case frame_iff =>
    intro stays frame
    rw [found stays, next]
  case tried =>
    intro stays
    rw [call, follows.read_eq stays, tryReceive_fst]
  case drained =>
    intro stays
    rw [call, follows.read_eq stays, drain]

/-- A mailbox without room gets room for one frame. Closed and full at once it
says that it is closed, and its reader still finds the frame before the end. -/
theorem conducts_frames_cramped :
    let calls : List MailboxCall := [.enqueue [1], .enqueue [2], .close]
    let mailbox := (ofCapacity 0).afterAll calls
    (ofCapacity 0).accepted calls = [[1]] ∧ mailbox.queued.size = max 0 1 ∧
      (mailbox.call (.enqueue [3])).1 = .queued (.error .closed) ∧
      (mailbox.call .receive).1 = .received (.frame [1]) ∧
      ((mailbox.afterAll [.receive]).call .receive).1 = .received .ended := by
  intro calls mailbox
  have conducts := conducts_frames 0 calls
  have emptied := conducts_frames 0 (calls ++ [.receive])
  refine ⟨by decide, by decide, (conducts.closed_iff _).mpr (by decide),
    (conducts.frame_iff (by decide) _).mpr (by decide), ?_⟩
  exact (emptied.ended_iff (by decide)).mpr ⟨by decide, by decide⟩

end Mailbox

end Switchboard
