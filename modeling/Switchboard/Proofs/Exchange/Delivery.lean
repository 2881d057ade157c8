import Switchboard.Exchange
import Switchboard.Proofs.Directory
import Switchboard.Proofs.Rooms

/-!
# Departures and deliveries

Every removal, whether it was asked for or a mailbox refused a frame, is one
departure. A delivery has one of four outcomes, and a broadcast is nothing
but a delivery to each recipient, one after the other.
-/

namespace Switchboard

namespace Departure

/-- What is recorded before an identity departs. A frame has been lost when
its mailbox was full. -/
def warnings (identity : Identity) : Departure → List Event
  | slowConsumer => [.messageDropped identity]
  | requested | writerClosed => []

end Departure

/-- The reason for which an identity departs whose mailbox has refused. -/
def Refusal.departure : Refusal → Departure
  | full => .slowConsumer
  | closed => .writerClosed

namespace Exchange

variable {exchange next : Exchange} {identity : Identity} {connection : Connection}
  {frame : Bytes} {departure : Departure}

/-! ## Recording -/

@[simp]
theorem directory_record (events : List Event) :
    (exchange.record events).directory = exchange.directory :=
  rfl

@[simp]
theorem mailboxes_record (events : List Event) :
    (exchange.record events).mailboxes = exchange.mailboxes :=
  rfl

@[simp]
theorem log_record (events : List Event) :
    (exchange.record events).log.toList = exchange.log.toList ++ events :=
  exchange.log.toList_pushAll events

/-! ## Departures -/

/-- Remove a registered identity with all that is recorded about it. -/
def depart (exchange : Exchange) (identity : Identity) (departure : Departure) : Exchange :=
  (exchange.record (departure.warnings identity)).remove identity departure

theorem remove_requested (exchange : Exchange) (identity : Identity) :
    exchange.remove identity .requested = exchange.depart identity .requested :=
  rfl

theorem shed_eq_depart (exchange : Exchange) (identity : Identity) (refusal : Refusal) :
    exchange.shed identity refusal = exchange.depart identity refusal.departure := by
  cases refusal <;> rfl

/-- The state after the departure of an identity that was registered. -/
theorem depart_eq (found : exchange.directory.find? identity = some connection) :
    exchange.depart identity departure =
      { exchange with
        directory := exchange.directory.erase identity
        rooms := (exchange.rooms.leaveAll identity).1
        mailboxes := exchange.mailboxes.modify connection Mailbox.close
        log := ((exchange.log.pushAll (departure.warnings identity)).pushAll
          (exchange.rooms.leaveAll identity).2).pushAll [.disconnected identity departure] } := by
  rw [depart, remove]
  rw [directory_record, found]
  rfl

@[simp]
theorem running_depart : (exchange.depart identity departure).running = exchange.running := by
  rw [depart, remove]
  split <;> rfl

theorem directory_depart (found : exchange.directory.find? identity = some connection) :
    (exchange.depart identity departure).directory = exchange.directory.erase identity := by
  rw [depart_eq found]

theorem rooms_depart (found : exchange.directory.find? identity = some connection) :
    (exchange.depart identity departure).rooms = (exchange.rooms.leaveAll identity).1 := by
  rw [depart_eq found]

theorem mailboxes_depart (found : exchange.directory.find? identity = some connection) :
    (exchange.depart identity departure).mailboxes =
      exchange.mailboxes.modify connection Mailbox.close := by
  rw [depart_eq found]

theorem log_depart (found : exchange.directory.find? identity = some connection) :
    (exchange.depart identity departure).log.toList =
      exchange.log.toList ++ (departure.warnings identity ++
        (exchange.rooms.leaveAll identity).2 ++ [.disconnected identity departure]) := by
  rw [depart_eq found]
  simp

/-! ## Queueing -/

theorem enqueue_eq_ok_iff :
    exchange.enqueue connection frame = .ok next ↔
      ∃ mailbox filled, exchange.mailboxes[connection]? = some mailbox ∧
        mailbox.enqueue frame = .ok filled ∧
        next = { exchange with
          mailboxes := exchange.mailboxes.setIfInBounds connection filled } := by
  rw [enqueue]
  cases found : exchange.mailboxes[connection]? with
  | none => simp
  | some mailbox =>
      cases outcome : mailbox.enqueue frame with
      | error refusal => simp [outcome, Except.map]
      | ok filled => simp [outcome, Except.map, eq_comm]

/-- A connection without a mailbox refuses like a closed one. -/
theorem enqueue_eq_error_iff {refusal : Refusal} :
    exchange.enqueue connection frame = .error refusal ↔
      (exchange.mailboxes[connection]? = none ∧ refusal = .closed) ∨
        ∃ mailbox, exchange.mailboxes[connection]? = some mailbox ∧
          mailbox.enqueue frame = .error refusal := by
  rw [enqueue]
  cases found : exchange.mailboxes[connection]? with
  | none => simp [eq_comm]
  | some mailbox =>
      cases outcome : mailbox.enqueue frame with
      | error other => simp [outcome, Except.map]
      | ok filled => simp [outcome, Except.map]

theorem enqueue_ok_frame (queued : exchange.enqueue connection frame = .ok next) :
    next.running = exchange.running ∧ next.directory = exchange.directory ∧
      next.rooms = exchange.rooms ∧ next.log = exchange.log := by
  obtain ⟨mailbox, filled, _, _, rfl⟩ := enqueue_eq_ok_iff.mp queued
  exact ⟨rfl, rfl, rfl, rfl⟩

/-! ## Delivering -/

/-- The possible outcomes of a delivery. -/
inductive Delivery (exchange : Exchange) (recipient : Identity) (frame : Bytes) :
    Except ExchangeError Unit × Exchange → Prop
  | stopped (idle : exchange.running = false) :
      Delivery exchange recipient frame (.error .stopped, exchange)
  | unknown (serving : exchange.running = true)
      (absent : exchange.directory.find? recipient = none) :
      Delivery exchange recipient frame
        (.error (.directory (.notRegistered recipient)), exchange)
  | queued {connection : Connection} {next : Exchange} (serving : exchange.running = true)
      (found : exchange.directory.find? recipient = some connection)
      (accepted : exchange.enqueue connection frame = .ok next) :
      Delivery exchange recipient frame (.ok (), next)
  | shed {connection : Connection} {refusal : Refusal} (serving : exchange.running = true)
      (found : exchange.directory.find? recipient = some connection)
      (refused : exchange.enqueue connection frame = .error refusal) :
      Delivery exchange recipient frame
        (.error (.shed recipient), exchange.depart recipient refusal.departure)

theorem delivery_deliver (exchange : Exchange) (recipient : Identity) (frame : Bytes) :
    Delivery exchange recipient frame (exchange.deliver recipient frame) := by
  rw [deliver, Directory.get]
  by_cases serving : exchange.running
  · rw [if_pos serving]
    cases found : exchange.directory.find? recipient with
    | none => exact .unknown serving found
    | some connection =>
        dsimp only
        cases outcome : exchange.enqueue connection frame with
        | ok next => exact .queued serving found outcome
        | error refusal =>
            dsimp only
            rw [shed_eq_depart]
            exact .shed serving found outcome
  · rw [if_neg serving]
    exact .stopped (Bool.eq_false_iff.mpr serving)

theorem running_deliver (exchange : Exchange) (recipient : Identity) (frame : Bytes) :
    (exchange.deliver recipient frame).2.running = exchange.running := by
  have outcome := exchange.delivery_deliver recipient frame
  generalize exchange.deliver recipient frame = result at outcome ⊢
  cases outcome with
  | stopped | unknown => rfl
  | queued _ _ accepted => exact (enqueue_ok_frame accepted).1
  | shed => exact running_depart

/-- A delivery touches the registration of nobody but its recipient. -/
theorem find?_deliver_of_ne {recipient other : Identity} (apart : other ≠ recipient) :
    (exchange.deliver recipient frame).2.directory.find? other =
      exchange.directory.find? other := by
  have outcome := exchange.delivery_deliver recipient frame
  generalize exchange.deliver recipient frame = result at outcome ⊢
  cases outcome with
  | stopped | unknown => rfl
  | queued _ _ accepted => rw [(enqueue_ok_frame accepted).2.1]
  | shed _ found => rw [directory_depart found, Directory.find?_erase, if_neg apart]

/-! ## Broadcasting -/

/-- Deliver a frame to a list of identities, one after the other. -/
def deliverEach (frame : Bytes) : List Identity → Exchange → Report × Exchange
  | [], exchange => ({}, exchange)
  | recipient :: rest, exchange =>
      match exchange.deliver recipient frame with
      | (.ok (), next) =>
          let (report, last) := deliverEach frame rest next
          ({ report with delivered := report.delivered + 1 }, last)
      | (.error _, next) =>
          let (report, last) := deliverEach frame rest next
          ({ report with evicted := recipient :: report.evicted }, last)

theorem deliverEach_cons_snd (recipient : Identity) (rest : List Identity) :
    (deliverEach frame (recipient :: rest) exchange).2 =
      (deliverEach frame rest (exchange.deliver recipient frame).2).2 := by
  rw [deliverEach]
  rcases exchange.deliver recipient frame with ⟨_ | _, next⟩ <;> rfl

theorem perm_snapshot (exchange : Exchange) :
    exchange.snapshot.Perm exchange.directory.entries :=
  exchange.arrangement.perm exchange.log exchange.directory.entries

theorem mem_snapshot_iff :
    (identity, connection) ∈ exchange.snapshot ↔
      exchange.directory.find? identity = some connection := by
  rw [exchange.perm_snapshot.mem_iff]
  exact Directory.mem_entries_iff

/-- The registered identities but one, in the order in which a broadcast reaches
them. -/
def recipients (exchange : Exchange) (excluded : Option Identity) : List Identity :=
  (exchange.snapshot.filter fun (identity, _) => excluded ≠ some identity).map Prod.fst

theorem mem_recipients {excluded : Option Identity} :
    identity ∈ exchange.recipients excluded ↔
      excluded ≠ some identity ∧ ∃ connection,
        exchange.directory.find? identity = some connection := by
  simp [recipients, mem_snapshot_iff, and_comm]

theorem nodup_recipients (exchange : Exchange) (excluded : Option Identity) :
    (exchange.recipients excluded).Nodup := by
  have distinct : (exchange.snapshot.map Prod.fst).Nodup :=
    (exchange.perm_snapshot.map Prod.fst).nodup_iff.mpr exchange.directory.nodup_entries
  exact distinct.sublist (List.filter_sublist.map Prod.fst)

/-- Walking through a snapshot of the directory is delivering by name. Nobody
in the rest of the snapshot departs when an earlier identity is shed, so its
handles stay the right ones. -/
theorem offerEach_eq_deliverEach {entries : List (Identity × Connection)}
    (serving : exchange.running = true)
    (known : ∀ entry ∈ entries, exchange.directory.find? entry.1 = some entry.2)
    (distinct : (entries.map Prod.fst).Nodup) :
    offerEach frame entries exchange = deliverEach frame (entries.map Prod.fst) exchange := by
  induction entries generalizing exchange with
  | nil => rfl
  | cons entry rest ih =>
      rcases entry with ⟨recipient, connection⟩
      rw [List.map_cons, List.nodup_cons] at distinct
      have found : exchange.directory.find? recipient = some connection :=
        known (recipient, connection) List.mem_cons_self
      have later : offerEach frame rest (exchange.deliver recipient frame).2 =
          deliverEach frame (rest.map Prod.fst) (exchange.deliver recipient frame).2 := by
        refine ih ?_ ?_ distinct.2
        · rw [running_deliver, serving]
        · intro other listed
          have apart : other.1 ≠ recipient := by
            intro same
            exact distinct.1 (List.mem_map.mpr ⟨other, listed, same⟩)
          rw [find?_deliver_of_ne apart]
          exact known other (List.mem_cons_of_mem _ listed)
      rw [List.map_cons, offerEach, deliverEach]
      rw [deliver, Directory.get] at later ⊢
      rw [if_pos serving, found] at later ⊢
      dsimp only at later ⊢
      cases outcome : exchange.enqueue connection frame with
      | ok next =>
          rw [outcome] at later
          dsimp only at later ⊢
          rw [later]
      | error refusal =>
          rw [outcome] at later
          dsimp only at later ⊢
          rw [later]

theorem broadcast_eq (exchange : Exchange) (frame : Bytes) (excluded : Option Identity) :
    exchange.broadcast frame excluded =
      if exchange.running then
        (.ok (deliverEach frame (exchange.recipients excluded) exchange).1,
          (deliverEach frame (exchange.recipients excluded) exchange).2)
      else
        (.error .stopped, exchange) := by
  rw [broadcast]
  by_cases serving : exchange.running
  · have walked : offerEach frame (exchange.snapshot.filter fun (identity, _) =>
          excluded ≠ some identity) exchange =
        deliverEach frame (exchange.recipients excluded) exchange :=
      offerEach_eq_deliverEach serving
        (fun _ listed => mem_snapshot_iff.mp (List.mem_of_mem_filter listed))
        (exchange.nodup_recipients excluded)
    rw [if_pos serving, if_pos serving]
    dsimp only
    rw [walked]
  · rw [if_neg serving, if_neg serving]

end Exchange

end Switchboard
