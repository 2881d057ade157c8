import Switchboard.Proofs.Exchange.Changes
import Switchboard.Proofs.Exchange.Lifecycle

/-!
# Rooms in the log

Whatever happens, the log tells of every room how it comes and goes. No single
operation tells of both: either it brings members into rooms, or it takes members
out of them, be it that they leave or that they are evicted. So a room that loses
all its members is destroyed once, however many of them go together.
-/

namespace Switchboard

open Event

namespace Exchange

variable {exchange next last : Exchange} {identity sender : Identity} {room : String}
  {connection : Connection} {frame : Bytes} {operation : Operation} {turn : Bool}

/-! ## Reports -/

/-- The log tells what has happened to the rooms, which only come or only go. -/
def Reports (turn : Bool) (exchange next : Exchange) : Prop :=
  ∃ events, next.log.toList = exchange.log.toList ++ events ∧
    exchange.rooms.Tells next.rooms events ∧ ∀ event ∈ events, event.kind ≠ kindOfTurn !turn

namespace Reports

theorem of_eq (rooms : next.rooms = exchange.rooms) (log : next.log = exchange.log) :
    Reports turn exchange next := by
  refine ⟨[], ?_, ?_, fun _ listed => absurd listed List.not_mem_nil⟩
  · rw [log, List.append_nil]
  · rw [rooms]
    exact .nil (fun _ => rfl) rfl

theorem trans (first : Reports turn exchange next) (second : Reports turn next last) :
    Reports turn exchange last := by
  rcases first with ⟨events, log, tells, others⟩
  rcases second with ⟨later, logLater, tellsLater, othersLater⟩
  refine ⟨events ++ later, ?_, tells.trans tellsLater, ?_⟩
  · rw [logLater, log, List.append_assoc]
  · intro event listed
    rcases List.mem_append.mp listed with early | late
    · exact others event early
    · exact othersLater event late

end Reports

theorem reports_join (sound : exchange.rooms.Sound) :
    Reports true exchange (exchange.join room identity).2 := by
  rw [join]
  split
  · exact .of_eq rfl rfl
  · rename_i joined
    refine ⟨_, log_record _, sound.tells_join joined, ?_⟩
    intro event listed
    rw [Rooms.eq_roomCreated_of_mem_join joined listed]
    simp [kind, kindOfTurn]

theorem ne_of_isDestruction {event : Event} (destroys : event.IsDestruction) :
    event.kind ≠ kindOfTurn !false := by
  rcases destroys with ⟨room, rfl⟩
  simp [kind, kindOfTurn]

theorem reports_leave (sound : exchange.rooms.Sound) :
    Reports false exchange (exchange.leave room identity).2 := by
  rw [leave]
  split
  · exact .of_eq rfl rfl
  · rename_i left
    refine ⟨_, log_record _, sound.tells_leave left, fun event listed => ?_⟩
    exact ne_of_isDestruction (Rooms.isDestruction_of_mem_leave left event listed)

theorem reports_leaveAll (sound : exchange.rooms.Sound) (identity : Identity) :
    Reports false exchange (exchange.leaveAll identity) :=
  ⟨_, log_record _, sound.tells_leaveAll identity, fun event listed =>
    ne_of_isDestruction (Rooms.isDestruction_of_mem_leaveAll event listed)⟩

theorem reports_depart (sound : exchange.rooms.Sound)
    (found : exchange.directory.find? identity = some connection) (departure : Departure) :
    Reports false exchange (exchange.depart identity departure) := by
  have warned : ∀ event ∈ departure.warnings identity, event = .messageDropped identity := by
    cases departure <;> simp [Departure.warnings]
  refine ⟨_, log_depart found, ?_, ?_⟩
  · rw [rooms_depart found]
    apply Rooms.Tells.trans
    · apply Rooms.Tells.trans
      · apply Rooms.Tells.of_silent
        rintro event listed ⟨room, about⟩
        rw [warned event listed] at about
        rcases about with about | about <;> contradiction
      · exact sound.tells_leaveAll identity
    · apply Rooms.Tells.of_silent
      simp [IsAboutRoom]
  · intro event listed
    simp only [List.mem_append, List.mem_singleton] at listed
    rcases listed with (early | destroyed) | rfl
    · rw [warned event early]
      simp [kind, kindOfTurn]
    · exact ne_of_isDestruction (Rooms.isDestruction_of_mem_leaveAll event destroyed)
    · simp [kind, kindOfTurn]

/-! ## What is not told of -/

theorem log_join_member (isMember : identity ∈ exchange.rooms.peers room) :
    (exchange.join room identity).2.log = exchange.log := by
  rw [join]
  split
  · rfl
  · rename_i joined
    rw [Rooms.eq_nil_of_join_member isMember joined]
    rfl

theorem log_leave_stranger (sound : exchange.rooms.Sound)
    (stranger : identity ∉ exchange.rooms.peers room) :
    (exchange.leave room identity).2.log = exchange.log := by
  rw [leave]
  split
  · rfl
  · rename_i left
    rw [sound.eq_nil_of_leave_stranger stranger left]
    rfl

/-! ## Coming and going -/

/-- Members come, and nobody goes. -/
structure Waxes (exchange next : Exchange) : Prop where
  reports : Reports true exchange next
  remains : ∀ identity room, identity ∈ exchange.rooms.peers room →
    identity ∈ next.rooms.peers room
  spares : ∀ identity, ¬exchange.Evicts next identity

/-- Members go, and nobody comes. Who is evicted goes from everywhere. -/
structure Wanes (exchange next : Exchange) : Prop where
  reports : Reports false exchange next
  remained : ∀ identity room, identity ∈ next.rooms.peers room →
    identity ∈ exchange.rooms.peers room ∧ ¬exchange.Evicts next identity

theorem waxes_join (sound : exchange.rooms.Sound) :
    Waxes exchange (exchange.join room identity).2 where
  reports := reports_join sound
  remains _ _ isMember := by
    rw [join]
    split
    · exact isMember
    · rename_i joined
      exact (Rooms.mem_peers_join joined).mpr (.inr isMember)
  spares _ := not_evicts_of_directory directory_join

theorem waxes_arrival {directory : Directory Connection}
    (added : exchange.directory.add identity connection = .ok directory) :
    Waxes exchange ({ exchange with directory }.record [.connected identity]) where
  reports := by
    refine ⟨_, log_record _, ?_, ?_⟩
    · apply Rooms.Tells.of_silent
      simp [IsAboutRoom]
    · simp [kind, kindOfTurn]
  remains _ _ isMember := isMember
  spares other := by
    rintro ⟨before, after⟩
    change directory.contains other = false at after
    rw [Directory.contains_add added, before] at after
    simp at after

namespace Wanes

theorem of_eq (directory : next.directory = exchange.directory)
    (rooms : next.rooms = exchange.rooms) (log : next.log = exchange.log) :
    Wanes exchange next where
  reports := .of_eq rooms log
  remained _ _ isMember := ⟨rooms ▸ isMember, not_evicts_of_directory directory⟩

theorem refl (exchange : Exchange) : Wanes exchange exchange :=
  of_eq rfl rfl rfl

theorem trans (first : Wanes exchange next) (second : Wanes next last) :
    Wanes exchange last where
  reports := first.reports.trans second.reports
  remained identity room isMember := by
    rcases second.remained identity room isMember with ⟨between, keptLater⟩
    rcases first.remained identity room between with ⟨before, kept⟩
    exact ⟨before, fun evicted => (evicted.split next).elim kept keptLater⟩

end Wanes

theorem Change.wanes (change : exchange.Change next) (sound : exchange.rooms.Sound) :
    Wanes exchange next := by
  constructor
  · cases change with
    | queued accepted =>
        rcases enqueue_ok_frame accepted with ⟨_, _, rooms, log⟩
        exact .of_eq rooms log
    | departed found => exact reports_depart sound found _
  · exact fun _ _ => (change.mem_peers sound).mp

theorem Changes.wanes (changes : Changes exchange next) (sound : exchange.rooms.Sound) :
    Wanes exchange next := by
  induction changes with
  | refl => exact .refl exchange
  | tail earlier change ih =>
      exact ih.trans (change.wanes ((Changes.steps earlier).sound sound))

theorem wanes_leave (sound : exchange.rooms.Sound) :
    Wanes exchange (exchange.leave room identity).2 where
  reports := reports_leave sound
  remained _ _ isMember :=
    ⟨mem_peers_of_leave isMember, not_evicts_of_directory directory_leave⟩

theorem wanes_leaveAll (sound : exchange.rooms.Sound) (identity : Identity) :
    Wanes exchange (exchange.leaveAll identity) where
  reports := reports_leaveAll sound identity
  remained _ _ isMember :=
    ⟨(sound.mem_peers_leaveAll.mp isMember).1, not_evicts_of_directory rfl⟩

/-! ## Operations -/

theorem wanes_disconnect (sound : exchange.rooms.Sound) (identity : Identity) :
    Wanes exchange (exchange.disconnect identity).2 := by
  have changes := exchange.changes_unregister identity
  have removed := Changes.wanes changes sound
  rcases exchange.disconnect_snd identity with same | left
  · rw [same]
    exact removed
  · rw [left]
    exact removed.trans (wanes_leaveAll ((Changes.steps changes).sound sound) identity)

theorem wanes_read (look : Mailbox → Answer × Mailbox) :
    Wanes exchange (exchange.read connection look).2 := by
  rcases exchange.exists_read_eq look with ⟨mailboxes, outcome⟩
  rw [outcome]
  exact .of_eq rfl rfl rfl

theorem waxes_or_wanes_register (identity : Identity) (connection : Connection) :
    Waxes exchange (exchange.register identity connection).2 ∨
      Wanes exchange (exchange.register identity connection).2 := by
  rw [register]
  split
  · split
    · exact .inr (.refl exchange)
    · rename_i added
      exact .inl (waxes_arrival added)
  · exact .inr (.refl exchange)

theorem waxes_or_wanes_dispatch (sound : exchange.rooms.Sound) :
    Waxes exchange (exchange.dispatch sender frame).2 ∨
      Wanes exchange (exchange.dispatch sender frame).2 := by
  have outcome := exchange.dispatched_dispatch sender frame
  generalize (exchange.dispatch sender frame).2 = next at outcome ⊢
  cases outcome with
  | served routed =>
      exact .inr (Changes.wanes (changes_serve (isDelivery_of_routed? routed) exchange) sound)
  | joined => exact .inl (waxes_join sound)
  | left => exact .inr (wanes_leave sound)
  | unchanged => exact .inr (.refl exchange)

theorem waxes_or_wanes_handle (sound : exchange.rooms.Sound) :
    Waxes exchange (exchange.handle sender frame) ∨
      Wanes exchange (exchange.handle sender frame) := by
  rw [handle_eq]
  cases complained : exchange.complaint? sender frame with
  | none => exact waxes_or_wanes_dispatch sound
  | some request =>
      -- A frame that has brought its sender into a room is not complained about.
      have changes := changes_of_complaint? complained
      rcases complaint?_eq_some complained with ⟨error, _, _, rfl⟩
      have told := (exchange.dispatch sender frame).2.changes_deliver sender
        (Notice.error sender error.message).frame
      exact .inr (Changes.wanes (changes.trans told) sound)

/-- Whatever is done, members only come or only go. -/
theorem waxes_or_wanes_perform (sound : exchange.rooms.Sound) (operation : Operation) :
    Waxes exchange (exchange.perform operation).2 ∨
      Wanes exchange (exchange.perform operation).2 := by
  cases operation with
  | join room identity => exact .inl (waxes_join sound)
  | request request =>
      cases request with
      | register identity connection =>
          exact waxes_or_wanes_register identity connection
      | unregister identity =>
          exact .inr (Changes.wanes (exchange.changes_unregister identity) sound)
      | deliver recipient frame =>
          exact .inr (Changes.wanes (exchange.changes_deliver recipient frame) sound)
      | broadcast frame excluded =>
          have served : Changes exchange (exchange.serve (.broadcast frame excluded)).2 :=
            changes_serve rfl exchange
          exact .inr (Changes.wanes served sound)
  | disconnect identity => exact .inr (wanes_disconnect sound identity)
  | dispatch sender frame => exact waxes_or_wanes_dispatch sound
  | handle sender frame => exact waxes_or_wanes_handle sound
  | leave room identity => exact .inr (wanes_leave sound)
  | leaveAll identity => exact .inr (wanes_leaveAll sound identity)
  | enqueue connection frame =>
      rw [perform]
      split
      · rename_i accepted
        exact .inr (Changes.wanes (.single (.queued accepted)) sound)
      · exact .inr (.refl exchange)
  | receive | drain => exact .inr (wanes_read _)
  | openMailbox | openSaturated | close | abandon | stop => exact .inr (.of_eq rfl rfl rfl)

/-- From one state to the next the log tells exactly which rooms have come and
gone. -/
structure Accounts (exchange next : Exchange) (events : List Event) : Prop where
  log : next.log.toList = exchange.log.toList ++ events
  tells : exchange.rooms.Tells next.rooms events
  /-- A room is told of if it comes or goes, and then only of that. -/
  existence : ∀ room, existence room events =
    if next.rooms.hasMembers room = exchange.rooms.hasMembers room then []
    else [next.rooms.hasMembers room]

theorem Reports.accounts (reports : Reports turn exchange next) :
    ∃ events, Accounts exchange next events := by
  rcases reports with ⟨events, log, tells, others⟩
  exact ⟨events, log, tells, tells.existence_eq others⟩

theorem accounts_perform (sound : exchange.rooms.Sound) (operation : Operation) :
    ∃ events, Accounts exchange (exchange.perform operation).2 events := by
  rcases waxes_or_wanes_perform sound operation with waxes | wanes
  · exact waxes.reports.accounts
  · exact wanes.reports.accounts

/-- Who is evicted is in no room afterwards. -/
theorem not_mem_peers_of_evicts (sound : exchange.rooms.Sound)
    (evicted : exchange.Evicts (exchange.perform operation).2 identity) :
    identity ∉ (exchange.perform operation).2.rooms.peers room := by
  rcases waxes_or_wanes_perform sound operation with waxes | wanes
  · exact absurd evicted (waxes.spares identity)
  · exact fun isMember => (wanes.remained identity room isMember).2 evicted

/-- Nobody takes the place of those who go. -/
theorem hasMembers_eq_false_of_gone (sound : exchange.rooms.Sound)
    (occupied : exchange.rooms.hasMembers room = true)
    (gone : ∀ member ∈ exchange.rooms.peers room,
      member ∉ (exchange.perform operation).2.rooms.peers room) :
    (exchange.perform operation).2.rooms.hasMembers room = false := by
  rw [Bool.eq_false_iff, ne_eq, Rooms.hasMembers_eq_true_iff]
  rintro ⟨member, isMember⟩
  rcases waxes_or_wanes_perform sound operation with waxes | wanes
  · rcases Rooms.hasMembers_eq_true_iff.mp occupied with ⟨before, wasMember⟩
    exact gone before wasMember (waxes.remains before room wasMember)
  · exact gone member (wanes.remained member room isMember).1 isMember

/-! ## Runs -/

/-- The whole log tells how the rooms have come to be. -/
def Recorded (exchange : Exchange) : Prop :=
  exchange.rooms.Sound ∧ Rooms.empty.Tells exchange.rooms exchange.log.toList

theorem Recorded.perform (recorded : exchange.Recorded) (operation : Operation) :
    (exchange.perform operation).2.Recorded := by
  rcases recorded with ⟨sound, tells⟩
  rcases accounts_perform sound operation with ⟨events, accounts⟩
  refine ⟨sound_perform operation sound, ?_⟩
  rw [accounts.log]
  exact tells.trans accounts.tells

theorem recorded_run (vocabulary : Vocabulary) (queueCapacity : Nat) (arrangement : Arrangement)
    (operations : List Operation) :
    ((start vocabulary queueCapacity arrangement).run operations).Recorded :=
  run_preserve (fun operation _ _ recorded => recorded.perform operation)
    ⟨Rooms.sound_empty, .nil (fun _ => rfl) rfl⟩

/-- Whatever happens, the creations and destructions of every room take turns
and end with whether it has members. So the counters account for every room
that exists. Joining again and leaving as a stranger are not told of. And
whatever is done next, it tells of every room that comes or goes, once, and of no
other: a room whose members all go, be it that they are evicted together, is
destroyed once. -/
theorem lifecycle_of_rooms (vocabulary : Vocabulary) (queueCapacity : Nat)
    (arrangement : Arrangement) (operations : List Operation) :
    let exchange := (start vocabulary queueCapacity arrangement).run operations
    let log := exchange.log.toList
    (∀ room, TakesTurns (existence room log) ∧
      (exchange.rooms.hasMembers room = true ↔ (existence room log).getLast? = some true)) ∧
    (log.length < UInt64.size →
      exchange.tally.roomsCreated.toNat =
        exchange.tally.roomsDestroyed.toNat + exchange.rooms.count) ∧
    (∀ room identity, identity ∈ exchange.rooms.peers room →
      (exchange.join room identity).2.log = exchange.log) ∧
    (∀ room identity, identity ∉ exchange.rooms.peers room →
      (exchange.leave room identity).2.log = exchange.log) ∧
    ∀ operation, ∃ events, Accounts exchange (exchange.perform operation).2 events ∧
      (∀ identity, exchange.Evicts (exchange.perform operation).2 identity →
        ∀ room, identity ∉ (exchange.perform operation).2.rooms.peers room) ∧
      ∀ room, exchange.rooms.hasMembers room = true →
        (∀ member ∈ exchange.rooms.peers room,
          member ∉ (exchange.perform operation).2.rooms.peers room) →
        existence room events = [false] := by
  intro exchange log
  rcases recorded_run vocabulary queueCapacity arrangement operations with ⟨sound, tells⟩
  refine ⟨?_, ?_, ?_, ?_, ?_⟩
  · intro room
    have switches : Switches false (existence room log) (exchange.rooms.hasMembers room) :=
      tells.switches room
    exact ⟨switches.turns, switches.eq_true_iff⟩
  · intro short
    have counted := fun kind => Tally.toNat_counter_ofLog short kind
    calc
      exchange.tally.roomsCreated.toNat = log.countP fun event => event.kind = .roomCreated :=
        counted .roomCreated
      _ = (log.countP fun event => event.kind = .roomDestroyed) + exchange.rooms.count :=
        tells.balance
      _ = exchange.tally.roomsDestroyed.toNat + exchange.rooms.count :=
        congrArg (· + exchange.rooms.count) (counted .roomDestroyed).symm
  · exact fun _ _ isMember => log_join_member isMember
  · exact fun _ _ stranger => log_leave_stranger sound stranger
  · intro operation
    rcases accounts_perform sound operation with ⟨events, accounts⟩
    refine ⟨events, accounts, fun _ evicted _ => not_mem_peers_of_evicts sound evicted, ?_⟩
    intro room occupied gone
    have vacant := hasMembers_eq_false_of_gone sound occupied gone
    rw [accounts.existence, vacant, if_neg (by rw [occupied]; exact Bool.false_ne_true)]

/-- Alice and Carol are both evicted by one broadcast of Bob, and the hall is
destroyed once. -/
theorem lifecycle_of_rooms_fullHall :
    let exchange := (start .standard 256).run fullHall
    let log := exchange.log.toList
    let next := (exchange.perform (.request (.broadcast [2] (some ⟨"bob"⟩)))).2
    (log.length < UInt64.size ∧ exchange.tally.roomsCreated.toNat =
        exchange.tally.roomsDestroyed.toNat + exchange.rooms.count) ∧
      (⟨"alice"⟩ ∈ exchange.rooms.peers "hall" ∧
        (exchange.join "hall" ⟨"alice"⟩).2.log = exchange.log) ∧
      (⟨"bob"⟩ ∉ exchange.rooms.peers "hall" ∧
        (exchange.leave "hall" ⟨"bob"⟩).2.log = exchange.log) ∧
      (exchange.rooms.peers "hall").toList = [⟨"alice"⟩, ⟨"carol"⟩] ∧
      exchange.Evicts next ⟨"alice"⟩ ∧ exchange.Evicts next ⟨"carol"⟩ ∧
      ∃ events, Accounts exchange next events ∧ existence "hall" events = [false] := by
  intro exchange log next
  have short : log.length < UInt64.size := by decide +kernel
  have isMember : ⟨"alice"⟩ ∈ exchange.rooms.peers "hall" := by decide +kernel
  have stranger : ⟨"bob"⟩ ∉ exchange.rooms.peers "hall" := by decide +kernel
  have members : (exchange.rooms.peers "hall").toList = [⟨"alice"⟩, ⟨"carol"⟩] := by
    decide +kernel
  have occupied : exchange.rooms.hasMembers "hall" = true := by decide +kernel
  have evictedAlice : exchange.Evicts next ⟨"alice"⟩ := by decide +kernel
  have evictedCarol : exchange.Evicts next ⟨"carol"⟩ := by decide +kernel
  rcases lifecycle_of_rooms .standard 256 .byName fullHall with
    ⟨_, counted, again, never, accounted⟩
  rcases accounted (.request (.broadcast [2] (some ⟨"bob"⟩))) with
    ⟨events, accounts, absent, destroyed⟩
  refine ⟨⟨short, counted short⟩, ⟨isMember, again _ _ isMember⟩, ⟨stranger, never _ _ stranger⟩,
    members, evictedAlice, evictedCarol, events, accounts, destroyed "hall" occupied ?_⟩
  intro member isMember
  rw [← Std.ExtTreeSet.mem_toList, members] at isMember
  have among : member = ⟨"alice"⟩ ∨ member = ⟨"carol"⟩ := by simpa using isMember
  rcases among with rfl | rfl
  · exact absent _ evictedAlice "hall"
  · exact absent _ evictedCarol "hall"

end Exchange

end Switchboard
