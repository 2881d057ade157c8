import Switchboard.Proofs.Exchange.Departure
import Switchboard.Proofs.Exchange.Membership

/-!
# The end of a connection

A connection ends in one of two ways. An identity that is still registered
departs, and one that has been removed before leaves the rooms that it has
joined in the meantime. Both lead to the same: nothing of the identity is left,
and nobody else notices anything.
-/

namespace Switchboard

namespace Exchange

variable {exchange : Exchange} {identity : Identity} {connection : Connection}

/-- What the end of a connection makes of an exchange. An identity without
any registration has only memberships to lose. -/
structure TornDown (exchange : Exchange) (identity : Identity) (next : Exchange) : Prop where
  unregistered : next.directory.find? identity = none
  others_registered : ∀ other ≠ identity,
    next.directory.find? other = exchange.directory.find? other
  nowhere : ∀ room, identity ∉ next.rooms.peers room
  others_members : ∀ room, ∀ other ≠ identity,
    other ∈ next.rooms.peers room ↔ other ∈ exchange.rooms.peers room
  /-- A room without other members is gone. -/
  vanished : ∀ room, (∀ member ∈ exchange.rooms.peers room, member = identity) →
    next.rooms.table[room]? = none
  /-- The mailbox of the identity is closed with what is queued in it, and the
  others stay as they are. -/
  mailboxes : ∀ connection : Connection, next.mailboxes[connection]? =
    if exchange.directory.find? identity = some connection
      then exchange.mailboxes[connection]?.map Mailbox.close
      else exchange.mailboxes[connection]?
  /-- The departure is recorded if there was a registration to end. -/
  log : ∃ destroyed, (∀ event ∈ destroyed, event.IsDestruction) ∧
    next.log.toList = exchange.log.toList ++ destroyed ++
      if exchange.directory.contains identity then [.disconnected identity .requested] else []
  settings : next.running = exchange.running ∧ next.vocabulary = exchange.vocabulary ∧
    next.queueCapacity = exchange.queueCapacity

/-! ## The ways in which a connection ends -/

theorem disconnect_of_find? (serving : exchange.running = true)
    (found : exchange.directory.find? identity = some connection) :
    exchange.disconnect identity = (.ok true, exchange.depart identity .requested) := by
  rw [disconnect, unregister, if_pos serving, found, remove_requested]

theorem disconnect_of_find?_eq_none (serving : exchange.running = true)
    (absent : exchange.directory.find? identity = none) :
    exchange.disconnect identity = (.ok false, exchange.leaveAll identity) := by
  rw [disconnect, unregister, if_pos serving, absent]

theorem disconnect_of_stopped (idle : exchange.running = false) :
    exchange.disconnect identity = (.error .stopped, exchange) := by
  rw [disconnect, unregister, if_neg (Bool.eq_false_iff.mp idle)]

theorem tornDown_depart (sound : exchange.rooms.Sound)
    (found : exchange.directory.find? identity = some connection) :
    exchange.TornDown identity (exchange.depart identity .requested) := by
  have lost := loses_depart sound found .requested
  constructor
  · exact (lost.registrations identity).trans (if_pos rfl)
  · exact fun other apart => (lost.registrations other).trans (if_neg apart)
  · exact fun room isMember => ((lost.memberships room identity).mp isMember).2 rfl
  · exact fun room other apart => (lost.memberships room other).trans (and_iff_left apart)
  · intro room alone
    rw [rooms_depart found]
    exact sound.getElem?_leaveAll_eq_none alone
  · exact lost.mailboxes
  · refine ⟨(exchange.rooms.leaveAll identity).2, Rooms.isDestruction_of_mem_leaveAll, ?_⟩
    rw [log_depart found, if_pos (Directory.contains_of_find? found), Departure.warnings,
      List.nil_append, List.append_assoc]
  · exact lost.settings

theorem tornDown_leaveAll (sound : exchange.rooms.Sound)
    (absent : exchange.directory.find? identity = none) :
    exchange.TornDown identity (exchange.leaveAll identity) where
  unregistered := absent
  others_registered _ _ := rfl
  nowhere _ isMember := (sound.mem_peers_leaveAll.mp isMember).2 rfl
  others_members room other apart :=
    sound.mem_peers_leaveAll.trans (and_iff_left apart)
  vanished _ alone := sound.getElem?_leaveAll_eq_none alone
  mailboxes other := by
    rw [absent, if_neg (Option.some_ne_none other).symm]
    rfl
  log := by
    refine ⟨(exchange.rooms.leaveAll identity).2, Rooms.isDestruction_of_mem_leaveAll, ?_⟩
    rw [Directory.contains_eq_false_iff.mpr absent, leaveAll]
    simp
  settings := ⟨rfl, rfl, rfl⟩

/-! ## Ending it again -/

/-- Once nothing is left of an identity, the end of its connection is no change. -/
theorem TornDown.disconnect {next : Exchange} (tornDown : exchange.TornDown identity next)
    (serving : exchange.running = true) : next.disconnect identity = (.ok false, next) := by
  have stillServing : next.running = true := by
    rw [tornDown.settings.1, serving]
  rw [disconnect_of_find?_eq_none stillServing tornDown.unregistered, leaveAll,
    Rooms.leaveAll_eq_self tornDown.nowhere]
  rfl

theorem disconnect_of_running (sound : exchange.rooms.Sound) (serving : exchange.running = true)
    (identity : Identity) :
    (exchange.disconnect identity).1 = .ok (exchange.directory.contains identity) ∧
      exchange.TornDown identity (exchange.disconnect identity).2 := by
  cases found : exchange.directory.find? identity with
  | none =>
      rw [disconnect_of_find?_eq_none serving found, Directory.contains_eq_false_iff.mpr found]
      exact ⟨rfl, tornDown_leaveAll sound found⟩
  | some connection =>
      rw [disconnect_of_find? serving found, Directory.contains_of_find? found]
      exact ⟨rfl, tornDown_depart sound found⟩

/-- Whatever has happened before, the end of a connection leaves nothing of its
identity, and ending it again is no change. A stopped exchange refuses. -/
theorem disconnect_tears_down (vocabulary : Vocabulary) (queueCapacity : Nat)
    (arrangement : Arrangement) (operations : List Operation) (identity : Identity) :
    let exchange := (start vocabulary queueCapacity arrangement).run operations
    let next := (exchange.disconnect identity).2
    (exchange.running = true →
      (exchange.disconnect identity).1 = .ok (exchange.directory.contains identity) ∧
        exchange.TornDown identity next ∧
        next.disconnect identity = (.ok false, next)) ∧
      (exchange.running = false →
        exchange.disconnect identity = (.error .stopped, exchange)) := by
  intro exchange next
  have sound : exchange.rooms.Sound := sound_run vocabulary queueCapacity arrangement operations
  constructor
  · intro serving
    obtain ⟨answered, tornDown⟩ := disconnect_of_running sound serving identity
    exact ⟨answered, tornDown, tornDown.disconnect serving⟩
  · exact disconnect_of_stopped

/-- Alice has been removed and then joins a room directly. The end of her
connection takes her out, and a stopped exchange leaves her there. -/
theorem disconnect_tears_down_straggler :
    let operations := slowReader ++ [.join "attic" ⟨"alice"⟩]
    let exchange := (start .standard 256).run operations
    let stopped := (start .standard 256).run (operations ++ [.stop])
    (exchange.running = true ∧ exchange.directory.contains ⟨"alice"⟩ = false ∧
        ⟨"alice"⟩ ∈ exchange.rooms.peers "attic" ∧
        (exchange.disconnect ⟨"alice"⟩).1 = .ok (exchange.directory.contains ⟨"alice"⟩) ∧
        exchange.TornDown ⟨"alice"⟩ (exchange.disconnect ⟨"alice"⟩).2) ∧
      stopped.running = false ∧
      stopped.disconnect ⟨"alice"⟩ = (.error .stopped, stopped) := by
  intro operations exchange stopped
  have serving : exchange.running = true := by decide +kernel
  have gone : exchange.directory.contains ⟨"alice"⟩ = false := by decide +kernel
  have isMember : ⟨"alice"⟩ ∈ exchange.rooms.peers "attic" := by decide +kernel
  have idle : stopped.running = false := by decide +kernel
  obtain ⟨answered, tornDown, _⟩ :=
    (disconnect_tears_down .standard 256 .byName operations ⟨"alice"⟩).1 serving
  have refused :=
    (disconnect_tears_down .standard 256 .byName (operations ++ [.stop]) ⟨"alice"⟩).2 idle
  exact ⟨⟨serving, gone, isMember, answered, tornDown⟩, idle, refused⟩

end Exchange

end Switchboard
