import Switchboard.Proofs.Exchange.Gains
import Switchboard.Proofs.Rooms.Lifetime

/-!
# What a departure takes along

An identity that departs leaves the directory and all its rooms. The writing
side of its mailbox is closed, and what is queued there stays readable. Nobody
else is touched, and the log tells exactly what has happened.
-/

namespace Switchboard

namespace Exchange

variable {exchange : Exchange} {identity : Identity} {connection : Connection}

/-- An exchange loses one of its identities, which departs for some reason, and
nothing else. -/
structure Loses (exchange : Exchange) (identity : Identity) (departure : Departure)
    (next : Exchange) : Prop where
  registrations : ∀ other, next.directory.find? other =
    if other = identity then none else exchange.directory.find? other
  memberships : ∀ room member, member ∈ next.rooms.peers room ↔
    member ∈ exchange.rooms.peers room ∧ member ≠ identity
  /-- A room without members is not kept. -/
  sound : next.rooms.Sound
  /-- The mailbox of the identity is closed, and the others stay as they are. -/
  mailboxes : ∀ connection : Connection, next.mailboxes[connection]? =
    if exchange.directory.find? identity = some connection
      then exchange.mailboxes[connection]?.map Mailbox.close
      else exchange.mailboxes[connection]?
  /-- No queue loses or gains a frame. -/
  queues : ∀ connection, next.queuedFor connection = exchange.queuedFor connection
  log : next.log.toList = exchange.log.toList ++ (departure.warnings identity ++
    (exchange.rooms.deserted identity).map .roomDestroyed ++ [.disconnected identity departure])
  settings : next.running = exchange.running ∧ next.vocabulary = exchange.vocabulary ∧
    next.queueCapacity = exchange.queueCapacity

theorem loses_depart (sound : exchange.rooms.Sound)
    (found : exchange.directory.find? identity = some connection) (departure : Departure) :
    exchange.Loses identity departure (exchange.depart identity departure) where
  registrations other := by rw [directory_depart found, Directory.find?_erase]
  memberships room member := by rw [rooms_depart found, sound.mem_peers_leaveAll]
  sound := by
    rw [rooms_depart found]
    exact sound.leaveAll identity
  mailboxes other := by
    rw [getElem?_depart found]
    simp only [found, Option.some.injEq, eq_comm]
  queues _ := queuedFor_depart found
  log := by rw [log_depart found, sound.leaveAll_snd]
  settings := by
    rw [depart_eq found]
    exact ⟨rfl, rfl, rfl⟩

end Exchange

end Switchboard
