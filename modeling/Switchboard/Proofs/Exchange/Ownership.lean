import Switchboard.Proofs.Exchange.Step

/-!
# Connections of one's own

Everybody registers with a connection of their own. Then what happens to one
identity, be it a delivery or a departure, leaves the mailboxes of all others
as they are. Nothing but a registration can bring two identities together on
one connection.
-/

namespace Switchboard

namespace Exchange

variable {exchange next : Exchange} {identity recipient : Identity}
  {connection other : Connection} {frame : Bytes} {departure : Departure}

/-- No two identities are registered with the same connection. -/
def Apart (exchange : Exchange) : Prop :=
  ∀ first second connection, exchange.directory.find? first = some connection →
    exchange.directory.find? second = some connection → first = second

/-- Whoever is registered by the operation brings a connection with which
nobody is registered. -/
def bringsOwn (exchange : Exchange) : Operation → Bool
  | .request (.register _ connection) =>
      exchange.directory.entries.all fun entry => entry.2 ≠ connection
  | _ => true

/-- Everybody who is registered in a run brings a connection of their own. -/
def bringOwn : Exchange → List Operation → Bool
  | _, [] => true
  | exchange, operation :: rest =>
      exchange.bringsOwn operation && (exchange.perform operation).2.bringOwn rest

/-! ## Mailboxes -/

theorem getElem?_enqueue (queued : exchange.enqueue connection frame = .ok next)
    (other : Connection) :
    next.mailboxes[other]? = if other = connection
      then exchange.mailboxes[other]?.bind fun mailbox => (mailbox.enqueue frame).toOption
      else exchange.mailboxes[other]? := by
  obtain ⟨mailbox, filled, found, accepted, rfl⟩ := enqueue_eq_ok_iff.mp queued
  have inside : connection < exchange.mailboxes.size := (Array.getElem?_eq_some_iff.mp found).choose
  rw [Array.getElem?_setIfInBounds]
  by_cases same : other = connection
  · subst same
    rw [if_pos rfl, if_pos rfl, if_pos inside, found, Option.bind_some, accepted]
    rfl
  · rw [if_neg (Ne.symm same), if_neg same]

theorem getElem?_depart (found : exchange.directory.find? identity = some connection)
    (other : Connection) :
    (exchange.depart identity departure).mailboxes[other]? = if other = connection
      then exchange.mailboxes[other]?.map Mailbox.close
      else exchange.mailboxes[other]? := by
  rw [mailboxes_depart found, Array.getElem?_modify]
  by_cases same : other = connection
  · rw [if_pos same.symm, if_pos same]
  · rw [if_neg (Ne.symm same), if_neg same]

/-! ## Registrations -/

/-- A step registers nobody anew. -/
theorem Step.find?_of_find? (step : exchange.Step next)
    (found : next.directory.find? identity = some connection) :
    exchange.directory.find? identity = some connection := by
  cases step with
  | opened | altered | leftAll | stopped => exact found
  | joined => rwa [directory_join] at found
  | left => rwa [directory_leave] at found
  | departed known =>
      rw [directory_depart known, Directory.find?_erase] at found
      split at found
      · contradiction
      · exact found

theorem Steps.find?_of_find? (steps : Steps exchange next)
    (found : next.directory.find? identity = some connection) :
    exchange.directory.find? identity = some connection := by
  induction steps with
  | refl => exact found
  | tail _ step ih => exact ih (step.find?_of_find? found)

theorem Apart.steps (apart : exchange.Apart) (steps : Steps exchange next) : next.Apart := by
  intro first second connection isFirst isSecond
  exact apart first second connection (steps.find?_of_find? isFirst) (steps.find?_of_find? isSecond)

theorem Apart.arrive {directory : Directory Connection} (apart : exchange.Apart)
    (own : exchange.bringsOwn (.request (.register identity connection)) = true)
    (added : exchange.directory.add identity connection = .ok directory) :
    ({ exchange with directory }.record [.connected identity]).Apart := by
  have unused : ∀ known, exchange.directory.find? known ≠ some connection := by
    intro known found
    simpa using List.all_eq_true.mp own _ (Directory.mem_entries_iff.mpr found)
  intro first second shared isFirst isSecond
  change directory.find? first = some shared at isFirst
  change directory.find? second = some shared at isSecond
  rw [Directory.find?_add added] at isFirst isSecond
  split at isFirst <;> split at isSecond
  · rename_i isNew alsoNew
    rw [isNew, alsoNew]
  · cases isFirst
    exact absurd isSecond (unused second)
  · cases isSecond
    exact absurd isFirst (unused first)
  · exact apart first second shared isFirst isSecond

theorem Apart.perform {operation : Operation} (apart : exchange.Apart)
    (own : exchange.bringsOwn operation = true) : (exchange.perform operation).2.Apart := by
  have performed := exchange.performed_perform operation
  generalize (exchange.perform operation).2 = next at performed ⊢
  cases performed with
  | joined =>
      intro first second connection isFirst isSecond
      rw [directory_join] at isFirst isSecond
      exact apart first second connection isFirst isSecond
  | arrived added => exact apart.arrive own added
  | stepped steps => exact apart.steps steps

/-- Only one identity is registered with a connection. -/
theorem Apart.length_le_one (apart : exchange.Apart) {identities : List Identity}
    (distinct : identities.Nodup)
    (sharing : ∀ identity ∈ identities, exchange.directory.find? identity = some connection) :
    identities.length ≤ 1 := by
  match identities with
  | [] | [_] => simp
  | first :: second :: rest =>
      have same : first = second :=
        apart first second connection (sharing first (by simp)) (sharing second (by simp))
      simp [same] at distinct

theorem apart_start (vocabulary : Vocabulary) (queueCapacity : Nat) (arrangement : Arrangement) :
    (start vocabulary queueCapacity arrangement).Apart := by
  intro first second connection isFirst
  rw [start, Directory.find?_empty] at isFirst
  contradiction

end Exchange

end Switchboard
