import Switchboard.Proofs.Exchange.Step

/-!
# Members are registered

An identity that departs takes its memberships with it, and only registered
identities can join by a frame. So nobody is left behind in a room, however
a registration ends, as long as nobody is made a member directly.
-/

namespace Switchboard

/-- The operation makes somebody a member of a room without being asked by a
frame. -/
def Operation.isJoin : Operation → Bool
  | .join _ _ => true
  | _ => false

namespace Exchange

variable {exchange next : Exchange} {room other : String} {identity member : Identity}

/-- Rooms are sound, and all their members are registered. -/
structure Populated (exchange : Exchange) : Prop where
  sound : exchange.rooms.Sound
  registered : ∀ room identity, identity ∈ exchange.rooms.peers room →
    exchange.directory.contains identity = true

theorem populated_start (vocabulary : Vocabulary) (queueCapacity : Nat)
    (arrangement : Arrangement) :
    (start vocabulary queueCapacity arrangement).Populated where
  sound := Rooms.sound_empty
  registered room identity isMember := by
    rw [start, Rooms.peers_empty] at isMember
    exact absurd isMember Std.ExtTreeSet.not_mem_empty

/-! ## Rooms of an exchange -/

theorem sound_join (sound : exchange.rooms.Sound) :
    (exchange.join room identity).2.rooms.Sound := by
  rw [join]
  split
  · exact sound
  · rename_i joined
    exact sound.join joined

theorem sound_leave (sound : exchange.rooms.Sound) :
    (exchange.leave room identity).2.rooms.Sound := by
  rw [leave]
  split
  · exact sound
  · rename_i left
    exact sound.leave left

/-- Whoever is a member after somebody has joined is that identity, or has
been a member before. -/
theorem mem_peers_of_join (isMember : member ∈ (exchange.join room identity).2.rooms.peers other) :
    member = identity ∨ member ∈ exchange.rooms.peers other := by
  rw [join] at isMember
  split at isMember
  · exact .inr isMember
  · rename_i joined
    exact ((Rooms.mem_peers_join joined).mp isMember).imp_left And.right

theorem mem_peers_of_leave
    (isMember : member ∈ (exchange.leave room identity).2.rooms.peers other) :
    member ∈ exchange.rooms.peers other := by
  rw [leave] at isMember
  split at isMember
  · exact isMember
  · rename_i left
    exact ((Rooms.mem_peers_leave left).mp isMember).1

/-! ## Steps and runs -/

/-- Rooms stay sound in every step. -/
theorem Step.sound (step : exchange.Step next) (sound : exchange.rooms.Sound) :
    next.rooms.Sound := by
  cases step with
  | opened | altered | stopped => exact sound
  | departed found =>
      rw [rooms_depart found]
      exact sound.leaveAll _
  | joined => exact sound_join sound
  | left => exact sound_leave sound
  | leftAll => exact sound.leaveAll _

theorem sound_perform (operation : Operation) (sound : exchange.rooms.Sound) :
    (exchange.perform operation).2.rooms.Sound := by
  have performed := exchange.performed_perform operation
  generalize (exchange.perform operation).2 = next at performed ⊢
  cases performed with
  | joined => exact sound_join sound
  | arrived => exact sound
  | stepped steps => exact steps.preserve (fun _ _ sound step => step.sound sound) sound

/-- Rooms are sound whatever happens, direct joins included. -/
theorem sound_run (vocabulary : Vocabulary) (queueCapacity : Nat)
    (arrangement : Arrangement) (operations : List Operation) :
    ((start vocabulary queueCapacity arrangement).run operations).rooms.Sound := by
  have initial : (start vocabulary queueCapacity arrangement).rooms.Sound := Rooms.sound_empty
  exact @run_preserve _ (fun exchange => exchange.rooms.Sound) _
    (fun operation _ _ sound => sound_perform operation sound) initial

theorem Populated.step (populated : exchange.Populated) (step : exchange.Step next) :
    next.Populated := by
  refine ⟨step.sound populated.sound, ?_⟩
  cases step with
  | opened | altered | stopped => exact populated.registered
  | departed found =>
      intro room member isMember
      rw [rooms_depart found, populated.sound.mem_peers_leaveAll] at isMember
      rw [directory_depart found, Directory.contains_erase,
        populated.registered room member isMember.1]
      simp [isMember.2]
  | joined registered =>
      intro other member isMember
      rw [directory_join]
      rcases mem_peers_of_join isMember with rfl | before
      · exact registered
      · exact populated.registered other member before
  | left =>
      intro other member isMember
      rw [directory_leave]
      exact populated.registered other member (mem_peers_of_leave isMember)
  | leftAll =>
      intro other member isMember
      exact populated.registered other member (populated.sound.mem_peers_leaveAll.mp isMember).1

theorem Populated.arrive {connection : Connection} {directory : Directory Connection}
    (populated : exchange.Populated)
    (added : exchange.directory.add identity connection = .ok directory) :
    ({ exchange with directory }.record [.connected identity]).Populated := by
  constructor
  · exact populated.sound
  · intro room member isMember
    rw [directory_record, Directory.contains_add added, populated.registered room member isMember,
      Bool.or_true]

theorem Populated.perform {operation : Operation} (populated : exchange.Populated)
    (indirect : operation.isJoin = false) : (exchange.perform operation).2.Populated := by
  have performed := exchange.performed_perform operation
  generalize (exchange.perform operation).2 = next at performed ⊢
  cases performed with
  | joined => contradiction
  | arrived added => exact populated.arrive added
  | stepped steps => exact steps.preserve (fun _ _ holds step => holds.step step) populated

/-- Whatever happens except direct joins, every member of a room is registered. -/
theorem members_are_registered {vocabulary : Vocabulary} {queueCapacity : Nat}
    {arrangement : Arrangement} {operations : List Operation}
    (indirect : ∀ operation ∈ operations, operation.isJoin = false)
    (isMember :
      identity ∈ ((start vocabulary queueCapacity arrangement).run operations).rooms.peers room) :
    ((start vocabulary queueCapacity arrangement).run operations).directory.contains identity =
      true := by
  have populated : ((start vocabulary queueCapacity arrangement).run operations).Populated :=
    run_preserve (fun operation listed _ holds => holds.perform (indirect operation listed))
      (populated_start vocabulary queueCapacity arrangement)
  exact populated.registered room identity isMember

theorem members_are_registered_slowReader :
    let exchange := (start .standard 256).run slowReader
    (∀ operation ∈ slowReader, operation.isJoin = false) ∧
      ⟨"bob"⟩ ∈ exchange.rooms.peers "lobby" ∧
      exchange.directory.contains ⟨"bob"⟩ = true := by
  have isMember : ⟨"bob"⟩ ∈ ((start .standard 256).run slowReader).rooms.peers "lobby" := by
    decide +kernel
  exact ⟨by decide, isMember, members_are_registered (by decide) isMember⟩

end Exchange

end Switchboard
