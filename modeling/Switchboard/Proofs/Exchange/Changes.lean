import Switchboard.Proofs.Exchange.Failure

/-!
# Deliveries and evictions

Serving requests that deliver frames comes down to two kinds of changes: a frame
is queued, or an identity departs. However many of them follow each other,
memberships end with evictions and in no other way, and no room is created.
-/

namespace Switchboard

open Relation

namespace Exchange

variable {exchange next last : Exchange} {identity sender : Identity} {room : String}
  {frame : Bytes} {request : Request}

/-- The single changes by which frames are delivered. -/
inductive Change (exchange : Exchange) : Exchange → Prop
  | queued {connection : Connection} {frame : Bytes} {next : Exchange}
      (accepted : exchange.enqueue connection frame = .ok next) : Change exchange next
  | departed {identity : Identity} {connection : Connection} {departure : Departure}
      (found : exchange.directory.find? identity = some connection) :
      Change exchange (exchange.depart identity departure)

/-- Any number of such changes, one after the other. -/
abbrev Changes : Exchange → Exchange → Prop :=
  ReflTransGen Change

/-- The identity has been registered, and is so no more. -/
def Evicts (exchange next : Exchange) (identity : Identity) : Prop :=
  exchange.directory.contains identity = true ∧ next.directory.contains identity = false

instance : Decidable (exchange.Evicts next identity) :=
  inferInstanceAs (Decidable (_ ∧ _))

/-! ## Requests -/

theorem changes_deliver (exchange : Exchange) (recipient : Identity) (frame : Bytes) :
    Changes exchange (exchange.deliver recipient frame).2 := by
  have outcome := exchange.delivery_deliver recipient frame
  generalize exchange.deliver recipient frame = result at outcome ⊢
  cases outcome with
  | stopped | unknown => exact .refl
  | queued _ _ accepted => exact .single (.queued accepted)
  | shed _ found => exact .single (.departed found)

theorem changes_serve (delivers : request.isDelivery = true) (exchange : Exchange) :
    Changes exchange (exchange.serve request).2 :=
  related_serve (fun _ => .refl) .trans changes_deliver delivers

theorem changes_unregister (exchange : Exchange) (identity : Identity) :
    Changes exchange (exchange.unregister identity).2 := by
  rcases exchange.unregister_snd identity with same | ⟨connection, found, departed⟩
  · rw [same]
  · rw [departed]
    exact .single (.departed found)

theorem Fails.changes {shed : Option Identity} (fails : exchange.Fails shed next) :
    Changes exchange next := by
  cases shed with
  | none =>
      rw [show next = exchange from fails]
  | some identity =>
      rcases fails with ⟨connection, refusal, found, rfl⟩
      exact .single (.departed found)

/-- A complaint is only made where carrying out the frame has done nothing but
evict, if anything. -/
theorem changes_of_complaint? (complained : exchange.complaint? sender frame = some request) :
    Changes exchange (exchange.dispatch sender frame).2 := by
  rcases complaint?_eq_some complained with ⟨error, failed, _⟩
  exact (fails_dispatch failed).changes

/-! ## What changes by them -/

theorem Change.step (change : exchange.Change next) : Steps exchange next := by
  cases change with
  | queued accepted => exact steps_of_enqueue accepted
  | departed found => exact .single (.departed found)

theorem Changes.steps (changes : Changes exchange next) : Steps exchange next := by
  induction changes with
  | refl => exact .refl
  | tail _ change ih => exact ih.trans change.step

theorem Steps.sound (steps : Steps exchange next) (sound : exchange.rooms.Sound) :
    next.rooms.Sound :=
  steps.preserve (fun _ _ sound step => step.sound sound) sound

theorem Steps.contains_of_contains (steps : Steps exchange next)
    (registered : next.directory.contains identity = true) :
    exchange.directory.contains identity = true := by
  rcases Directory.contains_iff_exists_find?.mp registered with ⟨connection, found⟩
  exact Directory.contains_of_find? (steps.find?_of_find? found)

theorem not_evicts_of_directory (same : next.directory = exchange.directory) :
    ¬exchange.Evicts next identity := by
  rintro ⟨before, after⟩
  rw [same, before] at after
  contradiction

/-- Whoever is evicted altogether is evicted somewhere on the way. -/
theorem Evicts.split (evicted : exchange.Evicts last identity) (between : Exchange) :
    exchange.Evicts between identity ∨ between.Evicts last identity := by
  cases known : between.directory.contains identity with
  | true => exact .inr ⟨known, evicted.2⟩
  | false => exact .inl ⟨evicted.1, known⟩

/-- Nobody is registered on the way, so whoever is evicted there is evicted
altogether. -/
theorem evicts_trans_iff (first : Steps exchange next) (second : Steps next last) :
    exchange.Evicts last identity ↔
      exchange.Evicts next identity ∨ next.Evicts last identity := by
  constructor
  · exact fun evicted => evicted.split next
  · rintro (⟨before, between⟩ | ⟨between, after⟩)
    · refine ⟨before, Bool.eq_false_iff.mpr fun after => ?_⟩
      rw [second.contains_of_contains after] at between
      contradiction
    · exact ⟨first.contains_of_contains between, after⟩

theorem Change.mem_peers (change : exchange.Change next) (sound : exchange.rooms.Sound) :
    identity ∈ next.rooms.peers room ↔
      identity ∈ exchange.rooms.peers room ∧ ¬exchange.Evicts next identity := by
  cases change with
  | queued accepted =>
      rcases enqueue_ok_frame accepted with ⟨_, directory, rooms, _⟩
      simp [Evicts, directory, rooms]
  | @departed other connection departure found =>
      have known := Directory.contains_of_find? found
      rw [rooms_depart found, sound.mem_peers_leaveAll, Evicts, directory_depart found,
        Directory.contains_erase]
      by_cases same : identity = other
      · subst same
        simp [known]
      · simp [same]

/-- Memberships end with evictions, and in no other way. -/
theorem Changes.mem_peers (changes : Changes exchange next) (sound : exchange.rooms.Sound) :
    identity ∈ next.rooms.peers room ↔
      identity ∈ exchange.rooms.peers room ∧ ¬exchange.Evicts next identity := by
  induction changes with
  | refl => simp [Evicts]
  | tail earlier change ih =>
      have steps := Changes.steps earlier
      rw [change.mem_peers (steps.sound sound), ih, evicts_trans_iff steps change.step]
      tauto

/-- Alice and Carol are the members of the hall, and their mailboxes are full.
Only Bob has room for another frame. -/
def fullHall : List Operation :=
  [.openMailbox 1, .openMailbox 4, .openMailbox 1,
    .request (.register ⟨"alice"⟩ 0), .request (.register ⟨"bob"⟩ 1),
    .request (.register ⟨"carol"⟩ 2), .join "hall" ⟨"alice"⟩, .join "hall" ⟨"carol"⟩,
    .request (.broadcast [1] none)]

/-- Alice and Bob share a connection, and Carol has one of her own. -/
def sharedLine : List Operation :=
  [.openMailbox 4, .openMailbox 4, .request (.register ⟨"alice"⟩ 0),
    .request (.register ⟨"bob"⟩ 0), .request (.register ⟨"carol"⟩ 1)]

end Exchange

end Switchboard
