import Switchboard.Proofs.Rooms

/-!
# The life of a room

A room exists as long as it has members. Whatever is done to the rooms, the
events tell of each room how it comes and goes: a room that did not exist is
created, one that has lost its last member is destroyed, and nothing is told of
the others.
-/

namespace Switchboard

open Event

namespace Rooms

variable {rooms next last : Rooms} {room other : String} {identity : Identity}
  {events later : List Event}

/-- Some events tell how rooms have changed. What they tell of each room takes
turns, and as many rooms are created as are destroyed or added. -/
structure Tells (rooms next : Rooms) (events : List Event) : Prop where
  switches : ∀ room, Switches (rooms.hasMembers room) (existence room events)
    (next.hasMembers room)
  balance : (events.countP fun event => event.kind = .roomCreated) + rooms.count =
    (events.countP fun event => event.kind = .roomDestroyed) + next.count

namespace Tells

theorem trans (first : Tells rooms next events) (second : Tells next last later) :
    Tells rooms last (events ++ later) := by
  constructor
  · intro room
    rw [existence_append]
    exact (first.switches room).trans (second.switches room)
  · have balanced := first.balance
    have balancedLater := second.balance
    rw [List.countP_append, List.countP_append]
    omega

/-- Nothing is told when the same rooms exist. -/
theorem nil (exist : ∀ room, next.hasMembers room = rooms.hasMembers room)
    (count : next.count = rooms.count) : Tells rooms next [] := by
  constructor
  · intro room
    rw [exist]
    exact Switches.refl _
  · rw [count]
    rfl

/-- Events about connections tell nothing of rooms. -/
theorem of_silent (silent : ∀ event ∈ events, ¬event.IsAboutRoom) : Tells rooms rooms events := by
  have untold : ∀ room, existence room events = [] := by
    intro room
    rw [existence, List.filterMap_eq_nil_iff]
    intro event listed
    cases event with
    | connected | disconnected | messageDropped => rfl
    | roomCreated other => exact absurd ⟨other, .inl rfl⟩ (silent _ listed)
    | roomDestroyed other => exact absurd ⟨other, .inr rfl⟩ (silent _ listed)
  have uncounted : ∀ test : Event → Bool, (∀ event, test event = true → event.IsAboutRoom) →
      events.countP test = 0 := by
    intro test only
    rw [List.countP_eq_zero]
    exact fun event listed counted => silent event listed (only event counted)
  constructor
  · intro room
    rw [untold]
    exact Switches.refl _
  · rw [uncounted, uncounted]
    · rintro (_ | _ | _ | _ | room) told
      all_goals first | exact ⟨room, .inr rfl⟩ | contradiction
    · rintro (_ | _ | _ | room | _) told
      all_goals first | exact ⟨room, .inl rfl⟩ | contradiction

theorem created (absent : rooms.hasMembers room = false)
    (exist : ∀ other, next.hasMembers other = (decide (other = room) || rooms.hasMembers other))
    (count : next.count = rooms.count + 1) : Tells rooms next [.roomCreated room] := by
  constructor
  · intro other
    rw [exist other]
    by_cases same : other = room
    · subst same
      simpa [existence, existence?, absent] using Switches.single Bool.false_ne_true
    · simpa [existence, existence?, same, Ne.symm same] using Switches.refl _
  · rw [count]
    simp [kind]
    omega

theorem destroyed (present : rooms.hasMembers room = true)
    (exist : ∀ other, next.hasMembers other = (decide (other ≠ room) && rooms.hasMembers other))
    (count : next.count + 1 = rooms.count) : Tells rooms next [.roomDestroyed room] := by
  constructor
  · intro other
    rw [exist other]
    by_cases same : other = room
    · subst same
      simpa [existence, existence?, present] using Switches.single (Ne.symm Bool.false_ne_true)
    · simpa [existence, existence?, same, Ne.symm same] using Switches.refl _
  · rw [← count]
    simp [kind]
    omega

/-- When rooms only come, or only go, the events tell of every change and of
nothing else. -/
theorem existence_eq {turn : Bool} (tells : Tells rooms next events)
    (others : ∀ event ∈ events, event.kind ≠ kindOfTurn !turn) (room : String) :
    existence room events =
      if next.hasMembers room = rooms.hasMembers room then [] else [next.hasMembers room] :=
  (tells.switches room).eq_of_steady (steady_existence others room)

end Tells

/-! ## Joining -/

theorem hasMembers_join (joined : rooms.join room identity = .ok (next, events)) (other : String) :
    next.hasMembers other = (decide (other = room) || rooms.hasMembers other) := by
  rw [Bool.eq_iff_iff, Bool.or_eq_true, decide_eq_true_iff, hasMembers_eq_true_iff,
    hasMembers_eq_true_iff]
  simp only [mem_peers_join joined, exists_or, exists_and_left, exists_eq, and_true]

/-- Only the first member creates a room. -/
theorem Sound.tells_join (sound : rooms.Sound)
    (joined : rooms.join room identity = .ok (next, events)) : Tells rooms next events := by
  have exist := hasMembers_join joined
  have soundNext := sound.join joined
  rcases join_eq_ok_iff.mp joined with ⟨_, rfl, rfl⟩
  by_cases present : rooms.table.contains room
  · rw [if_pos present]
    apply Tells.nil
    · intro other
      rw [exist]
      by_cases same : other = room
      · rw [same, sound.hasMembers_eq, present, Bool.or_true]
      · rw [decide_eq_false same, Bool.false_or]
    · rw [soundNext.count_eq, sound.count_eq, Std.ExtTreeMap.size_insert, if_pos present]
  · rw [if_neg present]
    apply Tells.created
    · rw [sound.hasMembers_eq, Bool.eq_false_iff.mpr present]
    · exact exist
    · rw [soundNext.count_eq, sound.count_eq, Std.ExtTreeMap.size_insert, if_neg present]

theorem eq_roomCreated_of_mem_join (joined : rooms.join room identity = .ok (next, events))
    {event : Event} (listed : event ∈ events) : event = .roomCreated room := by
  rcases join_eq_ok_iff.mp joined with ⟨_, _, rfl⟩
  split at listed
  · contradiction
  · exact List.mem_singleton.mp listed

/-- Joining again creates nothing. -/
theorem eq_nil_of_join_member (isMember : identity ∈ rooms.peers room)
    (joined : rooms.join room identity = .ok (next, events)) : events = [] := by
  rcases join_eq_ok_iff.mp joined with ⟨_, _, rfl⟩
  have present : rooms.table.contains room = true := by
    have listed := (List.mem_filter.mp (mem_roomsOf.mpr isMember)).1
    exact Std.ExtTreeMap.contains_iff_mem.mpr (Std.ExtTreeMap.mem_keys.mp listed)
  rw [if_pos present]

/-! ## Leaving -/

/-- Only the last member destroys a room. -/
theorem Sound.tells_leave (sound : rooms.Sound)
    (left : rooms.leave room identity = .ok (next, events)) : Tells rooms next events := by
  have soundNext := sound.leave left
  rcases leave_eq_ok_iff.mp left with ⟨_, members, found, outcome⟩
  have kept : rooms.table.contains room = true := by
    rw [Std.ExtTreeMap.contains_eq_isSome_getElem?, found, Option.isSome_some]
  have present : rooms.hasMembers room = true := by
    rw [sound.hasMembers_eq, kept]
  by_cases emptied : (members.erase identity).isEmpty
  · rw [if_pos emptied, Prod.mk.injEq] at outcome
    rcases outcome with ⟨rfl, rfl⟩
    apply Tells.destroyed present
    · intro other
      rw [soundNext.hasMembers_eq, sound.hasMembers_eq,
        Std.ExtTreeMap.contains_eq_isSome_getElem?, getElem?_erase_table,
        Std.ExtTreeMap.contains_eq_isSome_getElem?]
      by_cases same : other = room <;> simp [same]
    · rw [soundNext.count_eq, sound.count_eq]
      exact size_erase_of_contains kept
  · rw [if_neg emptied, Prod.mk.injEq] at outcome
    rcases outcome with ⟨rfl, rfl⟩
    apply Tells.nil
    · intro other
      rw [soundNext.hasMembers_eq, sound.hasMembers_eq,
        Std.ExtTreeMap.contains_eq_isSome_getElem?, getElem?_insert_table,
        Std.ExtTreeMap.contains_eq_isSome_getElem?]
      by_cases same : other = room
      · subst same
        rw [if_pos rfl, found]
        rfl
      · rw [if_neg same]
    · rw [soundNext.count_eq, sound.count_eq, Std.ExtTreeMap.size_insert, if_pos kept]

/-- A stranger who leaves destroys nothing. -/
theorem Sound.eq_nil_of_leave_stranger (sound : rooms.Sound)
    (stranger : identity ∉ rooms.peers room)
    (left : rooms.leave room identity = .ok (next, events)) : events = [] := by
  rcases leave_eq_ok_iff.mp left with ⟨_, members, found, outcome⟩
  have known : rooms.peers room = members := by
    rw [peers_eq, found, Option.getD_some]
  have unmoved : members.erase identity = members := by
    apply Std.ExtTreeSet.ext_mem
    intro member
    rw [Std.ExtTreeSet.mem_erase, ne_eq, Std.LawfulEqCmp.compare_eq_iff_eq,
      and_iff_right_iff_imp]
    rintro isMember rfl
    rw [known] at stranger
    exact stranger isMember
  rw [unmoved, sound.occupied room members found, if_neg Bool.false_ne_true,
    Prod.mk.injEq] at outcome
  exact outcome.2

theorem Sound.tells_leaveEach {names : List String} (sound : rooms.Sound) :
    Tells rooms (Rooms.leaveEach identity names rooms).1
      (Rooms.leaveEach identity names rooms).2 := by
  induction names generalizing rooms with
  | nil => exact .nil (fun _ => rfl) rfl
  | cons first rest ih =>
      rw [Rooms.leaveEach]
      split
      · exact ih sound
      · rename_i left
        exact (sound.tells_leave left).trans (ih (sound.leave left))

theorem Sound.tells_leaveAll (sound : rooms.Sound) (identity : Identity) :
    Tells rooms (rooms.leaveAll identity).1 (rooms.leaveAll identity).2 :=
  sound.tells_leaveEach

/-! ## Deserted rooms -/

/-- The identity is the only one that can be in the room. -/
def isAlone (rooms : Rooms) (identity : Identity) (room : String) : Bool :=
  ((rooms.peers room).erase identity).isEmpty

/-- The rooms with no other member than an identity, in order. -/
def deserted (rooms : Rooms) (identity : Identity) : List String :=
  (rooms.roomsOf identity).filter (rooms.isAlone identity)

theorem isAlone_eq_true_iff :
    rooms.isAlone identity room = true ↔ ∀ member ∈ rooms.peers room, member = identity := by
  rw [isAlone, Std.ExtTreeSet.isEmpty_iff, Std.ExtTreeSet.eq_empty_iff_forall_not_mem]
  simp only [Std.ExtTreeSet.mem_erase, ne_eq, Std.LawfulEqCmp.compare_eq_iff_eq, not_and]
  constructor
  · intro alone member isMember
    by_contra apart
    exact alone member (Ne.symm apart) isMember
  · intro alone member apart isMember
    exact apart (alone member isMember).symm

theorem mem_deserted :
    room ∈ rooms.deserted identity ↔
      identity ∈ rooms.peers room ∧ ∀ member ∈ rooms.peers room, member = identity := by
  rw [deserted, List.mem_filter, mem_roomsOf, isAlone_eq_true_iff]

/-- A member can leave, and destroys the room when it is alone there. -/
theorem Sound.exists_leave_eq_ok (sound : rooms.Sound) (isMember : identity ∈ rooms.peers room) :
    ∃ next, rooms.leave room identity =
      .ok (next, if rooms.isAlone identity room then [.roomDestroyed room] else []) := by
  cases outcome : rooms.leave room identity with
  | error error =>
      rw [sound.peers_of_leave_eq_error outcome] at isMember
      exact absurd isMember Std.ExtTreeSet.not_mem_empty
  | ok result =>
      rcases result with ⟨next, events⟩
      rcases leave_eq_ok_iff.mp outcome with ⟨_, members, found, change⟩
      use next
      rw [isAlone, peers_eq, found, Option.getD_some]
      by_cases emptied : (members.erase identity).isEmpty
      · rw [if_pos emptied, Prod.mk.injEq] at change
        rw [if_pos emptied, change.2]
      · rw [if_neg emptied, Prod.mk.injEq] at change
        rw [if_neg emptied, change.2]

theorem Sound.leaveEach_snd {names : List String} (sound : rooms.Sound) (distinct : names.Nodup)
    (inside : ∀ room ∈ names, identity ∈ rooms.peers room) :
    (Rooms.leaveEach identity names rooms).2 =
      (names.filter (rooms.isAlone identity)).map .roomDestroyed := by
  induction names generalizing rooms with
  | nil => rfl
  | cons room rest ih =>
      rw [List.nodup_cons] at distinct
      rw [List.forall_mem_cons] at inside
      rcases sound.exists_leave_eq_ok inside.1 with ⟨next, left⟩
      have unmoved : ∀ other ∈ rest, next.peers other = rooms.peers other := by
        intro other listed
        rw [peers_leave left, if_neg (ne_of_mem_of_not_mem listed distinct.1)]
      have later := ih (sound.leave left) distinct.2 fun other listed =>
        (unmoved other listed).symm ▸ inside.2 other listed
      have alike : rest.filter (next.isAlone identity) = rest.filter (rooms.isAlone identity) :=
        List.filter_congr fun other listed => by rw [isAlone, isAlone, unmoved other listed]
      rw [Rooms.leaveEach, left]
      dsimp only
      rw [later, alike, List.filter_cons]
      split <;> rfl

/-- Whoever leaves everything destroys the rooms where nobody else is, each once
and in order. -/
theorem Sound.leaveAll_snd (sound : rooms.Sound) (identity : Identity) :
    (rooms.leaveAll identity).2 = (rooms.deserted identity).map .roomDestroyed :=
  sound.leaveEach_snd (Std.ExtTreeMap.nodup_keys.filter _) fun _ listed => mem_roomsOf.mp listed

end Rooms

end Switchboard
