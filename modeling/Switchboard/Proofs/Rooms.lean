import Switchboard.Proofs.Directory
import Switchboard.Proofs.Event
import Switchboard.Rooms

/-!
# Membership of rooms

What joining and leaving do is said through the members of each room. Joining
adds one member to one room, leaving takes one member out of one room, and
leaving everything takes one identity out of all of them. Only rooms that have
a name and members are kept.
-/

namespace Switchboard

namespace Rooms

variable {rooms next : Rooms} {room other : String} {identity member : Identity}
  {events : List Event}

/-- Only rooms with a name and with members are kept. -/
structure Sound (rooms : Rooms) : Prop where
  named : rooms.table[""]? = none
  occupied : ∀ (room : String) (members : IdentitySet),
    rooms.table[room]? = some members → members.isEmpty = false

theorem sound_empty : empty.Sound where
  named := Std.ExtTreeMap.getElem?_empty
  occupied room members found := by
    rw [empty, Std.ExtTreeMap.getElem?_empty] at found
    contradiction

theorem peers_eq (rooms : Rooms) (room : String) :
    rooms.peers room = rooms.table[room]?.getD ∅ :=
  Std.ExtTreeMap.getD_eq_getD_getElem?

@[simp]
theorem peers_empty (room : String) : empty.peers room = ∅ := by
  rw [peers_eq, empty, Std.ExtTreeMap.getElem?_empty, Option.getD_none]

theorem exists_mem_of_isEmpty_eq_false {members : IdentitySet}
    (occupied : members.isEmpty = false) : ∃ member, member ∈ members := by
  rw [← Std.ExtTreeSet.isEmpty_toList, List.isEmpty_eq_false_iff_exists_mem] at occupied
  obtain ⟨member, listed⟩ := occupied
  exact ⟨member, Std.ExtTreeSet.mem_toList.mp listed⟩

theorem Sound.peers_nameless (sound : rooms.Sound) : rooms.peers "" = ∅ := by
  rw [peers_eq, sound.named]
  rfl

theorem mem_roomsOf : room ∈ rooms.roomsOf identity ↔ identity ∈ rooms.peers room := by
  rw [roomsOf, List.mem_filter, Std.ExtTreeSet.contains_iff_mem, and_iff_right_iff_imp]
  intro isMember
  rw [Std.ExtTreeMap.mem_keys, Std.ExtTreeMap.mem_iff_isSome_getElem?]
  cases found : rooms.table[room]? with
  | none =>
      rw [peers_eq, found] at isMember
      simp at isMember
  | some members => rfl

/-- Exactly the rooms with members are kept. -/
theorem Sound.isSome_getElem?_iff (sound : rooms.Sound) :
    (rooms.table[room]?).isSome = true ↔ ∃ member, member ∈ rooms.peers room := by
  rw [peers_eq]
  cases found : rooms.table[room]? with
  | none => simp
  | some members => simpa using exists_mem_of_isEmpty_eq_false (sound.occupied room members found)

theorem hasMembers_eq_true_iff :
    rooms.hasMembers room = true ↔ ∃ member, member ∈ rooms.peers room := by
  rw [hasMembers, Bool.not_eq_true']
  constructor
  · exact exists_mem_of_isEmpty_eq_false
  · rintro ⟨member, isMember⟩
    rw [Std.ExtTreeSet.isEmpty_eq_false_iff]
    intro vacant
    rw [vacant] at isMember
    exact Std.ExtTreeSet.not_mem_empty isMember

theorem Sound.hasMembers_eq (sound : rooms.Sound) (room : String) :
    rooms.hasMembers room = rooms.table.contains room := by
  rw [Bool.eq_iff_iff, hasMembers_eq_true_iff, Std.ExtTreeMap.contains_eq_isSome_getElem?,
    sound.isSome_getElem?_iff]

/-- Every room that is kept is counted. -/
theorem Sound.count_eq (sound : rooms.Sound) : rooms.count = rooms.table.size := by
  rw [count, Std.ExtTreeMap.size_filter_eq_size_iff]
  intro room kept
  have occupied := sound.occupied room _ (Std.ExtTreeMap.getElem?_eq_some_getElem kept)
  rw [occupied, Bool.not_false]

theorem getElem?_insert_table (table : Std.ExtTreeMap String IdentitySet Text.byteOrder)
    (room other : String) (members : IdentitySet) :
    (table.insert room members)[other]? = if other = room then some members else table[other]? := by
  rw [Std.ExtTreeMap.getElem?_insert]
  by_cases same : other = room
  · simp [same]
  · rw [if_neg (mt Std.LawfulEqCmp.eq_of_compare (Ne.symm same)), if_neg same]

theorem getElem?_erase_table (table : Std.ExtTreeMap String IdentitySet Text.byteOrder)
    (room other : String) :
    (table.erase room)[other]? = if other = room then none else table[other]? := by
  rw [Std.ExtTreeMap.getElem?_erase]
  by_cases same : other = room
  · simp [same]
  · rw [if_neg (mt Std.LawfulEqCmp.eq_of_compare (Ne.symm same)), if_neg same]

/-! ## Joining -/

theorem join_eq_ok_iff :
    rooms.join room identity = .ok (next, events) ↔
      room ≠ "" ∧ next = ⟨rooms.table.insert room ((rooms.peers room).insert identity)⟩ ∧
        events = if rooms.table.contains room then [] else [.roomCreated room] := by
  rw [join]
  by_cases nameless : room = ""
  · simp [nameless]
  · rw [if_neg nameless, Except.ok.injEq, Prod.mk.injEq]
    simp only [nameless, ne_eq, not_false_eq_true, true_and]
    exact and_congr eq_comm eq_comm

theorem join_eq_error_iff {error : RoomError} :
    rooms.join room identity = .error error ↔ room = "" ∧ error = .nameMissing := by
  rw [join]
  by_cases nameless : room = ""
  · simp [nameless, eq_comm]
  · simp [nameless]

theorem peers_join (joined : rooms.join room identity = .ok (next, events)) (other : String) :
    next.peers other =
      if other = room then (rooms.peers room).insert identity else rooms.peers other := by
  obtain ⟨_, rfl, _⟩ := join_eq_ok_iff.mp joined
  rw [peers_eq, getElem?_insert_table]
  by_cases same : other = room
  · simp [same]
  · simp [same, peers_eq]

theorem mem_peers_join (joined : rooms.join room identity = .ok (next, events)) :
    member ∈ next.peers other ↔
      (other = room ∧ member = identity) ∨ member ∈ rooms.peers other := by
  rw [peers_join joined]
  by_cases same : other = room
  · subst same
    rw [if_pos rfl, Std.ExtTreeSet.mem_insert, Std.LawfulEqCmp.compare_eq_iff_eq]
    simp [eq_comm]
  · simp [same]

theorem isAboutRoom_of_mem_join (joined : rooms.join room identity = .ok (next, events)) :
    ∀ event ∈ events, event.IsAboutRoom := by
  obtain ⟨_, _, rfl⟩ := join_eq_ok_iff.mp joined
  intro event listed
  split at listed
  · contradiction
  · exact ⟨room, .inl (List.mem_singleton.mp listed)⟩

theorem Sound.join (sound : rooms.Sound) (joined : rooms.join room identity = .ok (next, events)) :
    next.Sound := by
  obtain ⟨named, rfl, _⟩ := join_eq_ok_iff.mp joined
  constructor
  · rw [getElem?_insert_table, if_neg named.symm]
    exact sound.named
  · intro other members found
    rw [getElem?_insert_table] at found
    by_cases same : other = room
    · rw [if_pos same, Option.some.injEq] at found
      rw [← found, Std.ExtTreeSet.isEmpty_eq_false_iff]
      intro vacant
      have present : identity ∈ (rooms.peers room).insert identity :=
        Std.ExtTreeSet.mem_insert_self
      rw [vacant] at present
      simp at present
    · rw [if_neg same] at found
      exact sound.occupied other members found

/-! ## Leaving -/

/-- Leaving succeeds exactly in a room that exists. The room goes away with
its last member. -/
theorem leave_eq_ok_iff :
    rooms.leave room identity = .ok (next, events) ↔
      room ≠ "" ∧ ∃ members, rooms.table[room]? = some members ∧
        (next, events) =
          if (members.erase identity).isEmpty then
            (⟨rooms.table.erase room⟩, [.roomDestroyed room])
          else
            (⟨rooms.table.insert room (members.erase identity)⟩, []) := by
  rw [leave]
  by_cases nameless : room = ""
  · simp [nameless]
  · cases found : rooms.table[room]? with
    | none => simp [nameless]
    | some members =>
        rw [if_neg nameless]
        dsimp only
        rw [← apply_ite Except.ok, Except.ok.injEq, eq_comm]
        simp only [nameless, Option.some.injEq, ne_eq, not_false_eq_true, true_and,
          exists_eq_left']

/-- Leaving fails exactly without a name, or if the room does not exist. -/
theorem leave_eq_error_iff {error : RoomError} :
    rooms.leave room identity = .error error ↔
      room = "" ∧ error = .nameMissing ∨
        room ≠ "" ∧ rooms.table[room]? = none ∧ error = .notFound room := by
  rw [leave]
  by_cases nameless : room = ""
  · simp [nameless, eq_comm]
  · cases found : rooms.table[room]? with
    | none => simp [nameless, eq_comm]
    | some members =>
        rw [if_neg nameless]
        dsimp only
        rw [← apply_ite Except.ok]
        simp [nameless]

/-- A room that cannot be left has no members. -/
theorem Sound.peers_of_leave_eq_error {error : RoomError} (sound : rooms.Sound)
    (refused : rooms.leave room identity = .error error) : rooms.peers room = ∅ := by
  rcases leave_eq_error_iff.mp refused with ⟨nameless, _⟩ | ⟨_, missing, _⟩
  · rw [nameless]
    exact sound.peers_nameless
  · rw [peers_eq, missing, Option.getD_none]

theorem peers_leave (left : rooms.leave room identity = .ok (next, events)) (other : String) :
    next.peers other =
      if other = room then (rooms.peers room).erase identity else rooms.peers other := by
  obtain ⟨_, members, found, outcome⟩ := leave_eq_ok_iff.mp left
  have known : rooms.peers room = members := by
    rw [peers_eq, found]
    rfl
  by_cases emptied : (members.erase identity).isEmpty
  · rw [if_pos emptied, Prod.mk.injEq] at outcome
    rw [outcome.1, peers_eq, getElem?_erase_table]
    by_cases same : other = room
    · simp [same, known, Std.ExtTreeSet.isEmpty_iff.mp emptied]
    · simp [same, peers_eq]
  · rw [if_neg emptied, Prod.mk.injEq] at outcome
    rw [outcome.1, peers_eq, getElem?_insert_table]
    by_cases same : other = room
    · simp [same, known]
    · simp [same, peers_eq]

theorem mem_peers_leave (left : rooms.leave room identity = .ok (next, events)) :
    member ∈ next.peers other ↔
      member ∈ rooms.peers other ∧ ¬(other = room ∧ member = identity) := by
  rw [peers_leave left]
  by_cases same : other = room
  · subst same
    rw [if_pos rfl, Std.ExtTreeSet.mem_erase, ne_eq, Std.LawfulEqCmp.compare_eq_iff_eq]
    simp [eq_comm, and_comm]
  · simp [same]

theorem isDestruction_of_mem_leave (left : rooms.leave room identity = .ok (next, events)) :
    ∀ event ∈ events, event.IsDestruction := by
  obtain ⟨_, members, _, outcome⟩ := leave_eq_ok_iff.mp left
  intro event listed
  split at outcome
  · cases outcome
    rw [List.mem_singleton] at listed
    exact ⟨room, listed⟩
  · cases outcome
    contradiction

theorem Sound.leave (sound : rooms.Sound)
    (left : rooms.leave room identity = .ok (next, events)) : next.Sound := by
  obtain ⟨named, members, found, outcome⟩ := leave_eq_ok_iff.mp left
  by_cases emptied : (members.erase identity).isEmpty
  · rw [if_pos emptied, Prod.mk.injEq] at outcome
    rw [outcome.1]
    constructor
    · rw [getElem?_erase_table, if_neg named.symm]
      exact sound.named
    · intro other others present
      rw [getElem?_erase_table] at present
      by_cases same : other = room
      · simp [same] at present
      · rw [if_neg same] at present
        exact sound.occupied other others present
  · rw [if_neg emptied, Prod.mk.injEq] at outcome
    rw [outcome.1]
    constructor
    · rw [getElem?_insert_table, if_neg named.symm]
      exact sound.named
    · intro other others present
      rw [getElem?_insert_table] at present
      by_cases same : other = room
      · rw [if_pos same, Option.some.injEq] at present
        rw [← present]
        simpa using emptied
      · rw [if_neg same] at present
        exact sound.occupied other others present

/-! ## Leaving everything -/

theorem Sound.leaveEach {names : List String} (sound : rooms.Sound) :
    (leaveEach identity names rooms).1.Sound := by
  induction names generalizing rooms with
  | nil => exact sound
  | cons room rest ih =>
      rw [Rooms.leaveEach]
      split
      · exact ih sound
      · rename_i left
        exact ih (sound.leave left)

theorem isDestruction_of_mem_leaveEach {names : List String} :
    ∀ event ∈ (leaveEach identity names rooms).2, event.IsDestruction := by
  induction names generalizing rooms with
  | nil =>
      intro event listed
      contradiction
  | cons room rest ih =>
      rw [Rooms.leaveEach]
      split
      · exact ih
      · rename_i left
        intro event listed
        rcases List.mem_append.mp listed with now | later
        · exact isDestruction_of_mem_leave left event now
        · exact ih event later

/-- Leaving a list of rooms ends the memberships in these rooms and no others.
The rooms that cannot be left have no members. -/
theorem Sound.mem_peers_leaveEach {names : List String} (sound : rooms.Sound) :
    member ∈ (Rooms.leaveEach identity names rooms).1.peers room ↔
      member ∈ rooms.peers room ∧ ¬(room ∈ names ∧ member = identity) := by
  induction names generalizing rooms with
  | nil => simp [Rooms.leaveEach]
  | cons first rest ih =>
      rw [Rooms.leaveEach]
      split
      · rename_i refused
        rw [ih sound]
        have vacant := sound.peers_of_leave_eq_error refused
        by_cases here : room = first
        · subst here
          simp [vacant]
        · simp [here]
      · rename_i left
        rw [ih (sound.leave left), mem_peers_leave left, List.mem_cons]
        tauto

theorem Sound.leaveAll (sound : rooms.Sound) (identity : Identity) :
    (rooms.leaveAll identity).1.Sound :=
  sound.leaveEach

theorem isDestruction_of_mem_leaveAll :
    ∀ event ∈ (rooms.leaveAll identity).2, event.IsDestruction :=
  isDestruction_of_mem_leaveEach

/-- Leaving everything ends the memberships of one identity and no others. -/
theorem Sound.mem_peers_leaveAll (sound : rooms.Sound) :
    member ∈ (rooms.leaveAll identity).1.peers room ↔
      member ∈ rooms.peers room ∧ member ≠ identity := by
  rw [Rooms.leaveAll, sound.mem_peers_leaveEach]
  constructor
  · rintro ⟨isMember, kept⟩
    refine ⟨isMember, ?_⟩
    rintro rfl
    exact kept ⟨mem_roomsOf.mpr isMember, rfl⟩
  · rintro ⟨isMember, apart⟩
    exact ⟨isMember, fun ⟨_, same⟩ => apart same⟩

/-- A room with no other member goes away. -/
theorem Sound.getElem?_leaveAll_eq_none (sound : rooms.Sound)
    (alone : ∀ member ∈ rooms.peers room, member = identity) :
    (rooms.leaveAll identity).1.table[room]? = none := by
  rw [← Option.not_isSome_iff_eq_none, (sound.leaveAll identity).isSome_getElem?_iff]
  rintro ⟨member, isMember⟩
  obtain ⟨before, apart⟩ := sound.mem_peers_leaveAll.mp isMember
  exact apart (alone member before)

/-- Who is in no room has nothing to leave. -/
theorem leaveAll_eq_self (stranger : ∀ room, identity ∉ rooms.peers room) :
    rooms.leaveAll identity = (rooms, []) := by
  have nowhere : rooms.roomsOf identity = [] :=
    List.eq_nil_iff_forall_not_mem.mpr fun room listed => stranger room (mem_roomsOf.mp listed)
  rw [leaveAll, nowhere, Rooms.leaveEach]

end Rooms

end Switchboard
