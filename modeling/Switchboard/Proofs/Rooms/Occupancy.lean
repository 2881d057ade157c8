import Mathlib.Data.Finset.Card
import Mathlib.Data.Finset.Image
import Switchboard.Proofs.Rooms

/-!
# Rooms as a relation

Who is where is an occupancy: a finite set of pairs, a room and a member each.
Every call on the rooms is answered as the occupancy has it, and changes the
rooms as it changes the occupancy. A call that fails changes neither.
-/

namespace Switchboard

/-- What can be asked of the rooms. -/
inductive RoomCall
  | join (room : String) (identity : Identity)
  | leave (room : String) (identity : Identity)
  | leaveAll (identity : Identity)
  | peers (room : String)
  | roomsOf (identity : Identity)
  | hasMembers (room : String)
  | count
  deriving DecidableEq, Repr

/-- What the rooms answer. -/
inductive RoomAnswer
  | outcome (result : Except RoomError Unit)
  | members (members : IdentitySet)
  | rooms (names : List String)
  | occupied (hasMembers : Bool)
  | number (count : Nat)

/-- The answer tells that the call has failed. -/
def RoomAnswer.isError : RoomAnswer → Bool
  | outcome (.error _) => true
  | _ => false

/-- The pairs of a room and one of its members. -/
abbrev Occupancy := Finset (String × Identity)

namespace Occupancy

/-- What a call makes of the pairs. -/
def after (occupancy : Occupancy) : RoomCall → Occupancy
  | .join room identity => if room = "" then occupancy else insert (room, identity) occupancy
  | .leave room identity => occupancy.erase (room, identity)
  | .leaveAll identity => occupancy.filter fun pair => pair.2 ≠ identity
  | .peers _ | .roomsOf _ | .hasMembers _ | .count => occupancy

/-- Some identity is in the room. -/
def IsOccupied (occupancy : Occupancy) (room : String) : Prop :=
  ∃ member, (room, member) ∈ occupancy

/-- The rooms of an identity, each once and in order. -/
def Lists (occupancy : Occupancy) (identity : Identity) (names : List String) : Prop :=
  names.Pairwise (fun first second => Text.byteOrder first second = .lt) ∧
    ∀ room, room ∈ names ↔ (room, identity) ∈ occupancy

/-- The answer to a call is right. -/
def Answers (occupancy : Occupancy) : RoomCall → RoomAnswer → Prop
  | .join room _, .outcome result =>
      room = "" ∧ result = .error .nameMissing ∨ room ≠ "" ∧ result = .ok ()
  | .leave room _, .outcome result =>
      room = "" ∧ result = .error .nameMissing ∨
        room ≠ "" ∧ ¬occupancy.IsOccupied room ∧ result = .error (.notFound room) ∨
        room ≠ "" ∧ occupancy.IsOccupied room ∧ result = .ok ()
  | .leaveAll identity, .rooms names | .roomsOf identity, .rooms names =>
      occupancy.Lists identity names
  | .peers room, .members members =>
      ∀ identity, identity ∈ members ↔ (room, identity) ∈ occupancy
  | .hasMembers room, .occupied hasMembers =>
      hasMembers = true ↔ occupancy.IsOccupied room
  | .count, .number count => count = (occupancy.image Prod.fst).card
  | _, _ => False

/-- The pairs after a list of calls. -/
def afterAll (occupancy : Occupancy) (calls : List RoomCall) : Occupancy :=
  calls.foldl after occupancy

end Occupancy

namespace Rooms

variable {rooms next : Rooms} {occupancy : Occupancy} {room : String} {identity : Identity}
  {events : List Event}

/-- Answer a call. -/
def call (rooms : Rooms) : RoomCall → RoomAnswer × Rooms
  | .join room identity =>
      match rooms.join room identity with
      | .error error => (.outcome (.error error), rooms)
      | .ok (next, _) => (.outcome (.ok ()), next)
  | .leave room identity =>
      match rooms.leave room identity with
      | .error error => (.outcome (.error error), rooms)
      | .ok (next, _) => (.outcome (.ok ()), next)
  | .leaveAll identity => (.rooms (rooms.roomsOf identity), (rooms.leaveAll identity).1)
  | .peers room => (.members (rooms.peers room), rooms)
  | .roomsOf identity => (.rooms (rooms.roomsOf identity), rooms)
  | .hasMembers room => (.occupied (rooms.hasMembers room), rooms)
  | .count => (.number rooms.count, rooms)

/-- The rooms after a list of calls. -/
def afterAll (rooms : Rooms) (calls : List RoomCall) : Rooms :=
  calls.foldl (fun state call => (state.call call).2) rooms

/-- The rooms are sound, and their members are those of the occupancy. -/
structure Represents (rooms : Rooms) (occupancy : Occupancy) : Prop where
  sound : rooms.Sound
  mem_peers : ∀ room identity, identity ∈ rooms.peers room ↔ (room, identity) ∈ occupancy

theorem represents_empty : empty.Represents ∅ where
  sound := sound_empty
  mem_peers room identity := by
    rw [peers_empty]
    exact iff_of_false Std.ExtTreeSet.not_mem_empty (Finset.notMem_empty _)

namespace Represents

/-! ## Questions -/

theorem exists_mem_peers_iff (represents : rooms.Represents occupancy) :
    (∃ member, member ∈ rooms.peers room) ↔ occupancy.IsOccupied room :=
  exists_congr fun member => represents.mem_peers room member

/-- Exactly the occupied rooms are kept. -/
theorem isSome_getElem?_iff (represents : rooms.Represents occupancy) :
    (rooms.table[room]?).isSome = true ↔ occupancy.IsOccupied room := by
  rw [represents.sound.isSome_getElem?_iff, represents.exists_mem_peers_iff]

/-- The rooms of an identity are listed in order. -/
theorem lists_roomsOf (represents : rooms.Represents occupancy) :
    occupancy.Lists identity (rooms.roomsOf identity) := by
  constructor
  · exact Std.ExtTreeMap.ordered_keys.filter _
  · intro room
    rw [mem_roomsOf, represents.mem_peers]

theorem hasMembers_eq_true_iff (represents : rooms.Represents occupancy) :
    rooms.hasMembers room = true ↔ occupancy.IsOccupied room := by
  rw [Rooms.hasMembers_eq_true_iff, represents.exists_mem_peers_iff]

/-- A room with members is counted once, however many they are. -/
theorem count_eq (represents : rooms.Represents occupancy) :
    rooms.count = (occupancy.image Prod.fst).card := by
  have counted (room : String) :
      room ∈ (rooms.table.filter fun _ members => !members.isEmpty).keys ↔
        room ∈ occupancy.image Prod.fst := by
    rw [Std.ExtTreeMap.mem_keys, Std.ExtTreeMap.mem_iff_isSome_getElem?,
      Std.ExtTreeMap.getElem?_filter']
    have member : room ∈ occupancy.image Prod.fst ↔ occupancy.IsOccupied room := by
      simp [Occupancy.IsOccupied]
    rw [member, ← represents.isSome_getElem?_iff]
    cases found : rooms.table[room]? with
    | none => rfl
    | some members => simp [represents.sound.occupied room members found]
  rw [count, ← Std.ExtTreeMap.length_keys, ← List.toFinset_card_of_nodup Std.ExtTreeMap.nodup_keys]
  congr 1
  ext room
  rw [List.mem_toFinset, counted]

/-! ## Changes -/

theorem join (represents : rooms.Represents occupancy)
    (joined : rooms.join room identity = .ok (next, events)) :
    next.Represents (insert (room, identity) occupancy) where
  sound := represents.sound.join joined
  mem_peers other member := by
    rw [mem_peers_join joined, represents.mem_peers, Finset.mem_insert, Prod.mk.injEq]

theorem leave (represents : rooms.Represents occupancy)
    (left : rooms.leave room identity = .ok (next, events)) :
    next.Represents (occupancy.erase (room, identity)) where
  sound := represents.sound.leave left
  mem_peers other member := by
    rw [mem_peers_leave left, represents.mem_peers, Finset.mem_erase, ne_eq, Prod.mk.injEq,
      and_comm]

theorem leaveAll (represents : rooms.Represents occupancy) (identity : Identity) :
    (rooms.leaveAll identity).1.Represents (occupancy.filter fun pair => pair.2 ≠ identity) where
  sound := represents.sound.leaveAll identity
  mem_peers other member := by
    rw [represents.sound.mem_peers_leaveAll, represents.mem_peers, Finset.mem_filter]

/-! ## Calls -/

/-- A room that cannot be left is not occupied. -/
theorem not_isOccupied_of_leave_eq_error {error : RoomError}
    (represents : rooms.Represents occupancy)
    (refused : rooms.leave room identity = .error error) : ¬occupancy.IsOccupied room := by
  rw [← represents.exists_mem_peers_iff, represents.sound.peers_of_leave_eq_error refused]
  rintro ⟨member, isMember⟩
  exact Std.ExtTreeSet.not_mem_empty isMember

/-- A call is answered as the occupancy has it. -/
theorem answers (represents : rooms.Represents occupancy) (call : RoomCall) :
    occupancy.Answers call (rooms.call call).1 := by
  cases call with
  | join room identity =>
      rw [call]
      split
      · rename_i refused
        obtain ⟨nameless, rfl⟩ := join_eq_error_iff.mp refused
        exact .inl ⟨nameless, rfl⟩
      · rename_i joined
        exact .inr ⟨(join_eq_ok_iff.mp joined).1, rfl⟩
  | leave room identity =>
      rw [call]
      split
      · rename_i refused
        rcases leave_eq_error_iff.mp refused with ⟨nameless, rfl⟩ | ⟨named, _, rfl⟩
        · exact .inl ⟨nameless, rfl⟩
        · have vacant := represents.not_isOccupied_of_leave_eq_error refused
          exact .inr (.inl ⟨named, vacant, rfl⟩)
      · rename_i left
        obtain ⟨named, members, found, _⟩ := leave_eq_ok_iff.mp left
        have occupied := represents.isSome_getElem?_iff.mp (by rw [found, Option.isSome_some])
        exact .inr (.inr ⟨named, occupied, rfl⟩)
  | leaveAll identity => exact represents.lists_roomsOf
  | peers room => exact represents.mem_peers room
  | roomsOf identity => exact represents.lists_roomsOf
  | hasMembers room => exact represents.hasMembers_eq_true_iff
  | count => exact represents.count_eq

/-- A call that fails changes neither the rooms nor the occupancy. -/
theorem unchanged_of_isError (represents : rooms.Represents occupancy) (call : RoomCall)
    (failed : (rooms.call call).1.isError = true) :
    (rooms.call call).2 = rooms ∧ occupancy.after call = occupancy := by
  cases call with
  | join room identity =>
      rw [Rooms.call] at failed ⊢
      split at failed
      · rename_i refused
        exact ⟨rfl, if_pos (join_eq_error_iff.mp refused).1⟩
      · contradiction
  | leave room identity =>
      rw [Rooms.call] at failed ⊢
      split at failed
      · rename_i refused
        refine ⟨rfl, Finset.erase_eq_of_notMem fun isMember => ?_⟩
        exact represents.not_isOccupied_of_leave_eq_error refused ⟨identity, isMember⟩
      · contradiction
  | leaveAll | peers | roomsOf | hasMembers | count => contradiction

/-- A call changes the rooms as it changes the occupancy. -/
theorem after (represents : rooms.Represents occupancy) (call : RoomCall) :
    (rooms.call call).2.Represents (occupancy.after call) := by
  by_cases failed : (rooms.call call).1.isError = true
  · obtain ⟨sameRooms, samePairs⟩ := represents.unchanged_of_isError call failed
    rw [sameRooms, samePairs]
    exact represents
  · cases call with
    | join room identity =>
        rw [Rooms.call] at failed ⊢
        split at failed
        · exact absurd rfl failed
        · rename_i joined
          rw [Occupancy.after, if_neg (join_eq_ok_iff.mp joined).1]
          exact represents.join joined
    | leave room identity =>
        rw [Rooms.call] at failed ⊢
        split at failed
        · exact absurd rfl failed
        · rename_i left
          exact represents.leave left
    | leaveAll identity => exact represents.leaveAll identity
    | peers | roomsOf | hasMembers | count => exact represents

theorem afterAll (represents : rooms.Represents occupancy) (calls : List RoomCall) :
    (rooms.afterAll calls).Represents (occupancy.afterAll calls) := by
  induction calls generalizing rooms occupancy with
  | nil => exact represents
  | cons call rest ih => exact ih (represents.after call)

end Represents

/-- Whatever has been asked of the rooms before, they keep only rooms with a
name and with members, hold the pairs that the occupancy holds, and answer as
it does. A call that fails changes nothing. -/
theorem answers_as_occupancy (calls : List RoomCall) (call : RoomCall) :
    let rooms := empty.afterAll calls
    let occupancy := Occupancy.afterAll ∅ calls
    rooms.Represents occupancy ∧ occupancy.Answers call (rooms.call call).1 ∧
      ((rooms.call call).1.isError = true →
        (rooms.call call).2 = rooms ∧ occupancy.after call = occupancy) := by
  intro rooms occupancy
  have represents : rooms.Represents occupancy := represents_empty.afterAll calls
  exact ⟨represents, represents.answers call, represents.unchanged_of_isError call⟩

/-- A room whose last member has left everything cannot be left again. -/
theorem answers_as_occupancy_vacated :
    let rooms := empty.afterAll [.join "hall" ⟨"alice"⟩, .join "hall" ⟨"bob"⟩,
      .join "lobby" ⟨"alice"⟩, .leave "hall" ⟨"bob"⟩, .leaveAll ⟨"alice"⟩]
    (rooms.call (.leave "hall" ⟨"alice"⟩)).1.isError = true ∧
      (rooms.call (.leave "hall" ⟨"alice"⟩)).2 = rooms := by
  intro rooms
  have failed : (rooms.call (.leave "hall" ⟨"alice"⟩)).1.isError = true := by
    decide +kernel
  exact ⟨failed, ((answers_as_occupancy _ _).2.2 failed).1⟩

end Rooms

end Switchboard
