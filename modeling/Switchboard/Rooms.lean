import Switchboard.Event

/-!
# Rooms

A room is a named set of identities. It comes into being when the first
identity joins and goes away when the last one leaves, and both are recorded
as events. Membership says nothing about registration: identities are taken
as they are given.
-/

namespace Switchboard

/-- Why a room could not be joined or left. -/
inductive RoomError
  | nameMissing
  | notFound (room : String)
  deriving DecidableEq, Repr

namespace RoomError

/-- The wording of the error. -/
def message : RoomError → String
  | nameMissing => "room is required"
  | notFound room => "room '" ++ room ++ "' not found"

end RoomError

/-- The existing rooms, each with its members. -/
structure Rooms where
  table : Std.ExtTreeMap String IdentitySet Text.byteOrder

namespace Rooms

/-- No room exists. -/
def empty : Rooms :=
  ⟨∅⟩

instance : Inhabited Rooms :=
  ⟨empty⟩

/-- The members of a room. A room that does not exist has none. -/
def peers (rooms : Rooms) (room : String) : IdentitySet :=
  rooms.table.getD room ∅

/-- Whether a room has members. -/
def hasMembers (rooms : Rooms) (room : String) : Bool :=
  !(rooms.peers room).isEmpty

/-- The number of rooms with members. -/
def count (rooms : Rooms) : Nat :=
  (rooms.table.filter fun _ members => !members.isEmpty).size

/-- The rooms that an identity is a member of, in order. -/
def roomsOf (rooms : Rooms) (identity : Identity) : List String :=
  rooms.table.keys.filter fun room => (rooms.peers room).contains identity

/-- Make an identity a member of a room. The first member creates the room. -/
def join (rooms : Rooms) (room : String) (identity : Identity) :
    Except RoomError (Rooms × List Event) :=
  if room = "" then
    .error .nameMissing
  else
    .ok
      (⟨rooms.table.insert room ((rooms.peers room).insert identity)⟩,
        if rooms.table.contains room then [] else [.roomCreated room])

/-- End the membership of an identity in a room. A room without members is
destroyed, and leaving a room as a stranger changes nothing. -/
def leave (rooms : Rooms) (room : String) (identity : Identity) :
    Except RoomError (Rooms × List Event) :=
  if room = "" then
    .error .nameMissing
  else
    match rooms.table[room]? with
    | none => .error (.notFound room)
    | some members =>
        if (members.erase identity).isEmpty then
          .ok (⟨rooms.table.erase room⟩, [.roomDestroyed room])
        else
          .ok (⟨rooms.table.insert room (members.erase identity)⟩, [])

/-- End the membership of an identity in a list of rooms, one after the other. -/
def leaveEach (identity : Identity) : List String → Rooms → Rooms × List Event
  | [], rooms => (rooms, [])
  | room :: rest, rooms =>
      match rooms.leave room identity with
      | .error _ => leaveEach identity rest rooms
      | .ok (left, events) =>
          let (last, later) := leaveEach identity rest left
          (last, events ++ later)

/-- End all memberships of an identity. -/
def leaveAll (rooms : Rooms) (identity : Identity) : Rooms × List Event :=
  leaveEach identity (rooms.roomsOf identity) rooms

end Rooms

end Switchboard
