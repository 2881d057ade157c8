import Switchboard.Command

/-!
# Notices

An outbound frame is a notice: an event, the identity of its sender and up to
five further fields. Notices are written without blanks, in a fixed order of
fields and without the absent ones. They are read back from any JSON spelling
of the same record, with `null` for absent fields.
-/

namespace Switchboard

open Switchboard.Json

/-- An outbound frame. -/
structure Notice where
  event : String
  sender : Identity
  room : Option String := none
  recipient : Option Identity := none
  payload : Option Payload := none
  members : Option (List Identity) := none
  message : Option String := none
  deriving DecidableEq, Repr

namespace Notice

/-- The event that only error notices carry. -/
def errorEvent : String :=
  "error"

/-- A notice that tells a client what is wrong. -/
def error (sender : Identity) (message : String) : Notice :=
  { event := errorEvent, sender, message := some message }

/-- The notice by which a signal is passed on. -/
def ofSignal (signal : Signal) : Notice where
  event := signal.event
  sender := signal.sender
  room := signal.room
  recipient := signal.recipient
  payload := signal.payload

/-! ## Writing -/

/-- A list of names as a JSON array. -/
def writtenNames (names : List Identity) : String :=
  "[" ++ ",".intercalate (names.map fun identity => quoted identity.name) ++ "]"

/-- The present fields with their values, in writing order. -/
def writtenFields (notice : Notice) : List (String × String) :=
  [("event", quoted notice.event), ("sender", quoted notice.sender.name)] ++
    (notice.room.map fun room => ("room", quoted room)).toList ++
    (notice.recipient.map fun recipient => ("recipient", quoted recipient.name)).toList ++
    (notice.payload.map fun payload => ("payload", payload.text)).toList ++
    (notice.members.map fun members => ("members", writtenNames members)).toList ++
    (notice.message.map fun message => ("message", quoted message)).toList

/-- A JSON object with the given members. -/
def writtenObject (members : List (String × String)) : String :=
  "\x7b" ++ ",".intercalate (members.map fun (name, value) => quoted name ++ ":" ++ value) ++ "\x7d"

/-- The text of a notice. -/
def text (notice : Notice) : String :=
  writtenObject notice.writtenFields

/-- The frame of a notice. -/
def frame (notice : Notice) : Bytes :=
  Text.utf8 notice.text

/-! ## Reading -/

/-- The names of the fields, in the order of the positional form. -/
def fields : List String :=
  ["event", "sender", "room", "recipient", "payload", "members", "message"]

/-- Read an outbound frame. -/
def read? (frame : Bytes) : Option Notice := do
  let record ← Record.read? fields frame
  let event ← record.required? Value.string? "event"
  let sender ← record.required? Value.string? "sender"
  let room ← record.optional? Value.string? "room"
  let recipient ← record.optional? Value.string? "recipient"
  let payload ← record.optional? Payload.ofValue? "payload"
  let members ← record.optional? Value.strings? "members"
  let message ← record.optional? Value.string? "message"
  some
    { event
      sender := ⟨sender⟩
      room
      recipient := recipient.map Identity.mk
      payload
      members := members.map fun names => names.map Identity.mk
      message }

end Notice

end Switchboard
