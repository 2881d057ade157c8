import Switchboard.Identity
import Switchboard.Json.Document
import Switchboard.Vocabulary

/-!
# Commands

An inbound frame is a record of four fields: the label of a verb, a room, a
recipient and a payload. Reading it under a vocabulary gives a command, or
the reason why it is none. The sender of a command is the identity of the
connection that the frame came in on. Whatever a frame says about its sender
is not read.
-/

namespace Switchboard

/-- A JSON text that is passed on unread. -/
structure Payload where
  text : String
  deriving DecidableEq, Repr

namespace Payload

/-- Read a value as a payload. -/
def ofValue? (value : Json.Value) : Option Payload :=
  value.raw?.map Payload.mk

/-- Read a text as a payload. Blanks around the value are dropped. -/
def read? (bytes : Bytes) : Option Payload :=
  match (Json.lexemes? bytes).bind Json.value? with
  | some (value, []) => ofValue? value
  | _ => none

end Payload

/-- The fields of an inbound frame. -/
structure Envelope where
  label : String
  room : Option String
  recipient : Option String
  payload : Option Payload
  deriving DecidableEq, Repr

namespace Envelope

/-- The names of the fields, in the order of the positional form. -/
def fields : List String :=
  ["type", "room", "recipient", "payload"]

/-- Read the fields of an inbound frame. -/
def read? (frame : Bytes) : Option Envelope := do
  let record ← Json.Record.read? fields frame
  let label ← record.required? Json.Value.string? "type"
  let room ← record.optional? Json.Value.string? "room"
  let recipient ← record.optional? Json.Value.string? "recipient"
  let payload ← record.optional? Payload.ofValue? "payload"
  some { label, room, recipient, payload }

end Envelope

/-- A message from one client to another, to be passed on unread. -/
structure Signal where
  verb : Verb
  /-- The label that the message came with, which becomes its event. -/
  event : String
  sender : Identity
  room : Option String
  recipient : Option Identity
  payload : Option Payload
  deriving DecidableEq, Repr

/-- What an inbound frame asks for. -/
inductive Command
  | broadcast (payload : Payload)
  | join (room : String)
  | leave (room : String)
  | signal (signal : Signal)
  | list (room : Option String)
  | me
  deriving DecidableEq, Repr

/-- Why an inbound frame is no command. -/
inductive CommandError
  /-- The frame is not a record of the known fields. -/
  | malformed
  | unknownLabel (label : String)
  | roomMissing (label : String)
  | payloadMissing (label : String)
  deriving DecidableEq, Repr

namespace CommandError

/-- The wording of the error. -/
def message : CommandError → String
  | malformed => "malformed message"
  | unknownLabel label => "unknown message type: " ++ label
  | roomMissing label => "room is required for " ++ label ++ " messages"
  | payloadMissing label => "payload is required for " ++ label ++ " messages"

end CommandError

/-- A name that is given and not empty. -/
def nonempty? (name : Option String) : Option String :=
  name.filter (· ≠ "")

namespace Command

/-- The command of a verb with the fields of a frame. An empty room or
recipient counts as none. -/
def ofEnvelope (verb : Verb) (sender : Identity) (envelope : Envelope) :
    Except CommandError Command :=
  let room := nonempty? envelope.room
  let recipient := (nonempty? envelope.recipient).map Identity.mk
  match verb with
  | .broadcast =>
      match envelope.payload with
      | some payload => .ok (.broadcast payload)
      | none => .error (.payloadMissing envelope.label)
  | .join =>
      match room with
      | some room => .ok (.join room)
      | none => .error (.roomMissing envelope.label)
  | .leave =>
      match room with
      | some room => .ok (.leave room)
      | none => .error (.roomMissing envelope.label)
  | .offer | .answer | .iceCandidate =>
      .ok (.signal
        { verb, event := envelope.label, sender, room, recipient, payload := envelope.payload })
  | .list => .ok (.list room)
  | .me => .ok .me

/-- Read an inbound frame of a sender. -/
def read (vocabulary : Vocabulary) (sender : Identity) (frame : Bytes) :
    Except CommandError Command :=
  match Envelope.read? frame with
  | none => .error .malformed
  | some envelope =>
      match vocabulary.resolve? envelope.label with
      | none => .error (.unknownLabel envelope.label)
      | some verb => ofEnvelope verb sender envelope

end Command

end Switchboard
