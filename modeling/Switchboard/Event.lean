import Switchboard.Identity

/-!
# Events

What happens to connections and rooms is recorded as a log of events, oldest
first. The tally counts the events of each kind. Its counters have 64 bits
and wrap around.
-/

namespace Switchboard

/-- Why a connection was removed. -/
inductive Departure
  /-- The connection asked for it, or has ended. -/
  | requested
  /-- The mailbox of the connection was full. -/
  | slowConsumer
  /-- The mailbox of the connection was closed before it was removed. -/
  | writerClosed
  deriving DecidableEq, Repr

namespace Departure

/-- The word for a departure. -/
def name : Departure → String
  | requested => "requested"
  | slowConsumer => "slow_consumer"
  | writerClosed => "writer_closed"

end Departure

/-- What can happen. -/
inductive Event
  | connected (identity : Identity)
  | disconnected (identity : Identity) (departure : Departure)
  | messageDropped (identity : Identity)
  | roomCreated (room : String)
  | roomDestroyed (room : String)
  deriving DecidableEq, Repr

/-- The number of events of each kind. -/
structure Tally where
  connects : UInt64 := 0
  disconnects : UInt64 := 0
  messagesDropped : UInt64 := 0
  roomsCreated : UInt64 := 0
  roomsDestroyed : UInt64 := 0
  deriving DecidableEq, Repr

namespace Tally

/-- Count one event. -/
def count (tally : Tally) : Event → Tally
  | .connected _ => { tally with connects := tally.connects + 1 }
  | .disconnected _ _ => { tally with disconnects := tally.disconnects + 1 }
  | .messageDropped _ => { tally with messagesDropped := tally.messagesDropped + 1 }
  | .roomCreated _ => { tally with roomsCreated := tally.roomsCreated + 1 }
  | .roomDestroyed _ => { tally with roomsDestroyed := tally.roomsDestroyed + 1 }

/-- Count all events of a log. -/
def ofLog (log : List Event) : Tally :=
  log.foldl count {}

end Tally

end Switchboard
