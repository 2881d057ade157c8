import Switchboard.Exchange.Dispatch
import Switchboard.Exchange.Inbox

/-!
# Operations and runs

Everything that can happen to an exchange is an operation, and every operation
has an answer. A run is a list of operations carried out one after the other.
-/

namespace Switchboard

/-- Everything that can happen to an exchange. -/
inductive Operation
  /-- A connection is opened with a mailbox of some capacity. -/
  | openMailbox (capacity : Nat)
  /-- A connection is opened whose mailbox has no room at all. -/
  | openSaturated
  | request (request : Request)
  | disconnect (identity : Identity)
  /-- A frame comes in and is carried out. -/
  | dispatch (sender : Identity) (frame : Bytes)
  /-- A frame comes in, and what goes wrong is told to its sender. -/
  | handle (sender : Identity) (frame : Bytes)
  | join (room : String) (identity : Identity)
  | leave (room : String) (identity : Identity)
  | leaveAll (identity : Identity)
  | enqueue (connection : Connection) (frame : Bytes)
  | close (connection : Connection)
  | receive (connection : Connection)
  | drain (connection : Connection)
  | abandon (connection : Connection)
  | stop
  deriving DecidableEq, Repr

/-- What is answered. -/
inductive Answer
  | nothing
  | opened (connection : Connection)
  | response (response : Response)
  | presence (result : Except ExchangeError Bool)
  | dispatched (result : Except DispatchError Unit)
  | membership (result : Except RoomError Unit)
  | rooms (left : List String)
  | queued (result : Except Refusal Unit)
  | received (reception : Reception)
  | drained (frames : List Bytes)
  /-- There is no reader who could take anything out. -/
  | noOutbox

namespace Exchange

/-- Let the reader of a connection look into its mailbox. -/
def read (exchange : Exchange) (connection : Connection) (look : Mailbox → Answer × Mailbox) :
    Answer × Exchange :=
  match exchange.mailboxes[connection]? with
  | none => (.noOutbox, exchange)
  | some mailbox =>
      match mailbox.outbox? with
      | none => (.noOutbox, exchange)
      | some _ =>
          ((look mailbox).1,
            { exchange with
              mailboxes := exchange.mailboxes.setIfInBounds connection (look mailbox).2 })

/-- Carry out one operation. -/
def perform (exchange : Exchange) : Operation → Answer × Exchange
  | .openMailbox capacity =>
      let (connection, next) := exchange.openMailbox (.ofCapacity capacity)
      (.opened connection, next)
  | .openSaturated =>
      let (connection, next) := exchange.openMailbox .saturated
      (.opened connection, next)
  | .request request =>
      let (response, next) := exchange.serve request
      (.response response, next)
  | .disconnect identity =>
      let (result, next) := exchange.disconnect identity
      (.presence result, next)
  | .dispatch sender frame =>
      let (result, next) := exchange.dispatch sender frame
      (.dispatched result, next)
  | .handle sender frame => (.nothing, exchange.handle sender frame)
  | .join room identity =>
      let (result, next) := exchange.join room identity
      (.membership result, next)
  | .leave room identity =>
      let (result, next) := exchange.leave room identity
      (.membership result, next)
  | .leaveAll identity =>
      (.rooms (exchange.rooms.roomsOf identity), exchange.leaveAll identity)
  | .enqueue connection frame =>
      match exchange.enqueue connection frame with
      | .ok next => (.queued (.ok ()), next)
      | .error refusal => (.queued (.error refusal), exchange)
  | .close connection => (.nothing, exchange.modifyMailbox connection .close)
  | .receive connection =>
      exchange.read connection fun mailbox => (.received mailbox.receive.1, mailbox.receive.2)
  | .drain connection =>
      exchange.read connection fun mailbox => (.drained mailbox.drain.1, mailbox.drain.2)
  | .abandon connection => (.nothing, exchange.modifyMailbox connection .abandon)
  | .stop => (.nothing, exchange.stop)

/-- The state after a list of operations. -/
def run (exchange : Exchange) (operations : List Operation) : Exchange :=
  operations.foldl (fun state operation => (state.perform operation).2) exchange

end Exchange

end Switchboard
