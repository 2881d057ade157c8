import Switchboard.Exchange
import Switchboard.Notice

/-!
# Frames of clients

A frame of a registered sender is read as a command, and the command is
carried out. What goes wrong is told to the sender in an error notice, unless
nobody is there to read it or the frame made no sense at all.
-/

namespace Switchboard

/-- Why a signal was not passed on. -/
inductive SignalError
  | recipientMissing
  | encoding (detail : String)
  | undelivered (recipient : Identity) (reason : ExchangeError)
  deriving DecidableEq, Repr

namespace SignalError

/-- The wording of the error. -/
def message : SignalError → String
  | recipientMissing => "recipient is required for directed messages"
  | encoding detail => "failed to encode relayed message: " ++ detail
  | undelivered recipient reason =>
      "failed to deliver to '" ++ recipient.name ++ "': " ++ reason.message

end SignalError

/-- Why a frame was not carried out. -/
inductive DispatchError
  | senderGone (sender : Identity)
  | command (error : CommandError)
  | room (error : RoomError)
  | signal (error : SignalError)
  | exchange (error : ExchangeError)
  | encoding (detail : String)
  deriving DecidableEq, Repr

namespace DispatchError

/-- The wording of the error. -/
def message : DispatchError → String
  | senderGone sender => "sender '" ++ sender.name ++ "' is no longer registered"
  | command error => error.message
  | room error => error.message
  | signal error => error.message
  | exchange error => error.message
  | encoding detail => "failed to encode reply: " ++ detail

/-- Whether the sender is told. -/
def isReported : DispatchError → Bool
  | senderGone _ => false
  | command .malformed => false
  | exchange .stopped => false
  | encoding _ => false
  | _ => true

end DispatchError

/-- Pass a signal on to its recipient by a given way of delivery. Without a
recipient nothing is delivered. -/
def Signal.forward {State : Type} (signal : Signal)
    (deliver : Identity → Bytes → State → Except ExchangeError Unit × State)
    (state : State) : Except SignalError Unit × State :=
  match signal.recipient with
  | none => (.error .recipientMissing, state)
  | some recipient =>
      let (delivered, next) := deliver recipient (Notice.ofSignal signal).frame state
      (delivered.mapError (.undelivered recipient), next)

namespace Exchange

/-- Send a notice to the client that it answers. -/
def answer (exchange : Exchange) (sender : Identity) (notice : Notice) :
    Except DispatchError Unit × Exchange :=
  let (delivered, next) := exchange.deliver sender notice.frame
  (delivered.mapError .exchange, next)

/-- The notice by which a payload reaches everybody else. -/
def broadcastNotice (exchange : Exchange) (sender : Identity) (payload : Payload) : Notice :=
  { event := exchange.vocabulary.label .broadcast, sender, payload := some payload }

/-- The notice that lists the members of a room, or all registered identities. -/
def listNotice (exchange : Exchange) (sender : Identity) (room : Option String) : Notice :=
  { event := exchange.vocabulary.label .list
    sender
    room
    members := some <|
      match room with
      | some room => (exchange.rooms.peers room).toList
      | none => exchange.directory.identities }

/-- The notice that tells a client its own identity. -/
def meNotice (exchange : Exchange) (sender : Identity) : Notice :=
  { event := exchange.vocabulary.label .me, sender }

/-- Carry out a command of a sender. -/
def carryOut (exchange : Exchange) (sender : Identity) :
    Command → Except DispatchError Unit × Exchange
  | .broadcast payload =>
      let notice := exchange.broadcastNotice sender payload
      let (report, next) := exchange.broadcast notice.frame (some sender)
      ((report.map fun _ => ()).mapError .exchange, next)
  | .signal signal =>
      let (forwarded, next) :=
        signal.forward (fun recipient frame state => state.deliver recipient frame) exchange
      (forwarded.mapError .signal, next)
  | .join room =>
      let (joined, next) := exchange.join room sender
      (joined.mapError .room, next)
  | .leave room =>
      let (left, next) := exchange.leave room sender
      (left.mapError .room, next)
  | .list room => exchange.answer sender (exchange.listNotice sender room)
  | .me => exchange.answer sender (exchange.meNotice sender)

/-- Read a frame of a sender and carry it out. A sender that is no longer
registered is refused before its frame is looked at. -/
def dispatch (exchange : Exchange) (sender : Identity) (frame : Bytes) :
    Except DispatchError Unit × Exchange :=
  if exchange.directory.contains sender then
    match Command.read exchange.vocabulary sender frame with
    | .error error => (.error (.command error), exchange)
    | .ok command => exchange.carryOut sender command
  else
    (.error (.senderGone sender), exchange)

/-- Carry out a frame of a sender, and tell the sender what went wrong. -/
def handle (exchange : Exchange) (sender : Identity) (frame : Bytes) : Exchange :=
  match exchange.dispatch sender frame with
  | (.ok (), next) => next
  | (.error error, next) =>
      if error.isReported then
        (next.deliver sender (Notice.error sender error.message).frame).2
      else
        next

end Exchange

end Switchboard
