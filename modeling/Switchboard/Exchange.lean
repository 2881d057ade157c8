import Switchboard.Command
import Switchboard.Directory
import Switchboard.Mailbox
import Switchboard.Rooms

/-!
# The exchange

The exchange is the state that connections share: who is registered, who is in
which room, the mailboxes of all connections ever opened, and the log of what
has happened. Every operation is a function from one state to the next.

A connection that is registered leaves the directory because somebody asked
for it, or because a frame meant for it was refused by its mailbox. Either
way it is removed as a whole: its entry, its memberships and the writing side
of its mailbox, together with one event.

Nothing is promised about the order in which a broadcast reaches its
recipients, so the order is a parameter of the exchange.
-/

namespace Switchboard

/-- Connections are numbered in the order in which they were opened. -/
abbrev Connection := Nat

/-- Why the exchange refused. -/
inductive ExchangeError
  | directory (error : DirectoryError)
  /-- The recipient was removed because its mailbox refused the frame. -/
  | shed (identity : Identity)
  /-- The exchange no longer serves requests. -/
  | stopped
  deriving DecidableEq, Repr

namespace ExchangeError

/-- The wording of the error. -/
def message : ExchangeError → String
  | directory error => error.message
  | shed identity =>
      "'" ++ identity.name ++ "' was shed because its delivery queue was unavailable"
  | stopped => "hub is no longer running"

end ExchangeError

/-- The outcome of a broadcast. -/
structure Report where
  delivered : Nat := 0
  evicted : List Identity := []
  deriving DecidableEq, Repr

/-- The order in which a broadcast reaches the registered identities. It is
some order of the entries of the directory, and another one may be chosen
whenever something has happened. -/
structure Arrangement where
  arrange : Queue Event → List (Identity × Connection) → List (Identity × Connection)
  perm : ∀ log entries, (arrange log entries).Perm entries

/-- The entries are left in the order of their identities. -/
def Arrangement.byName : Arrangement where
  arrange _ entries := entries
  perm _ entries := .refl entries

/-- The shared state of all connections. -/
structure Exchange where
  vocabulary : Vocabulary := .standard
  /-- The capacity of a mailbox for which none is chosen. -/
  queueCapacity : Nat := 256
  arrangement : Arrangement := .byName
  /-- Requests are served until the exchange is stopped. -/
  running : Bool := true
  directory : Directory Connection := .empty
  rooms : Rooms := .empty
  mailboxes : Array Mailbox := #[]
  /-- What has happened, oldest first. -/
  log : Queue Event := .empty

namespace Exchange

/-! ## Connections -/

/-- Open a connection with its mailbox. Nobody is registered with it yet. -/
def openMailbox (exchange : Exchange) (mailbox : Mailbox) : Connection × Exchange :=
  (exchange.mailboxes.size, { exchange with mailboxes := exchange.mailboxes.push mailbox })

/-- Change the mailbox of a connection. -/
def modifyMailbox (exchange : Exchange) (connection : Connection) (change : Mailbox → Mailbox) :
    Exchange :=
  { exchange with mailboxes := exchange.mailboxes.modify connection change }

/-- Queue a frame for a connection. -/
@[inline]
def enqueue (exchange : Exchange) (connection : Connection) (frame : Bytes) :
    Except Refusal Exchange :=
  match exchange.mailboxes[connection]? with
  | none => .error .closed
  | some mailbox =>
      (mailbox.enqueue frame).map fun filled =>
        { exchange with mailboxes := exchange.mailboxes.setIfInBounds connection filled }

/-- Record what has happened. -/
def record (exchange : Exchange) (events : List Event) : Exchange :=
  { exchange with log := exchange.log.pushAll events }

/-! ## Rooms -/

/-- Make an identity a member of a room. -/
def join (exchange : Exchange) (room : String) (identity : Identity) :
    Except RoomError Unit × Exchange :=
  match exchange.rooms.join room identity with
  | .error error => (.error error, exchange)
  | .ok (rooms, events) => (.ok (), { exchange with rooms }.record events)

/-- End the membership of an identity in a room. -/
def leave (exchange : Exchange) (room : String) (identity : Identity) :
    Except RoomError Unit × Exchange :=
  match exchange.rooms.leave room identity with
  | .error error => (.error error, exchange)
  | .ok (rooms, events) => (.ok (), { exchange with rooms }.record events)

/-- End all memberships of an identity. -/
def leaveAll (exchange : Exchange) (identity : Identity) : Exchange :=
  let (rooms, events) := exchange.rooms.leaveAll identity
  { exchange with rooms }.record events

/-! ## Registration -/

/-- Register a connection under an identity. -/
def register (exchange : Exchange) (identity : Identity) (connection : Connection) :
    Except ExchangeError Unit × Exchange :=
  if exchange.running then
    match exchange.directory.add identity connection with
    | .error error => (.error (.directory error), exchange)
    | .ok directory => (.ok (), { exchange with directory }.record [.connected identity])
  else
    (.error .stopped, exchange)

/-- Remove a registered identity, whatever the reason. Its mailbox is closed,
its memberships end, and its departure is recorded. -/
def remove (exchange : Exchange) (identity : Identity) (departure : Departure) : Exchange :=
  match exchange.directory.find? identity with
  | none => exchange
  | some connection =>
      (({ exchange with directory := exchange.directory.erase identity }.modifyMailbox
        connection Mailbox.close).leaveAll identity).record [.disconnected identity departure]

/-- Remove an identity on request. -/
def unregister (exchange : Exchange) (identity : Identity) :
    Except ExchangeError Unit × Exchange :=
  if exchange.running then
    match exchange.directory.find? identity with
    | none => (.error (.directory (.notRegistered identity)), exchange)
    | some _ => (.ok (), exchange.remove identity .requested)
  else
    (.error .stopped, exchange)

/-- End a connection. Memberships end even if the identity has been removed
before, since it may have joined a room in the meantime. The answer says
whether the identity was still registered. -/
def disconnect (exchange : Exchange) (identity : Identity) :
    Except ExchangeError Bool × Exchange :=
  match exchange.unregister identity with
  | (.ok (), next) => (.ok true, next)
  | (.error (.directory (.notRegistered _)), next) => (.ok false, next.leaveAll identity)
  | (.error error, next) => (.error error, next)

/-! ## Delivery -/

/-- Remove an identity whose mailbox has refused a frame. -/
def shed (exchange : Exchange) (identity : Identity) : Refusal → Exchange
  | .full => (exchange.record [.messageDropped identity]).remove identity .slowConsumer
  | .closed => exchange.remove identity .writerClosed

/-- Deliver a frame to one registered identity. -/
def deliver (exchange : Exchange) (recipient : Identity) (frame : Bytes) :
    Except ExchangeError Unit × Exchange :=
  if exchange.running then
    match exchange.directory.get recipient with
    | .error error => (.error (.directory error), exchange)
    | .ok connection =>
        match exchange.enqueue connection frame with
        | .ok next => (.ok (), next)
        | .error refusal => (.error (.shed recipient), exchange.shed recipient refusal)
  else
    (.error .stopped, exchange)

/-- Offer a frame to a list of connections, one after the other. -/
def offerEach (frame : Bytes) : List (Identity × Connection) → Exchange → Report × Exchange
  | [], exchange => ({}, exchange)
  | (identity, connection) :: rest, exchange =>
      match exchange.enqueue connection frame with
      | .ok next =>
          let (report, last) := offerEach frame rest next
          ({ report with delivered := report.delivered + 1 }, last)
      | .error refusal =>
          let (report, last) := offerEach frame rest (exchange.shed identity refusal)
          ({ report with evicted := identity :: report.evicted }, last)

/-- The registered identities with their connections, in the order in which a
broadcast reaches them. -/
def snapshot (exchange : Exchange) : List (Identity × Connection) :=
  exchange.arrangement.arrange exchange.log exchange.directory.entries

/-- Deliver a frame to every registered identity but one. -/
def broadcast (exchange : Exchange) (frame : Bytes) (excluded : Option Identity) :
    Except ExchangeError Report × Exchange :=
  if exchange.running then
    let recipients := exchange.snapshot.filter fun (identity, _) => excluded ≠ some identity
    let (report, next) := offerEach frame recipients exchange
    (.ok report, next)
  else
    (.error .stopped, exchange)

/-- Stop serving requests. Nothing else changes. -/
def stop (exchange : Exchange) : Exchange :=
  { exchange with running := false }

/-- The number of events of each kind so far. -/
def tally (exchange : Exchange) : Tally :=
  Tally.ofLog exchange.log.toList

end Exchange

end Switchboard
