import Switchboard.Exchange

/-!
# Waiting requests

Requests wait in three lines: registrations, removals, and everything that
delivers frames. Whenever the exchange is free it takes the oldest request of
the first line that is not empty. So a frame never overtakes a registration,
and within a line requests are served in the order in which they came.
-/

namespace Switchboard

/-- What can be asked of the exchange. -/
inductive Request
  | register (identity : Identity) (connection : Connection)
  | unregister (identity : Identity)
  | deliver (recipient : Identity) (frame : Bytes)
  | broadcast (frame : Bytes) (excluded : Option Identity)
  deriving DecidableEq, Repr

/-- What the exchange answers. -/
inductive Response
  | done (result : Except ExchangeError Unit)
  | report (result : Except ExchangeError Report)

/-- Serve one request. -/
def Exchange.serve (exchange : Exchange) : Request → Response × Exchange
  | .register identity connection =>
      let (result, next) := exchange.register identity connection
      (.done result, next)
  | .unregister identity =>
      let (result, next) := exchange.unregister identity
      (.done result, next)
  | .deliver recipient frame =>
      let (result, next) := exchange.deliver recipient frame
      (.done result, next)
  | .broadcast frame excluded =>
      let (result, next) := exchange.broadcast frame excluded
      (.report result, next)

/-- A request with the number by which its answer is found again. -/
abbrev Ticket := Nat × Request

/-- The three lines of waiting requests. -/
structure Inbox where
  registrations : List Ticket := []
  removals : List Ticket := []
  deliveries : List Ticket := []
  deriving DecidableEq, Repr

namespace Inbox

/-- The longest line that can be set up. -/
def lengthLimit : Nat :=
  1 <<< 61 - 1

/-- Put a request at the end of its line. -/
def push (inbox : Inbox) (ticket : Ticket) : Inbox :=
  match ticket.2 with
  | .register _ _ => { inbox with registrations := inbox.registrations ++ [ticket] }
  | .unregister _ => { inbox with removals := inbox.removals ++ [ticket] }
  | .deliver _ _ | .broadcast _ _ => { inbox with deliveries := inbox.deliveries ++ [ticket] }

/-- The inbox in which a list of requests waits, numbered from zero. -/
def ofRequests (requests : List Request) : Inbox :=
  (requests.zipIdx.map Prod.swap).foldl push {}

/-- The number of waiting requests. -/
def size (inbox : Inbox) : Nat :=
  inbox.registrations.length + inbox.removals.length + inbox.deliveries.length

/-- Take the request that is served next. -/
def next? (inbox : Inbox) : Option (Ticket × Inbox) :=
  match inbox with
  | { registrations := ticket :: rest, removals, deliveries } =>
      some (ticket, { registrations := rest, removals, deliveries })
  | { registrations := [], removals := ticket :: rest, deliveries } =>
      some (ticket, { registrations := [], removals := rest, deliveries })
  | { registrations := [], removals := [], deliveries := ticket :: rest } =>
      some (ticket, { registrations := [], removals := [], deliveries := rest })
  | { registrations := [], removals := [], deliveries := [] } => none

/-- Taking a request leaves one less. -/
theorem size_of_next? {inbox rest : Inbox} {ticket : Ticket}
    (taken : inbox.next? = some (ticket, rest)) : inbox.size = rest.size + 1 := by
  unfold next? at taken
  split at taken <;> cases taken <;> simp [size] <;> omega

end Inbox

namespace Exchange

/-- Serve all waiting requests. Each answer carries the number of its request. -/
def serveAll (exchange : Exchange) (inbox : Inbox) : List (Nat × Response) × Exchange :=
  match _taken : inbox.next? with
  | none => ([], exchange)
  | some ((number, request), rest) =>
      let (response, next) := exchange.serve request
      let (responses, last) := next.serveAll rest
      ((number, response) :: responses, last)
termination_by inbox.size
decreasing_by
  have less := Inbox.size_of_next? _taken
  omega

/-- Let a list of requests wait and serve them all. The answers are given in
the order of the requests. -/
def serveBatch (exchange : Exchange) (requests : List Request) : List Response × Exchange :=
  let (responses, last) := exchange.serveAll (.ofRequests requests)
  ((List.range requests.length).filterMap fun number => responses.lookup number, last)

end Exchange

end Switchboard
