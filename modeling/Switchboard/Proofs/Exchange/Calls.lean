import Switchboard.Exchange.Operation

/-!
# The requests behind an operation

A frame of a client comes down to at most one request to the exchange, unless
it is about a room. What goes wrong with it may lead to one more request,
which delivers the complaint to the sender. So every operation makes at most
two requests, each in a state of its own.
-/

namespace Switchboard

namespace Request

/-- The request delivers frames. -/
def isDelivery : Request → Bool
  | deliver _ _ | broadcast _ _ => true
  | register _ _ | unregister _ => false

/-- The request means an identity, provided that it is registered. -/
def addresses (identity : Identity) : Request → Bool
  | deliver recipient _ => recipient = identity
  | broadcast _ excluded => excluded ≠ some identity
  | register _ _ | unregister _ => false

end Request

namespace Exchange

variable {exchange : Exchange} {sender : Identity} {frame : Bytes} {request : Request}

/-- The request that a command of a sender comes down to. -/
def asked? (exchange : Exchange) (sender : Identity) : Command → Option Request
  | .broadcast payload =>
      some (.broadcast (exchange.broadcastNotice sender payload).frame (some sender))
  | .signal signal =>
      signal.recipient.map fun recipient => .deliver recipient (Notice.ofSignal signal).frame
  | .list room => some (.deliver sender (exchange.listNotice sender room).frame)
  | .me => some (.deliver sender (exchange.meNotice sender).frame)
  | .join _ | .leave _ => none

/-- The request that a frame of a sender comes down to. -/
def routed? (exchange : Exchange) (sender : Identity) (frame : Bytes) : Option Request :=
  if exchange.directory.contains sender then
    match Command.read exchange.vocabulary sender frame with
    | .error _ => none
    | .ok command => exchange.asked? sender command
  else
    none

/-- The request that tells a sender what went wrong with its frame. -/
def complaint? (exchange : Exchange) (sender : Identity) (frame : Bytes) : Option Request :=
  match (exchange.dispatch sender frame).1 with
  | .ok () => none
  | .error error =>
      if error.isReported then
        some (.deliver sender (Notice.error sender error.message).frame)
      else
        none

/-- The requests that an operation makes, each with the state in which it is
served. -/
def calls (exchange : Exchange) : Operation → List (Exchange × Request)
  | .request request => [(exchange, request)]
  | .disconnect identity => [(exchange, .unregister identity)]
  | .dispatch sender frame => (exchange.routed? sender frame).toList.map (exchange, ·)
  | .handle sender frame =>
      (exchange.routed? sender frame).toList.map (exchange, ·) ++
        (exchange.complaint? sender frame).toList.map ((exchange.dispatch sender frame).2, ·)
  | _ => []

/-! ## Frames of clients -/

/-- What a frame of a sender can do to the exchange. -/
inductive Dispatched (exchange : Exchange) (sender : Identity) (frame : Bytes) :
    Exchange → Prop
  | served {request : Request} (routed : exchange.routed? sender frame = some request) :
      Dispatched exchange sender frame (exchange.serve request).2
  | joined {room : String} (registered : exchange.directory.contains sender = true)
      (unrouted : exchange.routed? sender frame = none) :
      Dispatched exchange sender frame (exchange.join room sender).2
  | left {room : String} (unrouted : exchange.routed? sender frame = none) :
      Dispatched exchange sender frame (exchange.leave room sender).2
  | unchanged (unrouted : exchange.routed? sender frame = none) :
      Dispatched exchange sender frame exchange

theorem dispatched_dispatch (exchange : Exchange) (sender : Identity) (frame : Bytes) :
    Dispatched exchange sender frame (exchange.dispatch sender frame).2 := by
  rw [dispatch]
  by_cases registered : exchange.directory.contains sender
  · rw [if_pos registered]
    cases read : Command.read exchange.vocabulary sender frame with
    | error error => exact .unchanged (by simp [routed?, read])
    | ok command =>
        have routing : exchange.routed? sender frame = exchange.asked? sender command := by
          simp [routed?, registered, read]
        cases command with
        | broadcast payload => exact .served routing
        | join room => exact .joined registered routing
        | leave room => exact .left routing
        | list room => exact .served routing
        | me => exact .served routing
        | signal signal =>
            cases meant : signal.recipient with
            | none =>
                have unmoved : (exchange.carryOut sender (.signal signal)).2 = exchange := by
                  simp [carryOut, Signal.forward, meant]
                dsimp only
                rw [unmoved]
                exact .unchanged (by rw [routing, asked?, meant, Option.map_none])
            | some recipient =>
                have passed : (exchange.carryOut sender (.signal signal)).2 =
                    (exchange.serve (.deliver recipient (Notice.ofSignal signal).frame)).2 := by
                  simp [carryOut, Signal.forward, meant, serve]
                dsimp only
                rw [passed]
                exact .served (by rw [routing, asked?, meant, Option.map_some])
  · rw [if_neg registered]
    exact .unchanged (by simp [routed?, registered])

theorem handle_eq (exchange : Exchange) (sender : Identity) (frame : Bytes) :
    exchange.handle sender frame =
      match exchange.complaint? sender frame with
      | none => (exchange.dispatch sender frame).2
      | some request => ((exchange.dispatch sender frame).2.serve request).2 := by
  rw [handle, complaint?]
  rcases exchange.dispatch sender frame with ⟨result, next⟩
  cases result with
  | ok _ => rfl
  | error error =>
      by_cases reported : error.isReported
      · simp [reported, serve]
      · simp [reported]

theorem isDelivery_of_routed? (routed : exchange.routed? sender frame = some request) :
    request.isDelivery = true := by
  rw [routed?] at routed
  split at routed
  · split at routed
    · contradiction
    · rename_i command _
      cases command with
      | broadcast | list | me =>
          cases routed
          rfl
      | join | leave => contradiction
      | signal signal =>
          obtain ⟨recipient, _, rfl⟩ := Option.map_eq_some_iff.mp routed
          rfl
  · contradiction

theorem complaint?_eq_some (complained : exchange.complaint? sender frame = some request) :
    ∃ error, (exchange.dispatch sender frame).1 = .error error ∧ error.isReported = true ∧
      request = .deliver sender (Notice.error sender error.message).frame := by
  rw [complaint?] at complained
  split at complained
  · contradiction
  · rename_i error failed
    split at complained
    · rename_i reported
      exact ⟨error, failed, reported, (Option.some.inj complained).symm⟩
    · contradiction

end Exchange

end Switchboard
