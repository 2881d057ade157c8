import Switchboard.Proofs.Exchange.Relaying
import Switchboard.Proofs.Exchange.Slot

/-!
# Signals and rooms

A signal goes from one client to another, and who is in which room has no part
in it. Two exchanges that differ in their rooms alone do the same with it, even
if the recipient is evicted and leaves different rooms in the one and in the
other.

Passing on a signal is one delivery to its recipient, if it has one, and nothing
besides. This is so for any way of delivery, whatever comes of it.
-/

namespace Switchboard

/-! ## Passing on -/

/-- A way to deliver a frame to an identity. -/
abbrev Deliver (State : Type) :=
  Identity → Bytes → State → Except ExchangeError Unit × State

namespace Deliver

variable {State : Type}

/-- Deliver as before, and note each delivery beside the state. -/
def noting (deliver : Deliver State) : Deliver (State × List (Identity × Bytes)) :=
  fun recipient frame (state, noted) =>
    let (delivered, next) := deliver recipient frame state
    (delivered, next, noted ++ [(recipient, frame)])

end Deliver

namespace Signal

variable {State : Type}

/-- The deliveries by which a signal is passed on. -/
def deliveries (signal : Signal) : List (Identity × Bytes) :=
  signal.recipient.toList.map fun recipient => (recipient, (Notice.ofSignal signal).frame)

/-- What is noted are the deliveries of the signal, and noting them changes nothing. -/
theorem forward_noting (signal : Signal) (deliver : Deliver State) (state : State)
    (noted : List (Identity × Bytes)) :
    signal.forward deliver.noting (state, noted) =
      ((signal.forward deliver state).1, (signal.forward deliver state).2,
        noted ++ signal.deliveries) := by
  rw [forward, forward, deliveries]
  cases signal.recipient with
  | none => rw [Option.toList_none, List.map_nil, List.append_nil]
  | some recipient => rfl

/-- The state changes by the deliveries of the signal alone. -/
theorem forward_snd (signal : Signal) (deliver : Deliver State) (state : State) :
    (signal.forward deliver state).2 =
      signal.deliveries.foldl (fun before (recipient, frame) => (deliver recipient frame before).2)
        state := by
  rw [forward, deliveries]
  cases signal.recipient with
  | none => rfl
  | some recipient => rfl

/-- What no delivery changes is not changed by passing on a signal. -/
theorem forward_spares {View : Type} {view : State → View} {deliver : Deliver State}
    (spared : ∀ recipient frame state, view (deliver recipient frame state).2 = view state)
    (signal : Signal) (state : State) : view (signal.forward deliver state).2 = view state := by
  rw [forward_snd]
  induction signal.deliveries generalizing state with
  | nil => rfl
  | cons delivery rest ih => rw [List.foldl_cons, ih, spared]

end Signal

/-! ## Exchanges with other rooms -/

namespace Exchange

variable {exchange other last : Exchange} {sender identity : Identity} {frame : Bytes}
  {signal : Signal}

/-- The exchanges are the same, except perhaps for their rooms and for what has
happened. -/
structure SameBesidesRooms (exchange other : Exchange) : Prop where
  vocabulary : other.vocabulary = exchange.vocabulary
  queueCapacity : other.queueCapacity = exchange.queueCapacity
  running : other.running = exchange.running
  directory : other.directory = exchange.directory
  mailboxes : other.mailboxes = exchange.mailboxes

namespace SameBesidesRooms

theorem trans (same : SameBesidesRooms exchange other) (next : SameBesidesRooms other last) :
    SameBesidesRooms exchange last where
  vocabulary := next.vocabulary.trans same.vocabulary
  queueCapacity := next.queueCapacity.trans same.queueCapacity
  running := next.running.trans same.running
  directory := next.directory.trans same.directory
  mailboxes := next.mailboxes.trans same.mailboxes

/-- Who enters a room changes nothing but the rooms. -/
theorem join (exchange : Exchange) (room : String) (identity : Identity) :
    SameBesidesRooms exchange (exchange.join room identity).2 := by
  rw [Exchange.join]
  split <;> exact ⟨rfl, rfl, rfl, rfl, rfl⟩

/-- Who leaves a room changes nothing but the rooms. -/
theorem leave (exchange : Exchange) (room : String) (identity : Identity) :
    SameBesidesRooms exchange (exchange.leave room identity).2 := by
  rw [Exchange.leave]
  split <;> exact ⟨rfl, rfl, rfl, rfl, rfl⟩

theorem refusal?_eq (same : SameBesidesRooms exchange other) (identity : Identity) :
    other.refusal? identity = exchange.refusal? identity := by
  rw [refusal?, refusal?, mailboxOf?, mailboxOf?, same.directory, same.mailboxes]

theorem modifyMailbox (same : SameBesidesRooms exchange other) (connection : Connection)
    (change : Mailbox → Mailbox) :
    SameBesidesRooms (exchange.modifyMailbox connection change)
      (other.modifyMailbox connection change) :=
  { same with mailboxes := congrArg (Array.modify · connection change) same.mailboxes }

/-- Whoever departs leaves the rooms of the one or of the other. -/
theorem depart (same : SameBesidesRooms exchange other) {connection : Connection}
    (found : exchange.directory.find? identity = some connection) (departure : Departure) :
    SameBesidesRooms (exchange.depart identity departure) (other.depart identity departure) := by
  have foundOther : other.directory.find? identity = some connection := by
    rw [same.directory, found]
  rw [depart_eq found, depart_eq foundOther]
  exact
    { same with
      directory := congrArg (Directory.erase · identity) same.directory
      mailboxes := congrArg (Array.modify · connection Mailbox.close) same.mailboxes }

/-- No delivery looks into the rooms. -/
theorem deliver (same : SameBesidesRooms exchange other) (recipient : Identity) (frame : Bytes) :
    (other.deliver recipient frame).1 = (exchange.deliver recipient frame).1 ∧
      SameBesidesRooms (exchange.deliver recipient frame).2
        (other.deliver recipient frame).2 := by
  cases serving : exchange.running with
  | false =>
      rw [deliver_of_stopped serving, deliver_of_stopped (same.running.trans serving)]
      exact ⟨rfl, same⟩
  | true =>
      rw [deliver_eq serving, deliver_eq (same.running.trans serving), same.directory,
        same.refusal?_eq]
      cases found : exchange.directory.find? recipient with
      | none => exact ⟨rfl, same⟩
      | some connection =>
          cases exchange.refusal? recipient with
          | none => exact ⟨rfl, same.modifyMailbox connection (.put frame)⟩
          | some refusal => exact ⟨rfl, same.depart found refusal.departure⟩

theorem carryOut_signal (same : SameBesidesRooms exchange other) (sender : Identity)
    (signal : Signal) :
    (other.carryOut sender (.signal signal)).1 = (exchange.carryOut sender (.signal signal)).1 ∧
      SameBesidesRooms (exchange.carryOut sender (.signal signal)).2
        (other.carryOut sender (.signal signal)).2 := by
  rw [carryOut, carryOut, Signal.forward, Signal.forward]
  cases signal.recipient with
  | none => exact ⟨rfl, same⟩
  | some recipient =>
      obtain ⟨outcome, still⟩ := same.deliver recipient (Notice.ofSignal signal).frame
      exact ⟨congrArg (fun delivered =>
        (delivered.mapError (SignalError.undelivered recipient)).mapError DispatchError.signal)
          outcome, still⟩

theorem dispatch_signal (same : SameBesidesRooms exchange other)
    (read : Command.read exchange.vocabulary sender frame = .ok (.signal signal)) :
    (other.dispatch sender frame).1 = (exchange.dispatch sender frame).1 ∧
      SameBesidesRooms (exchange.dispatch sender frame).2 (other.dispatch sender frame).2 := by
  rw [dispatch, dispatch, same.directory, same.vocabulary, read]
  cases exchange.directory.contains sender with
  | false => exact ⟨rfl, same⟩
  | true => exact same.carryOut_signal sender signal

theorem handle_signal (same : SameBesidesRooms exchange other)
    (read : Command.read exchange.vocabulary sender frame = .ok (.signal signal)) :
    SameBesidesRooms (exchange.handle sender frame) (other.handle sender frame) := by
  obtain ⟨outcome, still⟩ := same.dispatch_signal read
  rw [handle, handle]
  -- Both are told the same error, if any, which is one more delivery to the sender.
  generalize exchange.dispatch sender frame = dispatched at outcome still
  generalize other.dispatch sender frame = dispatchedOther at outcome still
  rcases dispatched with ⟨result, next⟩
  rcases dispatchedOther with ⟨_, nextOther⟩
  cases outcome
  cases result with
  | ok => exact still
  | error error =>
      dsimp only
      split
      · exact (still.deliver sender (Notice.error sender error.message).frame).2
      · exact still

end SameBesidesRooms

/-- Exchanges that differ in their rooms alone do the same with a signal, and differ
in nothing else afterwards. By whichever way a signal is delivered, it is passed on
by one delivery to its recipient, and by none if it has no recipient. So it does
not change who is in which room, unless a delivery does. -/
theorem signals_ignore_rooms (signal : Signal) :
    (∀ (exchange other : Exchange) (sender : Identity) (frame : Bytes),
      SameBesidesRooms exchange other →
      Command.read exchange.vocabulary sender frame = .ok (.signal signal) →
      (other.dispatch sender frame).1 = (exchange.dispatch sender frame).1 ∧
        SameBesidesRooms (exchange.dispatch sender frame).2 (other.dispatch sender frame).2 ∧
        SameBesidesRooms (exchange.handle sender frame) (other.handle sender frame)) ∧
    (∀ {State : Type} (deliver : Deliver State) (state : State),
      signal.forward deliver.noting (state, []) =
        ((signal.forward deliver state).1, (signal.forward deliver state).2,
          signal.recipient.toList.map fun recipient =>
            (recipient, (Notice.ofSignal signal).frame))) ∧
    ∀ {State : Type} (rooms : State → Rooms) (deliver : Deliver State) (state : State),
      (∀ recipient frame before, rooms (deliver recipient frame before).2 = rooms before) →
      rooms (signal.forward deliver state).2 = rooms state := by
  refine ⟨fun exchange other sender frame same read => ?_, fun deliver state => ?_,
    fun rooms deliver state spared => Signal.forward_spares spared signal state⟩
  · obtain ⟨outcome, still⟩ := same.dispatch_signal read
    exact ⟨outcome, still, same.handle_signal read⟩
  · exact signal.forward_noting deliver state []

/-- Carol has moved from the hall to the attic. Either way, what Bob tells her is too
much for her, and afterwards there is nothing left to tell the two apart but the rooms. -/
theorem signals_ignore_rooms_fullHall :
    let exchange := (start .standard 256).run fullHall
    let moved := (start .standard 256).run
      (fullHall ++ [.leave "hall" ⟨"carol"⟩, .join "attic" ⟨"carol"⟩])
    SameBesidesRooms exchange moved ∧
      ⟨"carol"⟩ ∈ exchange.rooms.peers "hall" ∧ ⟨"carol"⟩ ∈ moved.rooms.peers "attic" ∧
      (moved.dispatch ⟨"bob"⟩ toCarol).1 = (exchange.dispatch ⟨"bob"⟩ toCarol).1 ∧
      (exchange.dispatch ⟨"bob"⟩ toCarol).2.directory.contains ⟨"carol"⟩ = false ∧
      SameBesidesRooms (exchange.handle ⟨"bob"⟩ toCarol) (moved.handle ⟨"bob"⟩ toCarol) := by
  intro exchange moved
  have same : SameBesidesRooms exchange moved :=
    (SameBesidesRooms.leave exchange "hall" ⟨"carol"⟩).trans
      (.join (exchange.leave "hall" ⟨"carol"⟩).2 "attic" ⟨"carol"⟩)
  have evicted : (exchange.dispatch ⟨"bob"⟩ toCarol).2.directory.contains ⟨"carol"⟩ = false := by
    decide +kernel
  obtain ⟨outcome, _, handled⟩ :=
    (signals_ignore_rooms _).1 exchange moved ⟨"bob"⟩ toCarol same read_toCarol
  exact ⟨same, by decide +kernel, by decide +kernel, outcome, evicted, handled⟩

end Exchange

end Switchboard
