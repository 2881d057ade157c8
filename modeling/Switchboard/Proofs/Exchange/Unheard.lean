import Switchboard.Proofs.Exchange.Changes
import Switchboard.Proofs.Exchange.Relaying
import Switchboard.Proofs.Exchange.Slot

/-!
# Errors that nobody hears

An error cannot be told to a sender that is not registered, nor to anybody once
the exchange has stopped. Then the frame leaves the exchange as carrying it out
has left it, whether the error is one of those that are told or not.

Most errors of this sort are not among those that are told. The exceptions are
the outage of an exchange to which a signal was meant to go, and the eviction of
the sender by its own frame.
-/

namespace Switchboard

/-- The exchange has stopped. -/
def ExchangeError.isOutage : ExchangeError → Bool
  | stopped => true
  | directory _ | shed _ => false

namespace DispatchError

/-- The frame was not carried out because the exchange has stopped. -/
def isOutage : DispatchError → Bool
  | exchange reason | signal (.undelivered _ reason) => reason.isOutage
  | signal .recipientMissing | signal (.encoding _) => false
  | senderGone _ | command _ | room _ | encoding _ => false

/-- The error has come up in passing on a signal. -/
def isOfSignal : DispatchError → Bool
  | signal _ => true
  | senderGone _ | command _ | room _ | exchange _ | encoding _ => false

/-- An outage is told to the senders of signals, and to no others. -/
theorem isReported_of_isOutage {error : DispatchError} (outage : error.isOutage = true) :
    error.isReported = error.isOfSignal := by
  cases error with
  | exchange reason =>
      cases reason with
      | stopped => rfl
      | directory | shed => contradiction
  | signal reason => rfl
  | senderGone | command | room | encoding => contradiction

theorem shed?_of_isOutage {error : DispatchError} (outage : error.isOutage = true) :
    error.shed? = none := by
  cases error with
  | exchange reason =>
      cases reason with
      | stopped => rfl
      | directory | shed => contradiction
  | signal reason =>
      cases reason with
      | undelivered recipient reason =>
          cases reason with
          | stopped => rfl
          | directory | shed => contradiction
      | recipientMissing | encoding => contradiction
  | senderGone | command | room | encoding => contradiction

/-- An eviction is told, whoever is evicted. -/
theorem isReported_of_shed? {error : DispatchError} {identity : Identity}
    (evicted : error.shed? = some identity) : error.isReported = true := by
  cases error with
  | exchange reason =>
      cases reason with
      | shed => rfl
      | directory | stopped => contradiction
  | signal reason => rfl
  | senderGone | command | room | encoding => contradiction

end DispatchError

namespace Exchange

variable {exchange : Exchange} {recipient sender : Identity} {frame : Bytes}

/-! ## Outages -/

theorem isOutage_deliver {error : ExchangeError}
    (failed : (exchange.deliver recipient frame).1 = .error error) :
    error.isOutage = !exchange.running := by
  have outcome := exchange.delivery_deliver recipient frame
  generalize exchange.deliver recipient frame = result at outcome failed
  cases outcome with
  | stopped idle =>
      cases failed
      rw [idle]
      rfl
  | queued => contradiction
  | unknown serving | shed serving =>
      cases failed
      rw [serving]
      rfl

theorem isOutage_broadcast {excluded : Option Identity} {error : ExchangeError}
    (failed : (exchange.broadcast frame excluded).1 = .error error) :
    error.isOutage = !exchange.running := by
  rw [broadcast] at failed
  split at failed
  · contradiction
  · rename_i idle
    cases failed
    rw [Bool.eq_false_iff.mpr idle]
    rfl

/-- Whatever asks for a request fails with an outage if the exchange has stopped,
and only then. -/
theorem isOutage_carryOut {command : Command} {error : DispatchError}
    (failed : (exchange.carryOut sender command).1 = .error error) :
    error.isOutage = (!exchange.running && (exchange.asked? sender command).isSome) := by
  cases command with
  | broadcast payload =>
      rcases mapError_eq_error_iff.mp failed with ⟨reason, refused, rfl⟩
      rw [asked?, Option.isSome_some, Bool.and_true]
      exact isOutage_broadcast (map_eq_error_iff.mp refused)
  | signal signal =>
      rw [carryOut, Signal.forward] at failed
      rw [asked?]
      cases meant : signal.recipient with
      | none =>
          rw [meant] at failed
          cases failed
          rw [Option.map_none, Option.isSome_none, Bool.and_false]
          rfl
      | some recipient =>
          rw [meant] at failed
          rcases mapError_eq_error_iff.mp failed with ⟨undelivered, unforwarded, rfl⟩
          rcases mapError_eq_error_iff.mp unforwarded with ⟨reason, refused, rfl⟩
          rw [Option.map_some, Option.isSome_some, Bool.and_true]
          exact isOutage_deliver refused
  | join | leave =>
      rcases mapError_eq_error_iff.mp failed with ⟨reason, refused, rfl⟩
      rw [asked?, Option.isSome_none, Bool.and_false]
      rfl
  | list | me =>
      rcases mapError_eq_error_iff.mp failed with ⟨reason, refused, rfl⟩
      rw [asked?, Option.isSome_some, Bool.and_true]
      exact isOutage_deliver refused

theorem isOfSignal_carryOut {command : Command} {error : DispatchError}
    (failed : (exchange.carryOut sender command).1 = .error error) :
    error.isOfSignal = true ↔ ∃ signal, command = .signal signal := by
  cases command with
  | signal signal =>
      rcases mapError_eq_error_iff.mp failed with ⟨reason, refused, rfl⟩
      exact iff_of_true rfl ⟨signal, rfl⟩
  | broadcast | join | leave | list | me =>
      rcases mapError_eq_error_iff.mp failed with ⟨reason, refused, rfl⟩
      simp [DispatchError.isOfSignal]

theorem isOutage_dispatch {error : DispatchError}
    (failed : (exchange.dispatch sender frame).1 = .error error) :
    error.isOutage = (!exchange.running && (exchange.routed? sender frame).isSome) := by
  rw [dispatch] at failed
  rw [routed?]
  split at failed
  · rename_i registered
    rw [if_pos registered]
    cases read : Command.read exchange.vocabulary sender frame with
    | error reason =>
        rw [read] at failed
        cases failed
        exact (Bool.and_false _).symm
    | ok command =>
        rw [read] at failed
        exact isOutage_carryOut failed
  · rename_i unregistered
    cases failed
    rw [if_neg unregistered, Option.isSome_none, Bool.and_false]
    rfl

theorem isOfSignal_dispatch {error : DispatchError}
    (failed : (exchange.dispatch sender frame).1 = .error error) :
    error.isOfSignal = true ↔ exchange.directory.contains sender = true ∧
      ∃ signal, Command.read exchange.vocabulary sender frame = .ok (.signal signal) := by
  rw [dispatch] at failed
  split at failed
  · rename_i registered
    rw [and_iff_right registered]
    cases read : Command.read exchange.vocabulary sender frame with
    | error reason =>
        rw [read] at failed
        cases failed
        simp [DispatchError.isOfSignal]
    | ok command =>
        rw [read] at failed
        simpa using isOfSignal_carryOut failed
  · rename_i unregistered
    cases failed
    simp [DispatchError.isOfSignal, unregistered]

/-! ## Senders that are gone -/

/-- Whoever is no longer registered after a failure has been so before, or has
been evicted by it. -/
theorem Fails.eq_of_evicts {shed : Option Identity} {next : Exchange}
    (fails : exchange.Fails shed next) {identity : Identity}
    (evicted : exchange.Evicts next identity) : shed = some identity := by
  cases shed with
  | none =>
      rw [show next = exchange from fails] at evicted
      exact absurd evicted (not_evicts_of_directory rfl)
  | some other =>
      rcases fails with ⟨connection, refusal, found, rfl⟩
      have before := evicted.1
      have after := evicted.2
      rw [directory_depart found, Directory.contains_erase, before, Bool.and_true,
        decide_eq_false_iff_not, not_not] at after
      rw [after]

theorem isReported_dispatch_of_gone {error : DispatchError}
    (failed : (exchange.dispatch sender frame).1 = .error error)
    (gone : (exchange.dispatch sender frame).2.directory.contains sender = false) :
    error.isReported = exchange.directory.contains sender := by
  cases registered : exchange.directory.contains sender with
  | true =>
      exact DispatchError.isReported_of_shed?
        ((fails_dispatch failed).eq_of_evicts ⟨registered, gone⟩)
  | false =>
      rw [dispatch, if_neg (Bool.eq_false_iff.mp registered)] at failed
      cases failed
      rfl

/-! ## Telling nobody -/

theorem deliver_snd_of_unregistered (absent : exchange.directory.contains recipient = false) :
    (exchange.deliver recipient frame).2 = exchange := by
  have outcome := exchange.delivery_deliver recipient frame
  generalize exchange.deliver recipient frame = result at outcome ⊢
  cases outcome with
  | stopped | unknown => rfl
  | queued _ found | shed _ found =>
      rw [Directory.contains_of_find? found] at absent
      contradiction

theorem handle_eq_dispatch (unheard : (exchange.dispatch sender frame).2.running = false ∨
      (exchange.dispatch sender frame).2.directory.contains sender = false) :
    exchange.handle sender frame = (exchange.dispatch sender frame).2 := by
  rw [handle_eq]
  cases complained : exchange.complaint? sender frame with
  | none => rfl
  | some request =>
      rcases complaint?_eq_some complained with ⟨error, _, _, rfl⟩
      change (Exchange.deliver _ sender _).2 = _
      rcases unheard with idle | gone
      · rw [deliver_of_stopped idle]
      · exact deliver_snd_of_unregistered gone

/-- Whatever the state of the exchange, a frame that fails since the exchange has
stopped, or whose sender is not registered afterwards, leaves nothing else behind
even if its error is one of those that are told. That is so for an outage if the
frame is a signal, and for a sender that is gone if it was there before, so that
it has been evicted by its own frame. -/
theorem unheard_errors {error : DispatchError}
    (failed : (exchange.dispatch sender frame).1 = .error error) :
    let next := (exchange.dispatch sender frame).2
    (error.isOutage = true ↔
      exchange.running = false ∧ (exchange.routed? sender frame).isSome = true) ∧
    (error.isOutage = true →
      next = exchange ∧ exchange.handle sender frame = exchange ∧
        (error.isReported = true ↔
          ∃ signal, Command.read exchange.vocabulary sender frame = .ok (.signal signal))) ∧
    (next.directory.contains sender = false →
      exchange.handle sender frame = next ∧
        (error.isReported = true ↔ exchange.directory.contains sender = true) ∧
        (exchange.directory.contains sender = true → error.shed? = some sender)) := by
  intro next
  have fails : exchange.Fails error.shed? next := fails_dispatch failed
  have outages : error.isOutage = true ↔
      exchange.running = false ∧ (exchange.routed? sender frame).isSome = true := by
    rw [isOutage_dispatch failed, Bool.and_eq_true, Bool.not_eq_true']
  refine ⟨outages, fun outage => ?_, fun gone => ?_⟩
  · obtain ⟨idle, routed⟩ := outages.mp outage
    rw [DispatchError.shed?_of_isOutage outage] at fails
    have unmoved : next = exchange := fails
    have registered : exchange.directory.contains sender = true := by
      by_contra unregistered
      rw [routed?, if_neg unregistered] at routed
      contradiction
    refine ⟨unmoved, ?_, ?_⟩
    · have stillIdle : next.running = false := by rw [unmoved, idle]
      exact (handle_eq_dispatch (.inl stillIdle)).trans unmoved
    · rw [DispatchError.isReported_of_isOutage outage, isOfSignal_dispatch failed,
        and_iff_right registered]
  · exact ⟨handle_eq_dispatch (.inr gone), by rw [isReported_dispatch_of_gone failed gone],
      fun registered => fails.eq_of_evicts ⟨registered, gone⟩⟩

/-- Alice asks who she is. -/
def whoAmI : Bytes :=
  Text.utf8 "[\"me\"]"

theorem dispatch_toBob_stopped :
    (pair.stop.dispatch ⟨"alice"⟩ toBob).1 = .error (.signal (.undelivered ⟨"bob"⟩ .stopped)) := by
  have registered : pair.stop.directory.contains ⟨"alice"⟩ = true := by decide +kernel
  have read : Command.read pair.stop.vocabulary ⟨"alice"⟩ toBob = .ok (.signal
      ⟨.offer, "offer", ⟨"alice"⟩, none, some ⟨"bob"⟩, some ⟨"1e0"⟩⟩) := by
    decide +kernel
  rw [dispatch_of_read registered read]
  rfl

theorem contains_alice_fullHall :
    ((start .standard 256).run fullHall).directory.contains ⟨"alice"⟩ = true := by
  decide +kernel

theorem deliver_alice_fullHall (content : Bytes) :
    (((start .standard 256).run fullHall).deliver ⟨"alice"⟩ content).1 =
      .error (.shed ⟨"alice"⟩) := by
  have serving : ((start .standard 256).run fullHall).running = true := by decide +kernel
  have found : ((start .standard 256).run fullHall).directory.find? ⟨"alice"⟩ = some 0 := by
    decide +kernel
  have noSlot : ((start .standard 256).run fullHall).hasSlot ⟨"alice"⟩ = false := by decide +kernel
  rw [deliver_fst serving found, deliveryTo, noSlot]
  rfl

theorem dispatch_whoAmI_fullHall :
    (((start .standard 256).run fullHall).dispatch ⟨"alice"⟩ whoAmI).1 =
      .error (.exchange (.shed ⟨"alice"⟩)) := by
  have read : Command.read ((start .standard 256).run fullHall).vocabulary ⟨"alice"⟩ whoAmI =
      .ok .me := by
    decide +kernel
  rw [dispatch_of_read contains_alice_fullHall read, carryOut, answer]
  dsimp only
  rw [deliver_alice_fullHall]
  rfl

theorem contains_whoAmI_fullHall :
    (((start .standard 256).run fullHall).dispatch ⟨"alice"⟩ whoAmI).2.directory.contains
      ⟨"alice"⟩ = false := by
  decide +kernel

/-- Alice offers Bob something when the exchange has stopped, and when there is no
room she asks who she is. She hears of neither error. -/
theorem unheard_errors_alice :
    let full := (start .standard 256).run fullHall
    (pair.stop.dispatch ⟨"alice"⟩ toBob).1 = .error (.signal (.undelivered ⟨"bob"⟩ .stopped)) ∧
      pair.stop.handle ⟨"alice"⟩ toBob = pair.stop ∧
      (full.dispatch ⟨"alice"⟩ whoAmI).1 = .error (.exchange (.shed ⟨"alice"⟩)) ∧
      (full.dispatch ⟨"alice"⟩ whoAmI).2.directory.contains ⟨"alice"⟩ = false ∧
      full.handle ⟨"alice"⟩ whoAmI = (full.dispatch ⟨"alice"⟩ whoAmI).2 := by
  intro full
  have outage := unheard_errors dispatch_toBob_stopped
  have eviction := unheard_errors dispatch_whoAmI_fullHall
  exact ⟨dispatch_toBob_stopped, (outage.2.1 rfl).2.1, dispatch_whoAmI_fullHall,
    contains_whoAmI_fullHall, (eviction.2.2 contains_whoAmI_fullHall).1⟩

/-- Alice offers herself something. -/
def toHerself : Bytes :=
  Text.utf8 "[\"offer\",null,\"alice\",1]"

theorem dispatch_toHerself_fullHall :
    (((start .standard 256).run fullHall).dispatch ⟨"alice"⟩ toHerself).1 =
      .error (.signal (.undelivered ⟨"alice"⟩ (.shed ⟨"alice"⟩))) := by
  have read : Command.read ((start .standard 256).run fullHall).vocabulary ⟨"alice"⟩ toHerself =
      .ok (.signal ⟨.offer, "offer", ⟨"alice"⟩, none, some ⟨"alice"⟩, some ⟨"1"⟩⟩) := by
    decide +kernel
  rw [dispatch_of_read contains_alice_fullHall read, carryOut, Signal.forward]
  dsimp only
  rw [deliver_alice_fullHall]
  rfl

/-- Among the errors that are told are the evictions of Alice by her own question
and by her own offer, although neither leaves anybody to tell it to. The outage
that a signal meets is one of them, too. -/
theorem unheard_errors_are_reported :
    let full := (start .standard 256).run fullHall
    let asking := DispatchError.exchange (.shed ⟨"alice"⟩)
    let offering := DispatchError.signal (.undelivered ⟨"alice"⟩ (.shed ⟨"alice"⟩))
    let outage := DispatchError.signal (.undelivered ⟨"bob"⟩ .stopped)
    ((full.dispatch ⟨"alice"⟩ whoAmI).1 = .error asking ∧
      (full.dispatch ⟨"alice"⟩ whoAmI).2.directory.contains ⟨"alice"⟩ = false ∧
        asking.isReported = true) ∧
    ((full.dispatch ⟨"alice"⟩ toHerself).1 = .error offering ∧
      (full.dispatch ⟨"alice"⟩ toHerself).2.directory.contains ⟨"alice"⟩ = false ∧
        offering.isReported = true) ∧
    outage.isOutage = true ∧ outage.isReported = true := by
  intro full asking offering outage
  have gone : (full.dispatch ⟨"alice"⟩ toHerself).2.directory.contains ⟨"alice"⟩ = false := by
    decide +kernel
  exact ⟨⟨dispatch_whoAmI_fullHall, contains_whoAmI_fullHall, rfl⟩,
    ⟨dispatch_toHerself_fullHall, gone, rfl⟩, rfl, rfl⟩

end Exchange

end Switchboard
