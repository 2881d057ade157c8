import Switchboard.Proofs.Exchange.Departure
import Switchboard.Proofs.Exchange.Membership

/-!
# What a failure leaves behind

An operation that fails changes nothing, with one exception. A delivery fails
when the mailbox of its recipient refuses the frame, and then the recipient is
shed: the exchange loses this identity and is otherwise as before. The frame
that was refused is in no queue.
-/

namespace Switchboard

/-- Who has been shed when the exchange has refused. -/
def ExchangeError.shed? : ExchangeError → Option Identity
  | shed identity => some identity
  | directory _ | stopped => none

/-- Who has been shed when a signal was not passed on. -/
def SignalError.shed? : SignalError → Option Identity
  | undelivered _ reason => reason.shed?
  | recipientMissing | encoding _ => none

/-- Who has been shed when a frame was not carried out. -/
def DispatchError.shed? : DispatchError → Option Identity
  | signal error => error.shed?
  | exchange error => error.shed?
  | senderGone _ | command _ | room _ | encoding _ => none

namespace Answer

/-- The answer tells that the operation has failed. -/
def isError : Answer → Bool
  | response (.done (.error _)) | response (.report (.error _)) => true
  | presence (.error _) | dispatched (.error _) | membership (.error _) => true
  | queued (.error _) => true
  | _ => false

/-- Who has been shed according to an answer. -/
def shed? : Answer → Option Identity
  | response (.done (.error error)) | response (.report (.error error)) => error.shed?
  | presence (.error error) => error.shed?
  | dispatched (.error error) => error.shed?
  | _ => none

end Answer

namespace Operation

/-- Only deliveries and frames of clients can shed anybody. -/
def canShed : Operation → Bool
  | .request (.deliver _ _) | .dispatch _ _ => true
  | _ => false

theorem canShed_eq_true_iff {operation : Operation} :
    operation.canShed = true ↔
      (∃ recipient frame, operation = .request (.deliver recipient frame)) ∨
        ∃ sender frame, operation = .dispatch sender frame := by
  cases operation with
  | request request => cases request <;> simp [canShed]
  | _ => simp [canShed]

end Operation

namespace Exchange

variable {exchange : Exchange} {identity recipient sender : Identity} {connection : Connection}
  {room : String} {frame : Bytes} {error : ExchangeError}

/-- A failure changes nothing, or it is the departure of an identity that has
been shed. -/
def Fails (exchange : Exchange) : Option Identity → Exchange → Prop
  | none, next => next = exchange
  | some identity, next => ∃ (connection : Connection) (refusal : Refusal),
      exchange.directory.find? identity = some connection ∧
        next = exchange.depart identity refusal.departure

theorem Fails.of_refusal {shed : Option Identity} {next : Exchange}
    (refused : shed = none ∧ next = exchange) : exchange.Fails shed next := by
  rw [refused.1]
  exact refused.2

/-! ## Requests -/

theorem refuses_register (failed : (exchange.register identity connection).1 = .error error) :
    error.shed? = none ∧ (exchange.register identity connection).2 = exchange := by
  revert failed
  rw [register]
  split
  · split
    · rintro ⟨⟩
      exact ⟨rfl, rfl⟩
    · rintro ⟨⟩
  · rintro ⟨⟩
    exact ⟨rfl, rfl⟩

theorem refuses_unregister (failed : (exchange.unregister identity).1 = .error error) :
    error.shed? = none ∧ (exchange.unregister identity).2 = exchange := by
  revert failed
  rw [unregister]
  split
  · split
    · rintro ⟨⟩
      exact ⟨rfl, rfl⟩
    · rintro ⟨⟩
  · rintro ⟨⟩
    exact ⟨rfl, rfl⟩

theorem fails_deliver (failed : (exchange.deliver recipient frame).1 = .error error) :
    exchange.Fails error.shed? (exchange.deliver recipient frame).2 := by
  have outcome := exchange.delivery_deliver recipient frame
  generalize exchange.deliver recipient frame = result at outcome failed ⊢
  cases outcome with
  | stopped | unknown =>
      cases failed
      rfl
  | queued => contradiction
  | shed _ found =>
      cases failed
      exact ⟨_, _, found, rfl⟩

theorem refuses_broadcast {excluded : Option Identity}
    (failed : (exchange.broadcast frame excluded).1 = .error error) :
    error.shed? = none ∧ (exchange.broadcast frame excluded).2 = exchange := by
  revert failed
  rw [broadcast_eq]
  split
  · rintro ⟨⟩
  · rintro ⟨⟩
    exact ⟨rfl, rfl⟩

theorem refuses_disconnect (failed : (exchange.disconnect identity).1 = .error error) :
    error.shed? = none ∧ (exchange.disconnect identity).2 = exchange := by
  have removal := @refuses_unregister exchange identity
  rw [disconnect] at failed ⊢
  generalize exchange.unregister identity = removed at removal failed ⊢
  rcases removed with ⟨_ | reason, next⟩
  · rename_i reason
    cases reason with
    | directory refusal =>
        cases refusal with
        | notRegistered => contradiction
        | emptyIdentity | alreadyRegistered =>
            cases failed
            exact removal rfl
    | shed | stopped =>
        cases failed
        exact removal rfl
  · contradiction

/-! ## Rooms -/

theorem refuses_join {error : RoomError}
    (failed : (exchange.join room identity).1 = .error error) :
    (exchange.join room identity).2 = exchange := by
  rw [join] at failed ⊢
  split at failed
  · rfl
  · contradiction

theorem refuses_leave {error : RoomError}
    (failed : (exchange.leave room identity).1 = .error error) :
    (exchange.leave room identity).2 = exchange := by
  rw [leave] at failed ⊢
  split at failed
  · rfl
  · contradiction

/-! ## Frames of clients -/

theorem mapError_eq_error_iff {ε δ α : Type} {translate : ε → δ} {result : Except ε α} {error : δ} :
    result.mapError translate = .error error ↔
      ∃ cause, result = .error cause ∧ translate cause = error := by
  cases result <;> simp [Except.mapError]

theorem map_eq_error_iff {ε α β : Type} {change : α → β} {result : Except ε α} {error : ε} :
    result.map change = .error error ↔ result = .error error := by
  cases result <;> simp [Except.map]

theorem fails_answer {notice : Notice} {error : DispatchError}
    (failed : (exchange.answer sender notice).1 = .error error) :
    exchange.Fails error.shed? (exchange.answer sender notice).2 := by
  rcases mapError_eq_error_iff.mp failed with ⟨cause, refused, rfl⟩
  exact fails_deliver refused

theorem fails_carryOut {command : Command} {error : DispatchError}
    (failed : (exchange.carryOut sender command).1 = .error error) :
    exchange.Fails error.shed? (exchange.carryOut sender command).2 := by
  cases command with
  | broadcast payload =>
      rcases mapError_eq_error_iff.mp failed with ⟨cause, refused, rfl⟩
      exact .of_refusal (refuses_broadcast (map_eq_error_iff.mp refused))
  | signal signal =>
      rw [carryOut] at failed ⊢
      rw [Signal.forward] at failed ⊢
      cases meant : signal.recipient with
      | none =>
          rw [meant] at failed
          cases failed
          rfl
      | some recipient =>
          rw [meant] at failed
          rcases mapError_eq_error_iff.mp failed with ⟨undelivered, unforwarded, rfl⟩
          rcases mapError_eq_error_iff.mp unforwarded with ⟨cause, refused, rfl⟩
          exact fails_deliver refused
  | join room =>
      rcases mapError_eq_error_iff.mp failed with ⟨cause, refused, rfl⟩
      exact refuses_join refused
  | leave room =>
      rcases mapError_eq_error_iff.mp failed with ⟨cause, refused, rfl⟩
      exact refuses_leave refused
  | list room => exact fails_answer failed
  | me => exact fails_answer failed

theorem fails_dispatch {error : DispatchError}
    (failed : (exchange.dispatch sender frame).1 = .error error) :
    exchange.Fails error.shed? (exchange.dispatch sender frame).2 := by
  revert failed
  rw [dispatch]
  split
  · split
    · rintro ⟨⟩
      rfl
    · exact fails_carryOut
  · rintro ⟨⟩
    rfl

/-! ## Operations -/

/-- An operation fails, and nobody is shed where nobody can be. -/
def FailsIn (exchange : Exchange) (operation : Operation) (shed : Option Identity)
    (next : Exchange) : Prop :=
  exchange.Fails shed next ∧ (shed = none ∨ operation.canShed = true)

theorem FailsIn.of_refusal {operation : Operation} {shed : Option Identity} {next : Exchange}
    (refused : shed = none ∧ next = exchange) : exchange.FailsIn operation shed next :=
  ⟨.of_refusal refused, .inl refused.1⟩

/-- What holds of a result holds of the answer that is made of it. -/
theorem holds_of_result {ε α : Type} {holds : Option Identity → Exchange → Prop}
    {cause? : ε → Option Identity} {outcome : Except ε α × Exchange}
    (answer : Except ε α → Answer)
    (fails : ∀ error, outcome.1 = .error error → holds (cause? error) outcome.2)
    (tells : ∀ error, (answer (.error error)).shed? = cause? error)
    (succeeds : ∀ value, (answer (.ok value)).isError = false)
    (failed : (answer outcome.1).isError = true) : holds (answer outcome.1).shed? outcome.2 := by
  rcases outcome with ⟨error | value, next⟩
  · rw [tells]
    exact fails error rfl
  · rw [succeeds] at failed
    contradiction

theorem isError_read {look : Mailbox → Answer × Mailbox}
    (harmless : ∀ mailbox, (look mailbox).1.isError = false) :
    (exchange.read connection look).1.isError = false := by
  rw [read]
  split
  · rfl
  · split
    · rfl
    · exact harmless _

theorem fails_perform {operation : Operation}
    (failed : (exchange.perform operation).1.isError = true) :
    exchange.FailsIn operation (exchange.perform operation).1.shed?
      (exchange.perform operation).2 := by
  cases operation with
  | request request =>
      cases request with
      | register identity connection =>
          exact holds_of_result (fun result => .response (.done result))
            (fun _ refused => .of_refusal (refuses_register refused)) (fun _ => rfl) (fun _ => rfl)
            failed
      | unregister identity =>
          exact holds_of_result (fun result => .response (.done result))
            (fun _ refused => .of_refusal (refuses_unregister refused)) (fun _ => rfl)
            (fun _ => rfl) failed
      | deliver recipient frame =>
          exact holds_of_result (fun result => .response (.done result))
            (fun _ refused => ⟨fails_deliver refused, .inr rfl⟩) (fun _ => rfl) (fun _ => rfl)
            failed
      | broadcast frame excluded =>
          exact holds_of_result (fun result => .response (.report result))
            (fun _ refused => .of_refusal (refuses_broadcast refused)) (fun _ => rfl)
            (fun _ => rfl) failed
  | disconnect identity =>
      exact holds_of_result .presence (fun _ refused => .of_refusal (refuses_disconnect refused))
        (fun _ => rfl) (fun _ => rfl) failed
  | dispatch sender frame =>
      exact holds_of_result .dispatched (fun _ refused => ⟨fails_dispatch refused, .inr rfl⟩)
        (fun _ => rfl) (fun _ => rfl) failed
  | join room identity =>
      exact holds_of_result .membership (fun _ refused => .of_refusal ⟨rfl, refuses_join refused⟩)
        (fun _ => rfl) (fun _ => rfl) failed
  | leave room identity =>
      exact holds_of_result .membership (fun _ refused => .of_refusal ⟨rfl, refuses_leave refused⟩)
        (fun _ => rfl) (fun _ => rfl) failed
  | enqueue used frame =>
      rw [perform] at failed ⊢
      split at failed
      · contradiction
      · exact ⟨rfl, .inl rfl⟩
  | receive used => rw [perform, isError_read fun _ => rfl] at failed; contradiction
  | drain used => rw [perform, isError_read fun _ => rfl] at failed; contradiction
  | openMailbox | openSaturated | handle | leaveAll | close | abandon | stop => contradiction

/-- Whatever has happened before, an operation that fails without shedding
anybody changes nothing at all. A delivery or a frame of a client can also fail
because somebody has been shed. Then the exchange loses this identity and is
otherwise as before, so the frame that was refused is in no queue. -/
theorem errors_are_atomic {vocabulary : Vocabulary} {queueCapacity : Nat}
    {arrangement : Arrangement} {operations : List Operation} {operation : Operation}
    (failed : (((start vocabulary queueCapacity arrangement).run operations).perform
      operation).1.isError = true) :
    let exchange := (start vocabulary queueCapacity arrangement).run operations
    let answer := (exchange.perform operation).1
    let next := (exchange.perform operation).2
    (answer.shed? = none → next = exchange) ∧
      ∀ identity, answer.shed? = some identity →
        ((∃ recipient frame, operation = .request (.deliver recipient frame)) ∨
          ∃ sender frame, operation = .dispatch sender frame) ∧
        exchange.directory.contains identity = true ∧
          ∃ refusal : Refusal, exchange.Loses identity refusal.departure next := by
  intro exchange answer next
  have sound : exchange.rooms.Sound := sound_run vocabulary queueCapacity arrangement operations
  have failsIn : exchange.FailsIn operation answer.shed? next := fails_perform failed
  rcases failsIn with ⟨fails, possible⟩
  constructor
  · intro nobody
    rw [nobody] at fails
    exact fails
  · intro identity shed
    rw [shed] at fails possible
    rcases fails with ⟨connection, refusal, found, departed⟩
    refine ⟨?_, Directory.contains_of_find? found, refusal, ?_⟩
    · rcases possible with nobody | possible
      · contradiction
      · exact Operation.canShed_eq_true_iff.mp possible
    · rw [departed]
      exact loses_depart sound found refusal.departure

/-- Nothing comes of registering Alice once more. She does not read, so a frame
of Bob for her sheds her. -/
theorem errors_are_atomic_slowReader :
    let exchange := (start .standard 256).run (slowReader.take 7)
    let again := exchange.perform (.request (.register ⟨"alice"⟩ 1))
    let offer := exchange.perform
      (.dispatch ⟨"bob"⟩ (Text.utf8 "[\"offer\",null,\"alice\",1]"))
    (again.1.isError = true ∧ again.1.shed? = none ∧ again.2 = exchange) ∧
      offer.1.isError = true ∧ offer.1.shed? = some ⟨"alice"⟩ ∧
      ∃ refusal : Refusal, exchange.Loses ⟨"alice"⟩ refusal.departure offer.2 := by
  intro exchange again offer
  have registered : again.1.isError = true := by decide +kernel
  have nobody : again.1.shed? = none := by decide +kernel
  have undelivered : offer.1.isError = true := by decide +kernel
  have shed : offer.1.shed? = some ⟨"alice"⟩ := by decide +kernel
  have unchanged : again.2 = exchange := (errors_are_atomic registered).1 nobody
  rcases (errors_are_atomic undelivered).2 ⟨"alice"⟩ shed with ⟨_, _, lost⟩
  exact ⟨⟨registered, nobody, unchanged⟩, undelivered, shed, lost⟩

end Exchange

end Switchboard
