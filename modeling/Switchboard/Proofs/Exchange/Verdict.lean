import Switchboard.Proofs.Exchange.Reply

/-!
# The verdict on a frame

What comes of a frame is known before it is carried out. It depends on what the
frame means, on whether the exchange is running, and on who is registered and has
room for a frame. The cases below exclude each other, and there are no others.

So no error is ever the fault of the exchange itself. Whatever is to be sent
can be written, no command is about a room without a name, and whoever is
answered has been found registered and stays so until then. Nobody is evicted
but the recipient of a signal, or a sender that has asked for something.
-/

namespace Switchboard

/-- The command is answered with a notice for its sender. -/
def Command.isQuestion : Command → Bool
  | list _ | me => true
  | broadcast _ | join _ | leave _ | signal _ => false

/-- The error would be the fault of the exchange, and not of a client. -/
def DispatchError.isInternal : DispatchError → Bool
  | encoding _ | signal (.encoding _) => true
  | room .nameMissing => true
  | exchange (.directory _) => true
  | senderGone _ | command _ | room (.notFound _) => false
  | signal .recipientMissing | signal (.undelivered _ _) => false
  | exchange (.shed _) | exchange .stopped => false

namespace Exchange

variable {exchange : Exchange} {sender recipient : Identity} {frame : Bytes} {command : Command}
  {signal : Signal} {room : String} {result : Except DispatchError Unit}

/-- What a frame comes to, and under which circumstances. -/
inductive Verdict (exchange : Exchange) (sender : Identity) (frame : Bytes) :
    Except DispatchError Unit → Prop
  | senderGone (absent : exchange.directory.contains sender = false) :
      Verdict exchange sender frame (.error (.senderGone sender))
  | senseless {reason : CommandError} (registered : exchange.directory.contains sender = true)
      (read : Command.read exchange.vocabulary sender frame = .error reason) :
      Verdict exchange sender frame (.error (.command reason))
  | joined {room : String} (registered : exchange.directory.contains sender = true)
      (read : Command.read exchange.vocabulary sender frame = .ok (.join room))
      (named : room ≠ "") : Verdict exchange sender frame (.ok ())
  | left {room : String} (registered : exchange.directory.contains sender = true)
      (read : Command.read exchange.vocabulary sender frame = .ok (.leave room))
      (named : room ≠ "") (occupied : exchange.rooms.hasMembers room = true) :
      Verdict exchange sender frame (.ok ())
  | vacant {room : String} (registered : exchange.directory.contains sender = true)
      (read : Command.read exchange.vocabulary sender frame = .ok (.leave room))
      (named : room ≠ "") (unoccupied : exchange.rooms.hasMembers room = false) :
      Verdict exchange sender frame (.error (.room (.notFound room)))
  | undirected {signal : Signal} (registered : exchange.directory.contains sender = true)
      (read : Command.read exchange.vocabulary sender frame = .ok (.signal signal))
      (meant : signal.recipient = none) :
      Verdict exchange sender frame (.error (.signal .recipientMissing))
  | cutOff {signal : Signal} {recipient : Identity}
      (registered : exchange.directory.contains sender = true)
      (read : Command.read exchange.vocabulary sender frame = .ok (.signal signal))
      (meant : signal.recipient = some recipient) (idle : exchange.running = false) :
      Verdict exchange sender frame (.error (.signal (.undelivered recipient .stopped)))
  | unknown {signal : Signal} {recipient : Identity}
      (registered : exchange.directory.contains sender = true)
      (read : Command.read exchange.vocabulary sender frame = .ok (.signal signal))
      (meant : signal.recipient = some recipient) (serving : exchange.running = true)
      (absent : exchange.directory.contains recipient = false) :
      Verdict exchange sender frame
        (.error (.signal (.undelivered recipient (.directory (.notRegistered recipient)))))
  | evicted {signal : Signal} {recipient : Identity}
      (registered : exchange.directory.contains sender = true)
      (read : Command.read exchange.vocabulary sender frame = .ok (.signal signal))
      (meant : signal.recipient = some recipient) (serving : exchange.running = true)
      (present : exchange.directory.contains recipient = true)
      (noSlot : exchange.hasSlot recipient = false) :
      Verdict exchange sender frame (.error (.signal (.undelivered recipient (.shed recipient))))
  | passedOn {signal : Signal} {recipient : Identity}
      (registered : exchange.directory.contains sender = true)
      (read : Command.read exchange.vocabulary sender frame = .ok (.signal signal))
      (meant : signal.recipient = some recipient) (serving : exchange.running = true)
      (present : exchange.directory.contains recipient = true)
      (slot : exchange.hasSlot recipient = true) : Verdict exchange sender frame (.ok ())
  | spread {payload : Payload} (registered : exchange.directory.contains sender = true)
      (read : Command.read exchange.vocabulary sender frame = .ok (.broadcast payload))
      (serving : exchange.running = true) : Verdict exchange sender frame (.ok ())
  | unserved {command : Command} (registered : exchange.directory.contains sender = true)
      (read : Command.read exchange.vocabulary sender frame = .ok command)
      (needed : command.isQuestion = true ∨ ∃ payload, command = .broadcast payload)
      (idle : exchange.running = false) :
      Verdict exchange sender frame (.error (.exchange .stopped))
  | answered {command : Command} (registered : exchange.directory.contains sender = true)
      (read : Command.read exchange.vocabulary sender frame = .ok command)
      (asks : command.isQuestion = true) (serving : exchange.running = true)
      (slot : exchange.hasSlot sender = true) : Verdict exchange sender frame (.ok ())
  | shed {command : Command} (registered : exchange.directory.contains sender = true)
      (read : Command.read exchange.vocabulary sender frame = .ok command)
      (asks : command.isQuestion = true) (serving : exchange.running = true)
      (noSlot : exchange.hasSlot sender = false) :
      Verdict exchange sender frame (.error (.exchange (.shed sender)))

/-! ## Deliveries -/

theorem deliver_fst_of_absent (serving : exchange.running = true)
    (absent : exchange.directory.contains recipient = false) (frame : Bytes) :
    (exchange.deliver recipient frame).1 = .error (.directory (.notRegistered recipient)) := by
  rw [deliver_eq serving, Directory.contains_eq_false_iff.mp absent]

theorem deliver_fst_of_present (serving : exchange.running = true)
    (present : exchange.directory.contains recipient = true) (frame : Bytes) :
    (exchange.deliver recipient frame).1 = exchange.deliveryTo recipient := by
  obtain ⟨connection, found⟩ := Directory.contains_iff_exists_find?.mp present
  exact deliver_fst serving found frame

/-! ## Commands -/

theorem carryOut_signal_fst (sender : Identity) (meant : signal.recipient = some recipient) :
    (exchange.carryOut sender (.signal signal)).1 =
      ((exchange.deliver recipient (Notice.ofSignal signal).frame).1.mapError
        (.undelivered recipient)).mapError .signal := by
  rw [carryOut, Signal.forward, meant]

/-- A question is answered by a delivery to whoever has asked. -/
theorem carryOut_fst_of_isQuestion (exchange : Exchange) (sender : Identity)
    (asks : command.isQuestion = true) :
    ∃ answer, (exchange.carryOut sender command).1 =
      (exchange.deliver sender answer).1.mapError .exchange := by
  cases command with
  | list room => exact ⟨(exchange.listNotice sender room).frame, rfl⟩
  | me => exact ⟨(exchange.meNotice sender).frame, rfl⟩
  | broadcast | join | leave | signal => contradiction

/-- The verdict is what a frame really comes to. -/
theorem Verdict.dispatch_fst (verdict : exchange.Verdict sender frame result)
    (sound : exchange.rooms.Sound) : (exchange.dispatch sender frame).1 = result := by
  cases verdict with
  | senderGone absent => rw [dispatch, if_neg (Bool.eq_false_iff.mp absent)]
  | senseless registered read => rw [dispatch, if_pos registered, read]
  | joined registered read named =>
      rw [dispatch_of_read registered read, carryOut]
      dsimp only
      rw [join_fst named]
      rfl
  | left registered read named occupied =>
      rw [dispatch_of_read registered read, carryOut]
      dsimp only
      rw [leave_fst sound named, if_pos occupied]
      rfl
  | vacant registered read named unoccupied =>
      rw [dispatch_of_read registered read, carryOut]
      dsimp only
      rw [leave_fst sound named, if_neg (Bool.eq_false_iff.mp unoccupied)]
      rfl
  | undirected registered read meant =>
      rw [dispatch_of_read registered read, carryOut, Signal.forward, meant]
      rfl
  | cutOff registered read meant idle =>
      rw [dispatch_of_read registered read, carryOut_signal_fst sender meant,
        deliver_of_stopped idle]
      rfl
  | unknown registered read meant serving absent =>
      rw [dispatch_of_read registered read, carryOut_signal_fst sender meant,
        deliver_fst_of_absent serving absent]
      rfl
  | evicted registered read meant serving present noSlot =>
      rw [dispatch_of_read registered read, carryOut_signal_fst sender meant,
        deliver_fst_of_present serving present, deliveryTo, noSlot]
      rfl
  | passedOn registered read meant serving present slot =>
      rw [dispatch_of_read registered read, carryOut_signal_fst sender meant,
        deliver_fst_of_present serving present, deliveryTo, slot]
      rfl
  | spread registered read serving =>
      rw [dispatch_of_read registered read, carryOut, broadcast_eq, if_pos serving]
      rfl
  | unserved registered read needed idle =>
      rw [dispatch_of_read registered read]
      rcases needed with asks | ⟨payload, rfl⟩
      · obtain ⟨answer, carried⟩ := exchange.carryOut_fst_of_isQuestion sender asks
        rw [carried, deliver_of_stopped idle]
        rfl
      · rw [carryOut, broadcast_eq, if_neg (Bool.eq_false_iff.mp idle)]
        rfl
  | answered registered read asks serving slot =>
      obtain ⟨answer, carried⟩ := exchange.carryOut_fst_of_isQuestion sender asks
      rw [dispatch_of_read registered read, carried, deliver_fst_of_present serving registered,
        deliveryTo, slot]
      rfl
  | shed registered read asks serving noSlot =>
      obtain ⟨answer, carried⟩ := exchange.carryOut_fst_of_isQuestion sender asks
      rw [dispatch_of_read registered read, carried, deliver_fst_of_present serving registered,
        deliveryTo, noSlot]
      rfl

/-! ## Every frame has its verdict -/

theorem exists_verdict_of_signal (registered : exchange.directory.contains sender = true)
    (read : Command.read exchange.vocabulary sender frame = .ok (.signal signal)) :
    ∃ result, exchange.Verdict sender frame result := by
  cases meant : signal.recipient with
  | none => exact ⟨_, .undirected registered read meant⟩
  | some recipient =>
      cases serving : exchange.running with
      | false => exact ⟨_, .cutOff registered read meant serving⟩
      | true =>
          cases present : exchange.directory.contains recipient with
          | false => exact ⟨_, .unknown registered read meant serving present⟩
          | true =>
              cases slot : exchange.hasSlot recipient with
              | false => exact ⟨_, .evicted registered read meant serving present slot⟩
              | true => exact ⟨_, .passedOn registered read meant serving present slot⟩

theorem exists_verdict_of_isQuestion (registered : exchange.directory.contains sender = true)
    (read : Command.read exchange.vocabulary sender frame = .ok command)
    (asks : command.isQuestion = true) : ∃ result, exchange.Verdict sender frame result := by
  cases serving : exchange.running with
  | false => exact ⟨_, .unserved registered read (.inl asks) serving⟩
  | true =>
      cases slot : exchange.hasSlot sender with
      | false => exact ⟨_, .shed registered read asks serving slot⟩
      | true => exact ⟨_, .answered registered read asks serving slot⟩

theorem exists_verdict (exchange : Exchange) (sender : Identity) (frame : Bytes) :
    ∃ result, exchange.Verdict sender frame result := by
  cases registered : exchange.directory.contains sender with
  | false => exact ⟨_, .senderGone registered⟩
  | true =>
      cases read : Command.read exchange.vocabulary sender frame with
      | error reason => exact ⟨_, .senseless registered read⟩
      | ok command =>
          cases command with
          | signal signal => exact exists_verdict_of_signal registered read
          | list | me => exact exists_verdict_of_isQuestion registered read rfl
          | join room => exact ⟨_, .joined registered read (ne_of_read read (.inl rfl))⟩
          | leave room =>
              have named := ne_of_read read (.inr rfl)
              cases occupied : exchange.rooms.hasMembers room with
              | false => exact ⟨_, .vacant registered read named occupied⟩
              | true => exact ⟨_, .left registered read named occupied⟩
          | broadcast payload =>
              cases serving : exchange.running with
              | false => exact ⟨_, .unserved registered read (.inr ⟨payload, rfl⟩) serving⟩
              | true => exact ⟨_, .spread registered read serving⟩

/-- A frame comes to its verdict, and to nothing else. -/
theorem dispatch_fst_eq_iff (sound : exchange.rooms.Sound) :
    (exchange.dispatch sender frame).1 = result ↔ exchange.Verdict sender frame result := by
  constructor
  · rintro rfl
    obtain ⟨result, verdict⟩ := exchange.exists_verdict sender frame
    rw [verdict.dispatch_fst sound]
    exact verdict
  · exact fun verdict => verdict.dispatch_fst sound

/-! ## What cannot go wrong -/

theorem Verdict.isInternal_eq_false {error : DispatchError}
    (verdict : exchange.Verdict sender frame (.error error)) : error.isInternal = false := by
  cases verdict <;> rfl

/-- Only whoever a frame is for can be evicted by it. -/
theorem Verdict.eq_of_shed? {error : DispatchError} {identity : Identity}
    (verdict : exchange.Verdict sender frame (.error error))
    (evicted : error.shed? = some identity) :
    ∃ command, Command.read exchange.vocabulary sender frame = .ok command ∧
      (command.isQuestion = true ∧ identity = sender ∨
        ∃ signal, command = .signal signal ∧ signal.recipient = some identity) := by
  cases verdict with
  | evicted _ read meant =>
      cases evicted
      exact ⟨_, read, .inr ⟨_, rfl, meant⟩⟩
  | shed _ read asks =>
      cases evicted
      exact ⟨_, read, .inl ⟨asks, rfl⟩⟩
  | senderGone | senseless | vacant | undirected | cutOff | unknown | unserved => contradiction

theorem Verdict.senderGone_iff :
    exchange.Verdict sender frame (.error (.senderGone sender)) ↔
      exchange.directory.contains sender = false := by
  constructor
  · intro verdict
    cases verdict with
    | senderGone absent => exact absent
  · exact .senderGone

/-- Whatever has happened before, and whether the exchange still runs or not: a
frame comes to its verdict and to nothing else. Its sender is refused exactly if
it is not registered. No error is the fault of the exchange, nobody is evicted
but whom the frame is for, and what is to be sent is a notice that can be read. -/
theorem only_expected_errors (vocabulary : Vocabulary) (queueCapacity : Nat)
    (arrangement : Arrangement) (operations : List Operation) (sender : Identity) (frame : Bytes) :
    let exchange := (start vocabulary queueCapacity arrangement).run operations
    ((exchange.dispatch sender frame).1 = .error (.senderGone sender) ↔
      exchange.directory.contains sender = false) ∧
    (∀ result, (exchange.dispatch sender frame).1 = result ↔
      exchange.Verdict sender frame result) ∧
    (∀ error, (exchange.dispatch sender frame).1 = .error error →
      error.isInternal = false ∧
        ∀ identity, error.shed? = some identity →
          ∃ command, Command.read exchange.vocabulary sender frame = .ok command ∧
            (command.isQuestion = true ∧ identity = sender ∨
              ∃ signal, command = .signal signal ∧ signal.recipient = some identity)) ∧
    ∀ request sent, exchange.routed? sender frame = some request →
      request.frame? = some sent → IsAuthoredBy sender sent := by
  intro exchange
  have sound : exchange.rooms.Sound := sound_run vocabulary queueCapacity arrangement operations
  refine ⟨?_, fun result => dispatch_fst_eq_iff sound, fun error failed => ?_,
    fun request sent routed isFrame => isAuthoredBy_of_routed? routed isFrame⟩
  · rw [dispatch_fst_eq_iff sound, Verdict.senderGone_iff]
  · have verdict := (dispatch_fst_eq_iff sound).mp failed
    exact ⟨verdict.isInternal_eq_false, fun identity evicted => verdict.eq_of_shed? evicted⟩

/-- Where Alice and Carol have no room, Alice is evicted by what she asks, Carol by
what Bob tells her, and Dave is nobody. -/
theorem only_expected_errors_fullHall :
    let exchange := (start .standard 256).run fullHall
    (exchange.dispatch ⟨"alice"⟩ (Text.utf8 "[\"me\"]")).1 =
        .error (.exchange (.shed ⟨"alice"⟩)) ∧
      (exchange.dispatch ⟨"bob"⟩ toCarol).1 =
        .error (.signal (.undelivered ⟨"carol"⟩ (.shed ⟨"carol"⟩))) ∧
      (exchange.stop.dispatch ⟨"bob"⟩ toCarol).1 =
        .error (.signal (.undelivered ⟨"carol"⟩ .stopped)) ∧
      (exchange.dispatch ⟨"dave"⟩ toCarol).1 = .error (.senderGone ⟨"dave"⟩) := by
  have asks : Command.read .standard ⟨"alice"⟩ (Text.utf8 "[\"me\"]") = .ok .me := by decide +kernel
  intro exchange
  have serving : exchange.running = true := by decide +kernel
  have alice : exchange.directory.contains ⟨"alice"⟩ = true := by decide +kernel
  have bob : exchange.directory.contains ⟨"bob"⟩ = true := by decide +kernel
  have carol : exchange.directory.contains ⟨"carol"⟩ = true := by decide +kernel
  have dave : exchange.directory.contains ⟨"dave"⟩ = false := by decide +kernel
  have aliceFull : exchange.hasSlot ⟨"alice"⟩ = false := by decide +kernel
  have carolFull : exchange.hasSlot ⟨"carol"⟩ = false := by decide +kernel
  have stopped : (start .standard 256).run (fullHall ++ [.stop]) = exchange.stop := rfl
  have verdicts := only_expected_errors .standard 256 .byName fullHall
  have verdictsStopped := only_expected_errors .standard 256 .byName (fullHall ++ [.stop])
  rw [stopped] at verdictsStopped
  refine ⟨?_, ?_, ?_, ?_⟩
  · exact ((verdicts ⟨"alice"⟩ _).2.1 _).mpr (.shed alice asks rfl serving aliceFull)
  · exact ((verdicts ⟨"bob"⟩ _).2.1 _).mpr (.evicted bob read_toCarol rfl serving carol carolFull)
  · exact ((verdictsStopped ⟨"bob"⟩ _).2.1 _).mpr (.cutOff bob read_toCarol rfl rfl)
  · exact (verdicts ⟨"dave"⟩ _).1.mpr dave

end Exchange

end Switchboard
