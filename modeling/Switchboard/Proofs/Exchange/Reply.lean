import Switchboard.Proofs.Exchange.Reach
import Switchboard.Proofs.Exchange.Slot

/-!
# What a sender gets back

A sender whose mailbox has room for another frame hears nothing of its frame, or
it gets what it has asked for, or it is told what went wrong. Which of these it
is depends on what the frame means, and then on whether the room of a leaver has
members, and on whether the recipient of a signal is registered and has room.

If others are registered with the same connection, then what is for them
is put into the same queue.
-/

namespace Switchboard

namespace Exchange

variable {exchange next : Exchange} {sender : Identity} {connection : Connection}
  {frame : Bytes} {request : Request} {error : DispatchError} {notices : List Notice}
  {result : Except DispatchError Unit} {room : String}

/-- Why a frame comes to nothing although it can be read. -/
inductive Refused (exchange : Exchange) (sender : Identity) (frame : Bytes) : DispatchError → Prop
  | senseless {reason : CommandError}
      (read : Command.read exchange.vocabulary sender frame = .error reason)
      (readable : reason ≠ .malformed) : Refused exchange sender frame (.command reason)
  | vacant {room : String}
      (read : Command.read exchange.vocabulary sender frame = .ok (.leave room))
      (unoccupied : exchange.rooms.hasMembers room = false) :
      Refused exchange sender frame (.room (.notFound room))
  | undirected {signal : Signal}
      (read : Command.read exchange.vocabulary sender frame = .ok (.signal signal))
      (meant : signal.recipient = none) : Refused exchange sender frame (.signal .recipientMissing)
  | unknown {signal : Signal} {recipient : Identity}
      (read : Command.read exchange.vocabulary sender frame = .ok (.signal signal))
      (meant : signal.recipient = some recipient)
      (absent : exchange.directory.contains recipient = false) :
      Refused exchange sender frame
        (.signal (.undelivered recipient (.directory (.notRegistered recipient))))
  | shed {signal : Signal} {recipient : Identity}
      (read : Command.read exchange.vocabulary sender frame = .ok (.signal signal))
      (meant : signal.recipient = some recipient)
      (registered : exchange.directory.contains recipient = true)
      (noSlot : exchange.hasSlot recipient = false) :
      Refused exchange sender frame (.signal (.undelivered recipient (.shed recipient)))

/-- What comes of a frame whose sender has room, and the notices that the sender
gets back. -/
inductive Answered (exchange : Exchange) (sender : Identity) (frame : Bytes) :
    Except DispatchError Unit → List Notice → Prop
  | malformed (read : Command.read exchange.vocabulary sender frame = .error .malformed) :
      Answered exchange sender frame (.error (.command .malformed)) []
  | refused {error : DispatchError} (refused : exchange.Refused sender frame error) :
      Answered exchange sender frame (.error error) [Notice.error sender error.message]
  | broadcast {payload : Payload}
      (read : Command.read exchange.vocabulary sender frame = .ok (.broadcast payload)) :
      Answered exchange sender frame (.ok ()) []
  | joined {room : String}
      (read : Command.read exchange.vocabulary sender frame = .ok (.join room)) :
      Answered exchange sender frame (.ok ()) []
  | left {room : String} (read : Command.read exchange.vocabulary sender frame = .ok (.leave room))
      (occupied : exchange.rooms.hasMembers room = true) :
      Answered exchange sender frame (.ok ()) []
  | passedOn {signal : Signal} {recipient : Identity}
      (read : Command.read exchange.vocabulary sender frame = .ok (.signal signal))
      (meant : signal.recipient = some recipient) (differ : recipient ≠ sender)
      (slot : exchange.hasSlot recipient = true) : Answered exchange sender frame (.ok ()) []
  | returned {signal : Signal}
      (read : Command.read exchange.vocabulary sender frame = .ok (.signal signal))
      (meant : signal.recipient = some sender) :
      Answered exchange sender frame (.ok ()) [Notice.ofSignal signal]
  | listed {room : Option String}
      (read : Command.read exchange.vocabulary sender frame = .ok (.list room)) :
      Answered exchange sender frame (.ok ()) [exchange.listNotice sender room]
  | me (read : Command.read exchange.vocabulary sender frame = .ok .me) :
      Answered exchange sender frame (.ok ()) [exchange.meNotice sender]

/-- The sender stays registered, and gets the notices. Where it shares its queue,
what its frame sends to others is put there as well. -/
structure Hears (exchange : Exchange) (sender : Identity) (connection : Connection)
    (frame : Bytes) (notices : List Notice) (next : Exchange) : Prop where
  queue : ∃ shared,
    next.queuedFor connection =
      exchange.queuedFor connection ++ shared ++ notices.map Notice.frame ∧
    ∀ sent ∈ shared, ∃ request, exchange.routed? sender frame = some request ∧
      request.addresses sender = false ∧ exchange.Sends request connection sent
  stays : next.directory.find? sender = some connection

/-! ## What happens to a frame -/

theorem join_fst (named : room ≠ "") : (exchange.join room sender).1 = .ok () := by
  rw [join]
  split
  · rename_i refused
    exact absurd (Rooms.join_eq_error_iff.mp refused).1 named
  · rfl

theorem leave_fst (sound : exchange.rooms.Sound) (named : room ≠ "") :
    (exchange.leave room sender).1 =
      if exchange.rooms.hasMembers room then .ok () else .error (.notFound room) := by
  rw [leave, sound.hasMembers_eq, Std.ExtTreeMap.contains_eq_isSome_getElem?]
  split
  · rename_i refused
    rcases Rooms.leave_eq_error_iff.mp refused with ⟨nameless, _⟩ | ⟨_, missing, rfl⟩
    · exact absurd nameless named
    · rw [missing]
      rfl
  · rename_i left
    obtain ⟨_, members, found, _⟩ := Rooms.leave_eq_ok_iff.mp left
    rw [found]
    rfl

theorem answered_signal {signal : Signal} (serving : exchange.running = true)
    (found : exchange.directory.find? sender = some connection)
    (slot : exchange.hasSlot sender = true)
    (read : Command.read exchange.vocabulary sender frame = .ok (.signal signal)) :
    ∃ notices, exchange.Answered sender frame (exchange.carryOut sender (.signal signal)).1
      notices := by
  rw [carryOut, Signal.forward]
  cases meant : signal.recipient with
  | none => exact ⟨_, .refused (.undirected read meant)⟩
  | some recipient =>
      dsimp only
      cases known : exchange.directory.find? recipient with
      | none =>
          have absent := Directory.contains_eq_false_iff.mpr known
          rw [deliver_eq serving, known]
          exact ⟨_, .refused (.unknown read meant absent)⟩
      | some used =>
          have registered := Directory.contains_of_find? known
          rw [deliver_fst serving known, deliveryTo]
          by_cases own : recipient = sender
          · subst own
            rw [if_pos slot]
            exact ⟨_, .returned read meant⟩
          · cases free : exchange.hasSlot recipient with
            | true => exact ⟨_, .passedOn read meant own free⟩
            | false => exact ⟨_, .refused (.shed read meant registered free)⟩

/-- The cases are complete. -/
theorem answered_dispatch (sound : exchange.rooms.Sound) (serving : exchange.running = true)
    (found : exchange.directory.find? sender = some connection)
    (slot : exchange.hasSlot sender = true) (frame : Bytes) :
    ∃ notices, exchange.Answered sender frame (exchange.dispatch sender frame).1 notices := by
  have registered := Directory.contains_of_find? found
  have delivered : ∀ frame, (exchange.deliver sender frame).1 = .ok () := by
    intro frame
    rw [deliver_fst serving found, deliveryTo, if_pos slot]
  cases read : Command.read exchange.vocabulary sender frame with
  | error reason =>
      rw [dispatch, if_pos registered, read]
      by_cases readable : reason = .malformed
      · subst readable
        exact ⟨_, .malformed read⟩
      · exact ⟨_, .refused (.senseless read readable)⟩
  | ok command =>
      rw [dispatch_of_read registered read]
      cases command with
      | broadcast payload =>
          rw [carryOut, broadcast_eq, if_pos serving]
          exact ⟨_, .broadcast read⟩
      | join room =>
          rw [carryOut]
          dsimp only
          rw [join_fst (ne_of_read read (.inl rfl))]
          exact ⟨_, .joined read⟩
      | leave room =>
          rw [carryOut]
          dsimp only
          rw [leave_fst sound (ne_of_read read (.inr rfl))]
          cases occupied : exchange.rooms.hasMembers room with
          | true => exact ⟨_, .left read occupied⟩
          | false => exact ⟨_, .refused (.vacant read occupied)⟩
      | signal signal => exact answered_signal serving found slot read
      | list room =>
          rw [carryOut, answer]
          dsimp only
          rw [delivered]
          exact ⟨_, .listed read⟩
      | me =>
          rw [carryOut, answer]
          dsimp only
          rw [delivered]
          exact ⟨_, .me read⟩

/-! ## What is put into the queue -/

theorem Hears.of_queue (found : next.directory.find? sender = some connection)
    (grown : next.queuedFor connection =
      exchange.queuedFor connection ++ notices.map Notice.frame) :
    Hears exchange sender connection frame notices next where
  queue := ⟨[], by rw [grown, List.append_nil], nofun⟩
  stays := found

theorem hears_nothing (found : exchange.directory.find? sender = some connection)
    (directory : next.directory = exchange.directory)
    (mailboxes : next.mailboxes = exchange.mailboxes) :
    Hears exchange sender connection frame [] next := by
  apply Hears.of_queue
  · rw [directory, found]
  · rw [queuedFor, queuedFor, mailboxes, List.map_nil, List.append_nil]

/-- Of a request that is for others, the sender gets nothing for itself. -/
theorem hears_others (found : exchange.directory.find? sender = some connection)
    (routed : exchange.routed? sender frame = some request)
    (unaddressed : request.addresses sender = false) :
    Hears exchange sender connection frame [] (exchange.serve request).2 := by
  have delivers := isDelivery_of_routed? routed
  constructor
  case queue =>
    rcases gains_serve delivers exchange connection with ⟨added, grown, sent⟩
    refine ⟨added, by rw [grown, List.map_nil, List.append_nil], fun foreign listed => ?_⟩
    exact ⟨request, routed, unaddressed, sent foreign listed⟩
  case stays =>
    rw [(confined_serve delivers exchange).registrations sender (by simp [unaddressed]), found]

theorem queuedFor_deliver (serving : exchange.running = true)
    (found : exchange.directory.find? sender = some connection)
    (slot : exchange.hasSlot sender = true) (frame : Bytes) :
    (exchange.deliver sender frame).2.queuedFor connection =
      exchange.queuedFor connection ++ [frame] := by
  have queued : exchange.enqueue connection frame =
      .ok (exchange.modifyMailbox connection (.put frame)) :=
    enqueue_of_refusal?_eq_none found (refusal?_eq_none_iff.mpr slot)
  rw [deliver_of_hasSlot serving found slot, queuedFor_enqueue queued, if_pos rfl]

theorem hears_notice (serving : exchange.running = true)
    (found : exchange.directory.find? sender = some connection)
    (slot : exchange.hasSlot sender = true) (notice : Notice) :
    Hears exchange sender connection frame [notice] (exchange.deliver sender notice.frame).2 := by
  apply Hears.of_queue
  · rw [deliver_of_hasSlot serving found slot]
    exact found
  · exact queuedFor_deliver serving found slot notice.frame

/-- A sender that has its connection to itself gets nothing but its notices. -/
theorem Hears.queuedFor_eq (hears : Hears exchange sender connection frame notices next)
    (apart : exchange.Apart) (found : exchange.directory.find? sender = some connection) :
    next.queuedFor connection = exchange.queuedFor connection ++ notices.map Notice.frame := by
  obtain ⟨shared, grown, foreign⟩ := hears.queue
  have alone : shared = [] := by
    rw [List.eq_nil_iff_forall_not_mem]
    intro sent listed
    obtain ⟨request, _, unaddressed, _, other, addressed, foundOther⟩ := foreign sent listed
    rw [apart _ _ _ foundOther found, unaddressed] at addressed
    contradiction
  rw [grown, alone, List.append_nil]

/-! ## After a failure -/

theorem Refused.isReported (refused : exchange.Refused sender frame error) :
    error.isReported = true := by
  cases refused with
  | @senseless reason _ readable =>
      cases reason with
      | malformed => exact absurd rfl readable
      | unknownLabel | roomMissing | payloadMissing => rfl
  | vacant | undirected | unknown | shed => rfl

/-- Nobody is evicted who has room. -/
theorem Refused.hasSlot_of_shed? {identity : Identity}
    (refused : exchange.Refused sender frame error) (evicted : error.shed? = some identity) :
    exchange.hasSlot identity = false := by
  cases refused with
  | shed _ _ _ noSlot =>
      cases evicted
      exact noSlot
  | senseless | vacant | undirected | unknown => contradiction

/-- An eviction of somebody without room leaves whoever has room as it is. -/
theorem Fails.spares {shed : Option Identity} (fails : exchange.Fails shed next)
    (noSlot : ∀ identity, shed = some identity → exchange.hasSlot identity = false)
    (found : exchange.directory.find? sender = some connection)
    (slot : exchange.hasSlot sender = true) :
    next.running = exchange.running ∧ next.directory.find? sender = some connection ∧
      next.hasSlot sender = true := by
  cases shed with
  | none =>
      rw [show next = exchange from fails]
      exact ⟨rfl, found, slot⟩
  | some identity =>
      rcases fails with ⟨used, refusal, foundOther, rfl⟩
      have full := noSlot identity rfl
      have differ : sender ≠ identity := by
        rintro rfl
        rw [slot] at full
        contradiction
      have away : connection ≠ used := by
        rintro rfl
        rw [hasSlot, mailboxOf?_eq_getElem? foundOther, ← mailboxOf?_eq_getElem? found, ← hasSlot,
          slot] at full
        contradiction
      have stays : (exchange.depart identity refusal.departure).directory.find? sender =
          some connection := by
        rw [directory_depart foundOther, Directory.find?_erase, if_neg differ, found]
      refine ⟨running_depart, stays, ?_⟩
      rw [hasSlot, mailboxOf?_eq_getElem? stays, getElem?_depart foundOther, if_neg away,
        ← mailboxOf?_eq_getElem? found]
      exact slot

/-! ## Frames -/

theorem handle_of_done (done : (exchange.dispatch sender frame).1 = .ok ()) :
    exchange.handle sender frame = (exchange.dispatch sender frame).2 := by
  apply handle_of_uncomplained
  rw [complaint?, done]

theorem handle_of_routed? (done : (exchange.dispatch sender frame).1 = .ok ())
    (routed : exchange.routed? sender frame = some request) :
    exchange.handle sender frame = (exchange.serve request).2 := by
  rw [handle_of_done done, dispatch_of_routed? routed]

theorem handle_of_error (failed : (exchange.dispatch sender frame).1 = .error error)
    (reported : error.isReported = true) :
    exchange.handle sender frame =
      ((exchange.dispatch sender frame).2.deliver sender
        (Notice.error sender error.message).frame).2 := by
  rw [handle]
  generalize exchange.dispatch sender frame = outcome at failed
  rcases outcome with ⟨result, next⟩
  cases failed
  exact if_pos reported

theorem Refused.hears (refused : exchange.Refused sender frame error)
    (failed : (exchange.dispatch sender frame).1 = .error error)
    (serving : exchange.running = true)
    (found : exchange.directory.find? sender = some connection)
    (slot : exchange.hasSlot sender = true) :
    Hears exchange sender connection frame [Notice.error sender error.message]
      (exchange.handle sender frame) := by
  have fails := fails_dispatch failed
  obtain ⟨running, stays, still⟩ :=
    fails.spares (fun _ evicted => refused.hasSlot_of_shed? evicted) found slot
  have servingStill := running.trans serving
  rw [handle_of_error failed refused.isReported]
  apply Hears.of_queue
  · rw [deliver_of_hasSlot servingStill stays still]
    exact stays
  · rw [queuedFor_deliver servingStill stays still, fails.queuedFor_eq, List.map_singleton]

theorem Answered.hears (answered : exchange.Answered sender frame result notices)
    (outcome : (exchange.dispatch sender frame).1 = result) (serving : exchange.running = true)
    (found : exchange.directory.find? sender = some connection)
    (slot : exchange.hasSlot sender = true) :
    Hears exchange sender connection frame notices (exchange.handle sender frame) := by
  have registered := Directory.contains_of_find? found
  cases answered with
  | malformed =>
      have unmoved : (exchange.dispatch sender frame).2 = exchange := fails_dispatch outcome
      rw [handle_of_uncomplained (by rw [complaint?, outcome]; rfl), unmoved]
      exact hears_nothing found rfl rfl
  | refused refused => exact refused.hears outcome serving found slot
  | broadcast read =>
      have routed := routed?_of_read registered read
      rw [handle_of_routed? outcome routed]
      exact hears_others found routed (by simp [Request.addresses])
  | joined read =>
      rw [handle_of_done outcome, dispatch_of_read registered read]
      exact hears_nothing found directory_join mailboxes_join
  | left read =>
      rw [handle_of_done outcome, dispatch_of_read registered read]
      exact hears_nothing found directory_leave mailboxes_leave
  | passedOn read meant differ =>
      have routed := routed?_of_read registered read
      rw [asked?, meant, Option.map_some] at routed
      rw [handle_of_routed? outcome routed]
      exact hears_others found routed (decide_eq_false differ)
  | returned read meant =>
      have routed := routed?_of_read registered read
      rw [asked?, meant, Option.map_some] at routed
      rw [handle_of_routed? outcome routed]
      exact hears_notice serving found slot _
  | listed read | me read =>
      rw [handle_of_routed? outcome (routed?_of_read registered read)]
      exact hears_notice serving found slot _

/-- Whatever a sender gets back can be read. -/
theorem Answered.read?_frame (answered : exchange.Answered sender frame result notices) :
    ∀ notice ∈ notices, Notice.read? notice.frame = some notice := by
  have readable : ∀ {notice : Notice}, notice.IsTransmissible →
      ∀ listed ∈ [notice], Notice.read? listed.frame = some listed := by
    intro notice transmissible listed isListed
    rw [List.mem_singleton.mp isListed]
    exact Notice.read?_frame transmissible
  cases answered with
  | malformed | broadcast | joined | left | passedOn => exact nofun
  | refused | listed | me => exact readable (Notice.isTransmissible_of_payload_eq_none rfl)
  | returned read => exact readable (Command.isTransmissible_of_read read)

/-- Whatever has happened before, and whatever the frame is: while the exchange is
running, a sender whose mailbox has room stays registered, and gets back what
comes of its frame, and nothing else. What its frame sends to others is put into
the same queue only where it shares its connection. -/
theorem sender_is_answered {vocabulary : Vocabulary} {queueCapacity : Nat}
    {arrangement : Arrangement} {operations : List Operation} {sender : Identity}
    {connection : Connection}
    (serving : ((start vocabulary queueCapacity arrangement).run operations).running = true)
    (found : ((start vocabulary queueCapacity arrangement).run operations).directory.find? sender =
      some connection)
    (slot : ((start vocabulary queueCapacity arrangement).run operations).hasSlot sender = true)
    (frame : Bytes) :
    let exchange := (start vocabulary queueCapacity arrangement).run operations
    let next := exchange.handle sender frame
    ∃ notices, exchange.Answered sender frame (exchange.dispatch sender frame).1 notices ∧
      (∀ notice ∈ notices, Notice.read? notice.frame = some notice) ∧
      Hears exchange sender connection frame notices next ∧
      (exchange.Apart →
        next.queuedFor connection =
          exchange.queuedFor connection ++ notices.map Notice.frame) := by
  intro exchange next
  have sound : exchange.rooms.Sound := sound_run vocabulary queueCapacity arrangement operations
  obtain ⟨notices, answered⟩ := answered_dispatch sound serving found slot frame
  have hears := answered.hears rfl serving found slot
  exact ⟨notices, answered, answered.read?_frame, hears,
    fun apart => hears.queuedFor_eq apart found⟩

/-- Carol has no room for what Bob tells her, and Bob hears of it. -/
theorem sender_is_answered_fullHall :
    let exchange := (start .standard 256).run fullHall
    let toCarol := Text.utf8 "[\"offer\",null,\"carol\",1]"
    let error := DispatchError.signal (.undelivered ⟨"carol"⟩ (.shed ⟨"carol"⟩))
    exchange.running = true ∧ exchange.directory.find? ⟨"bob"⟩ = some 1 ∧
      exchange.hasSlot ⟨"bob"⟩ = true ∧ exchange.Apart ∧
      (exchange.dispatch ⟨"bob"⟩ toCarol).1 = .error error ∧
      (exchange.handle ⟨"bob"⟩ toCarol).queuedFor 1 =
        exchange.queuedFor 1 ++ [(Notice.error ⟨"bob"⟩ error.message).frame] ∧
      (exchange.handle ⟨"bob"⟩ toCarol).directory.find? ⟨"bob"⟩ = some 1 := by
  have read : Command.read .standard ⟨"bob"⟩ (Text.utf8 "[\"offer\",null,\"carol\",1]") =
      .ok (.signal ⟨.offer, "offer", ⟨"bob"⟩, none, some ⟨"carol"⟩, some ⟨"1"⟩⟩) := by
    decide +kernel
  intro exchange toCarol error
  have serving : exchange.running = true := by decide +kernel
  have found : exchange.directory.find? ⟨"bob"⟩ = some 1 := by decide +kernel
  have slot : exchange.hasSlot ⟨"bob"⟩ = true := by decide +kernel
  have foundCarol : exchange.directory.find? ⟨"carol"⟩ = some 2 := by decide +kernel
  have noSlot : exchange.hasSlot ⟨"carol"⟩ = false := by decide +kernel
  have outcome : (exchange.dispatch ⟨"bob"⟩ toCarol).1 = .error error := by
    rw [dispatch_of_read (Directory.contains_of_find? found) read, carryOut, Signal.forward]
    dsimp only
    rw [deliver_fst serving foundCarol, deliveryTo, noSlot]
    rfl
  obtain ⟨notices, answered, _, hears, alone⟩ := sender_is_answered serving found slot toCarol
  have grown := alone apart_fullHall
  rw [outcome] at answered
  dsimp only [error] at answered
  cases answered with
  | refused _ => exact ⟨serving, found, slot, apart_fullHall, outcome, grown, hears.stays⟩

/-- Where Alice and Bob share a connection, she gets back what she broadcasts, and
what she offers to Bob. -/
theorem sharer_hears_itself :
    let exchange := (start .standard 256).run sharedLine
    let broadcast := Text.utf8 "[\"broadcast\",null,null,2]"
    let toBob := Text.utf8 "[\"offer\",null,\"bob\",1]"
    exchange.running = true ∧ exchange.directory.find? ⟨"alice"⟩ = some 0 ∧
      exchange.hasSlot ⟨"alice"⟩ = true ∧ exchange.queuedFor 0 = [] ∧
      (Command.read exchange.vocabulary ⟨"alice"⟩ broadcast = .ok (.broadcast ⟨"2"⟩) ∧
        ((exchange.handle ⟨"alice"⟩ broadcast).queuedFor 0).length = 1) ∧
      Command.read exchange.vocabulary ⟨"alice"⟩ toBob =
        .ok (.signal ⟨.offer, "offer", ⟨"alice"⟩, none, some ⟨"bob"⟩, some ⟨"1"⟩⟩) ∧
      (exchange.dispatch ⟨"alice"⟩ toBob).1.isOk = true ∧
        ((exchange.handle ⟨"alice"⟩ toBob).queuedFor 0).length = 1 := by
  have readBroadcast : Command.read .standard ⟨"alice"⟩
      (Text.utf8 "[\"broadcast\",null,null,2]") = .ok (.broadcast ⟨"2"⟩) := by
    decide +kernel
  have readOffer : Command.read .standard ⟨"alice"⟩ (Text.utf8 "[\"offer\",null,\"bob\",1]") =
      .ok (.signal ⟨.offer, "offer", ⟨"alice"⟩, none, some ⟨"bob"⟩, some ⟨"1"⟩⟩) := by
    decide +kernel
  intro exchange broadcast toBob
  have broadcastReturns : ((exchange.handle ⟨"alice"⟩ broadcast).queuedFor 0).length = 1 := by
    decide +kernel
  have offerReturns : ((exchange.handle ⟨"alice"⟩ toBob).queuedFor 0).length = 1 := by
    decide +kernel
  have delivered : (exchange.dispatch ⟨"alice"⟩ toBob).1.isOk = true := by decide +kernel
  exact ⟨by decide +kernel, by decide +kernel, by decide +kernel, by decide +kernel,
    ⟨readBroadcast, broadcastReturns⟩, readOffer, delivered, offerReturns⟩

end Exchange

end Switchboard
