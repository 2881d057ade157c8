import Switchboard.Proofs.Exchange.Authorship
import Switchboard.Proofs.Exchange.Provenance
import Switchboard.Proofs.Settings
import Switchboard.Proofs.Vocabulary

/-!
# Who hears of errors

The label of a command becomes the event of the notice that it leads to, except
for rooms that are joined or left. If none of these labels is the event of an
error, then every error notice in a queue was written for the identity that was
registered with its connection, in answer to a frame of its own.

The check of settings compares labels with each other only. It lets a
vocabulary pass in which a label is the event of an error, and then one client
can put such an event into the queue of another.
-/

namespace Switchboard

open Json Text

/-- The label of the verb becomes the event of a notice. -/
def Verb.isEchoed : Verb → Bool
  | broadcast | offer | answer | iceCandidate | list | me => true
  | join | leave => false

/-- The operation puts a frame into queues that is no client's. -/
def Operation.queuesDirectly : Operation → Bool
  | enqueue _ _ => true
  | request asked => asked.isDelivery
  | openMailbox _ | openSaturated | disconnect _ | dispatch _ _ | handle _ _ | join _ _ | leave _ _
  | leaveAll _ | close _ | receive _ | drain _ | abandon _ | stop => false

namespace Exchange

variable {exchange : Exchange} {sender : Identity} {connection : Connection}
  {inbound sent : Bytes} {request : Request} {command : Command}

/-- A command comes down to a notice whose event is the label of its verb. -/
theorem exists_verb_of_asked?
    (read : Command.read exchange.vocabulary sender inbound = .ok command)
    (asked : exchange.asked? sender command = some request) (isFrame : request.frame? = some sent) :
    ∃ verb notice, verb.isEchoed = true ∧ Notice.read? sent = some notice ∧
      notice.event = exchange.vocabulary.label verb := by
  obtain ⟨envelope, verb, readEnvelope, resolved, meant⟩ := Command.read_eq_ok_iff.mp read
  have transmissible := Command.isTransmissible_of_read read
  cases command with
  | broadcast payload =>
      cases asked
      cases isFrame
      have reads : Notice.read? (exchange.broadcastNotice sender payload).frame = some _ :=
        Notice.read?_frame fun _ present => Option.some.inj present ▸ transmissible
      exact ⟨.broadcast, _, rfl, reads, rfl⟩
  | signal signal =>
      obtain ⟨recipient, _, rfl⟩ := Option.map_eq_some_iff.mp asked
      cases isFrame
      obtain ⟨directed, rfl⟩ := Command.ofEnvelope_eq_signal_iff.mp meant
      have echoed : verb.isEchoed = true := by
        cases verb with
        | offer | answer | iceCandidate => rfl
        | broadcast | join | leave | list | me => contradiction
      exact ⟨verb, _, echoed, Notice.read?_frame transmissible,
        (Vocabulary.label_of_resolve? resolved).symm⟩
  | list room =>
      cases asked
      cases isFrame
      have reads : Notice.read? (exchange.listNotice sender room).frame = some _ :=
        Notice.read?_frame (Notice.isTransmissible_of_payload_eq_none rfl)
      exact ⟨.list, _, rfl, reads, rfl⟩
  | me =>
      cases asked
      cases isFrame
      have reads : Notice.read? (exchange.meNotice sender).frame = some _ :=
        Notice.read?_frame (Notice.isTransmissible_of_payload_eq_none rfl)
      exact ⟨.me, _, rfl, reads, rfl⟩
  | join | leave => contradiction

theorem exists_verb_of_routed? (routed : exchange.routed? sender inbound = some request)
    (isFrame : request.frame? = some sent) :
    ∃ verb notice, verb.isEchoed = true ∧ Notice.read? sent = some notice ∧
      notice.event = exchange.vocabulary.label verb := by
  rw [routed?] at routed
  split at routed
  · split at routed
    · contradiction
    · rename_i read
      exact exists_verb_of_asked? read routed isFrame
  · contradiction

/-- The notice tells a sender what went wrong with a frame of its own. -/
def Answers (exchange : Exchange) (connection : Connection) (notice : Notice)
    (sender : Identity) (inbound : Bytes) : Prop :=
  exchange.directory.find? sender = some connection ∧
    ∃ error, (exchange.dispatch sender inbound).1 = .error error ∧ error.isReported = true ∧
      notice = .error sender error.message

/-- Where no label is the event of an error, error notices are answers. -/
theorem answers_of_emits {operation : Operation} {notice : Notice}
    (free : ∀ verb : Verb, verb.isEchoed = true →
      exchange.vocabulary.label verb ≠ Notice.errorEvent)
    (undirected : operation.queuesDirectly = false)
    (emits : exchange.Emits connection sent operation) (reads : Notice.read? sent = some notice)
    (isError : notice.event = Notice.errorEvent) :
    ∃ sender inbound, operation = .handle sender inbound ∧
      exchange.Answers connection notice sender inbound := by
  have unrouted {sender : Identity} {inbound : Bytes} {request : Request}
      (routed : exchange.routed? sender inbound = some request)
      (isFrame : request.frame? = some sent) : False := by
    obtain ⟨verb, other, echoed, readsOther, event⟩ := exists_verb_of_routed? routed isFrame
    cases reads.symm.trans readsOther
    exact free verb echoed (event.symm.trans isError)
  cases operation with
  | enqueue => contradiction
  | request request =>
      cases request with
      | deliver | broadcast => contradiction
      | register | unregister =>
          have unframed : none = some sent := emits.1
          contradiction
  | dispatch sender inbound =>
      obtain ⟨request, routed, isFrame, _⟩ := emits
      exact (unrouted routed isFrame).elim
  | handle sender inbound =>
      obtain ⟨request, routed | complained, isFrame, identity, addressed, found⟩ := emits
      · exact (unrouted routed isFrame).elim
      · obtain ⟨error, failed, reported, rfl⟩ := complaint?_eq_some complained
        cases isFrame
        have same : sender = identity := by simpa [Request.addresses] using addressed
        have told : Notice.read? (Notice.error sender error.message).frame = some _ :=
          Notice.read?_frame (Notice.isTransmissible_of_payload_eq_none rfl)
        exact ⟨sender, inbound, rfl, same ▸ found, error, failed, reported,
          Option.some.inj (reads.symm.trans told)⟩
  | openMailbox | openSaturated | disconnect | join | leave | leaveAll | close | receive | drain
  | abandon | stop => exact emits.elim

/-- Let no label that becomes an event be the event of an error, and let queues
be filled with nothing but what frames of clients lead to. Then every error
notice in a queue tells the identity that was registered with the connection
what went wrong with a frame of its own. -/
theorem error_notices_are_answers {vocabulary : Vocabulary} (queueCapacity : Nat)
    (arrangement : Arrangement)
    (free : ∀ verb : Verb, verb.isEchoed = true → vocabulary.label verb ≠ Notice.errorEvent)
    {operations : List Operation}
    (undirected : ∀ operation ∈ operations, operation.queuesDirectly = false)
    {notice : Notice}
    (waits : sent ∈
      ((start vocabulary queueCapacity arrangement).run operations).queuedFor connection)
    (reads : Notice.read? sent = some notice) (isError : notice.event = Notice.errorEvent) :
    ∃ before sender inbound after, operations = before ++ .handle sender inbound :: after ∧
      ((start vocabulary queueCapacity arrangement).run before).Answers connection notice sender
        inbound := by
  rcases emitted_of_mem_queuedFor waits with early | ⟨before, operation, after, rfl, emits⟩
  · contradiction
  · have speaks := ((start vocabulary queueCapacity arrangement).setUp_run before).1
    have undirectedHere := undirected operation (by simp)
    rw [← show ((start vocabulary queueCapacity arrangement).run before).vocabulary = vocabulary
      from speaks]
      at free
    obtain ⟨sender, inbound, rfl, answers⟩ :=
      answers_of_emits free undirectedHere emits reads isError
    exact ⟨before, sender, inbound, after, rfl, answers⟩

/-- Alice and Bob are registered. -/
def arrivals : List Operation :=
  [.openMailbox 256, .openMailbox 256,
    .request (.register ⟨"alice"⟩ 0), .request (.register ⟨"bob"⟩ 1)]

theorem error_notices_are_answers_alice :
    let operations := arrivals ++ [.handle ⟨"alice"⟩ (utf8 "[\"join\"]")]
    let message := "room is required for join messages"
    (∀ verb : Verb, verb.isEchoed = true →
        Vocabulary.standard.label verb ≠ Notice.errorEvent) ∧
      (∀ operation ∈ operations, operation.queuesDirectly = false) ∧
      ((start .standard 256).run operations).queuedFor 0 =
        [(Notice.error ⟨"alice"⟩ message).frame] ∧
      ∃ before sender inbound after, operations = before ++ .handle sender inbound :: after ∧
        ((start .standard 256).run before).Answers 0 (Notice.error ⟨"alice"⟩ message) sender
          inbound := by
  intro operations message
  have free : ∀ verb : Verb, verb.isEchoed = true →
      Vocabulary.standard.label verb ≠ Notice.errorEvent := by
    intro verb
    cases verb <;> decide
  have undirected : ∀ operation ∈ operations, operation.queuesDirectly = false := by
    decide
  have queued : ((start .standard 256).run operations).queuedFor 0 =
      [(Notice.error ⟨"alice"⟩ message).frame] := by
    decide +kernel
  have waits : (Notice.error ⟨"alice"⟩ message).frame ∈
      ((start .standard 256).run operations).queuedFor 0 := by
    rw [queued]
    exact List.mem_singleton_self _
  exact ⟨free, undirected, queued, error_notices_are_answers 256 .byName free undirected waits
    (Notice.read?_frame (Notice.isTransmissible_of_payload_eq_none rfl)) rfl⟩

/-- The usual labels, but for a broadcast that is called an error. -/
def misnamed : Vocabulary where
  label
    | .broadcast => "error"
    | verb => Vocabulary.standard.label verb

/-- The settings of a server that speaks this vocabulary are valid. Yet a
broadcast puts the event of an error, with a payload and without a message,
into the queue of another client. -/
theorem error_event_reaches_others :
    let settings : Settings := { vocabulary := misnamed }
    let operations := arrivals ++ [.handle ⟨"alice"⟩ (utf8 "[\"error\",null,null,1]")]
    let exchange := (start settings.vocabulary settings.queueCapacity).run operations
    settings.validate = .ok settings ∧
      (∀ operation ∈ operations, operation.queuesDirectly = false) ∧
      exchange.directory.find? ⟨"bob"⟩ = some 1 ∧
      ∃ sent, exchange.queuedFor 1 = [sent] ∧
        Notice.read? sent = some
          { event := Notice.errorEvent, sender := ⟨"alice"⟩, payload := some ⟨"1"⟩ } := by
  intro settings operations exchange
  have accepted : settings.validate = .ok settings :=
    Settings.validate_eq_self (by decide) (by decide) (by decide)
  let notice : Notice :=
    { event := Notice.errorEvent, sender := ⟨"alice"⟩, payload := some ⟨"1"⟩ }
  have queued : exchange.queuedFor 1 = [notice.frame] := by
    decide +kernel
  exact ⟨accepted, by decide, by decide +kernel, notice.frame, queued, by decide +kernel⟩

end Exchange

end Switchboard
