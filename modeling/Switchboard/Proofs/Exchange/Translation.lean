import Switchboard.Proofs.Command.Edit
import Switchboard.Proofs.Command.Relabelling
import Switchboard.Proofs.Exchange.Gains
import Switchboard.Proofs.Exchange.Mirror
import Switchboard.Proofs.Notice

/-!
# Runs in another vocabulary

A script is put into another vocabulary by exchanging the labels of the frames
that clients send. Played under that vocabulary it does the same: the same
identities come and go, the same rooms have the same members, and the same
events are recorded. The queues hold the same notices, but for the labels that
are their events or that an error repeats.
-/

namespace Switchboard

open Json Text

variable {vocabulary other : Vocabulary} {alike : Bytes → Bytes → Prop}

/-- The usual labels, each for the verb before its own. -/
def Vocabulary.rotated : Vocabulary where
  label
    | .broadcast => "join"
    | .join => "leave"
    | .leave => "offer"
    | .offer => "answer"
    | .answer => "ice-candidate"
    | .iceCandidate => "list"
    | .list => "me"
    | .me => "broadcast"

/-! ## What is exchanged -/

namespace DispatchError

/-- The same error, but for the label that it repeats. -/
inductive Renames (vocabulary other : Vocabulary) : DispatchError → DispatchError → Prop
  | command {error renamed : CommandError} (renames : error.Renames vocabulary other renamed) :
      Renames vocabulary other (.command error) (.command renamed)
  | same {error : DispatchError} (unlabelled : ∀ reason, error ≠ .command reason) :
      Renames vocabulary other error error

/-- Both succeed, or fail with the same error, but for the label. -/
inductive RenamesOutcome (vocabulary other : Vocabulary) :
    Except DispatchError Unit → Except DispatchError Unit → Prop
  | ok : RenamesOutcome vocabulary other (.ok ()) (.ok ())
  | error {error renamed : DispatchError} (renames : error.Renames vocabulary other renamed) :
      RenamesOutcome vocabulary other (.error error) (.error renamed)

theorem Renames.isReported_eq {error renamed : DispatchError}
    (renames : error.Renames vocabulary other renamed) : renamed.isReported = error.isReported := by
  cases renames with
  | command renames => cases renames <;> rfl
  | same => rfl

/-- What becomes of a result when errors of one kind are reported as others. -/
theorem renamesOutcome_mapError {ε : Type} {report : ε → DispatchError}
    (unlabelled : ∀ error reason, report error ≠ .command reason) (result : Except ε Unit) :
    RenamesOutcome vocabulary other (result.mapError report) (result.mapError report) := by
  cases result with
  | ok => exact .ok
  | error error => exact .error (.same (unlabelled error))

end DispatchError

namespace Notice

/-- The same message, or none, but for the label that it repeats. -/
inductive RenamesMessage (vocabulary other : Vocabulary) : Option String → Option String → Prop
  | silent : RenamesMessage vocabulary other none none
  | complaint {error renamed : DispatchError} (renames : error.Renames vocabulary other renamed) :
      RenamesMessage vocabulary other (some error.message) (some renamed.message)

/-- The same notice, but for the event, which is the counterpart, and for the
label that the message repeats. -/
structure Renames (vocabulary other : Vocabulary) (notice renamed : Notice) : Prop where
  event : vocabulary.Renames other notice.event renamed.event
  sender : renamed.sender = notice.sender
  room : renamed.room = notice.room
  recipient : renamed.recipient = notice.recipient
  payload : renamed.payload = notice.payload
  members : renamed.members = notice.members
  message : RenamesMessage vocabulary other notice.message renamed.message

/-- The frames are read as the notices that they were written for, and these are
the same in two vocabularies. -/
inductive Counterpart (vocabulary other : Vocabulary) : Bytes → Bytes → Prop
  | intro {notice renamed : Notice} (reads : read? notice.frame = some notice)
      (readsOther : read? renamed.frame = some renamed)
      (renames : notice.Renames vocabulary other renamed) :
      Counterpart vocabulary other notice.frame renamed.frame

theorem Renames.counterpart {notice renamed : Notice}
    (renames : notice.Renames vocabulary other renamed) (transmissible : notice.IsTransmissible) :
    Counterpart vocabulary other notice.frame renamed.frame := by
  apply Counterpart.intro (read?_frame transmissible) _ renames
  apply read?_frame
  intro payload present
  rw [renames.payload] at present
  exact transmissible payload present

/-- Only the event is exchanged, for the label of the same verb. -/
theorem renames_of_event {notice renamed : Notice} (verb : Verb)
    (event : notice.event = vocabulary.label verb)
    (rest : renamed = { notice with event := other.label verb })
    (silent : notice.message = none) : notice.Renames vocabulary other renamed := by
  subst rest
  exact
    { event := by rw [event]; exact .label verb
      sender := rfl
      room := rfl
      recipient := rfl
      payload := rfl
      members := rfl
      message := by rw [silent]; exact .silent }

/-- No label is the event of an error notice. -/
theorem renames_error (free : errorEvent ∉ vocabulary.labels)
    (freeThere : errorEvent ∉ other.labels) (sender : Identity) {error renamed : DispatchError}
    (renames : error.Renames vocabulary other renamed) :
    (Notice.error sender error.message).Renames vocabulary other
      (Notice.error sender renamed.message) where
  event := .foreign free freeThere
  sender := rfl
  room := rfl
  recipient := rfl
  payload := rfl
  members := rfl
  message := .complaint renames

end Notice

namespace Operation

/-- The operation brings in a frame. -/
def carriesFrame : Operation → Bool
  | handle _ _ | dispatch _ _ | enqueue _ _ => true
  | request asked => asked.isDelivery
  | openMailbox _ | openSaturated | disconnect _ | join _ _ | leave _ _ | leaveAll _ | close _
  | receive _ | drain _ | abandon _ | stop => false

/-- The same operation in another vocabulary. The frames of clients are put
into that vocabulary, and frames that are queued directly are exchanged in some
given way. -/
inductive Translates (vocabulary other : Vocabulary) (direct : Bytes → Bytes → Prop) :
    Operation → Operation → Prop
  | handle {sender : Identity} {frame changed : Bytes}
      (relabelled : Envelope.RelabelledTo vocabulary other frame changed) :
      Translates vocabulary other direct (.handle sender frame) (.handle sender changed)
  | dispatch {sender : Identity} {frame changed : Bytes}
      (relabelled : Envelope.RelabelledTo vocabulary other frame changed) :
      Translates vocabulary other direct (.dispatch sender frame) (.dispatch sender changed)
  | enqueue {connection : Connection} {frame changed : Bytes} (exchanged : direct frame changed) :
      Translates vocabulary other direct (.enqueue connection frame) (.enqueue connection changed)
  | deliver {recipient : Identity} {frame changed : Bytes} (exchanged : direct frame changed) :
      Translates vocabulary other direct (.request (.deliver recipient frame))
        (.request (.deliver recipient changed))
  | broadcast {excluded : Option Identity} {frame changed : Bytes}
      (exchanged : direct frame changed) :
      Translates vocabulary other direct (.request (.broadcast frame excluded))
        (.request (.broadcast changed excluded))
  | same {operation : Operation} (frameless : operation.carriesFrame = false) :
      Translates vocabulary other direct operation operation

end Operation

namespace Answer

/-- Neither frames nor errors about frames are answered. -/
def isPlain : Answer → Bool
  | received _ | drained _ | dispatched _ => false
  | nothing | opened _ | response _ | presence _ | membership _ | rooms _ | queued _
  | noOutbox => true

/-- The answers are the same, but for frames, and for the label that an error
repeats. -/
inductive Mirrors (vocabulary other : Vocabulary) (alike : Bytes → Bytes → Prop) :
    Answer → Answer → Prop
  | received {reception image : Reception} (mirrors : reception.Mirrors alike image) :
      Mirrors vocabulary other alike (.received reception) (.received image)
  | drained {frames images : List Bytes} (areAlike : List.Forall₂ alike frames images) :
      Mirrors vocabulary other alike (.drained frames) (.drained images)
  | dispatched {outcome renamed : Except DispatchError Unit}
      (renames : DispatchError.RenamesOutcome vocabulary other outcome renamed) :
      Mirrors vocabulary other alike (.dispatched outcome) (.dispatched renamed)
  | same {answer : Answer} (plain : answer.isPlain = true) :
      Mirrors vocabulary other alike answer answer

end Answer

namespace Exchange

variable {exchange twin : Exchange} {direct : Bytes → Bytes → Prop}

theorem Echoes.mirrors {α : Type} {related : α → α → Prop} {first second : α × Exchange}
    (echoes : Echoes vocabulary other alike related first second) :
    first.2.Mirrors vocabulary other alike second.2 := by
  cases echoes with
  | intro _ mirrors => exact mirrors

theorem Echoes.related {α : Type} {related : α → α → Prop} {first second : α × Exchange}
    (echoes : Echoes vocabulary other alike related first second) : related first.1 second.1 := by
  cases echoes with
  | intro isRelated _ => exact isRelated

/-- Results that are read as others are related if they were. -/
theorem Echoes.map {α β : Type} {related : α → α → Prop} {also : β → β → Prop}
    {first second : α × Exchange} (read : α → β)
    (kept : ∀ {result image}, related result image → also (read result) (read image))
    (echoes : Echoes vocabulary other alike related first second) :
    Echoes vocabulary other alike also (read first.1, first.2) (read second.1, second.2) := by
  cases echoes with
  | intro isRelated mirrors => exact .intro (kept isRelated) mirrors

/-- The same result is told in the same way. -/
theorem Echoes.plain {α : Type} {first second : α × Exchange} (tell : α → Answer)
    (plain : ∀ result, (tell result).isPlain = true)
    (echoes : Echoes vocabulary other alike Eq first second) :
    Echoes vocabulary other alike (Answer.Mirrors vocabulary other alike)
      (tell first.1, first.2) (tell second.1, second.2) := by
  apply echoes.map tell
  rintro result _ rfl
  exact .same (plain result)

/-- The same error is reported in the same way. -/
theorem Echoes.mapError {ε : Type} {first second : Except ε Unit × Exchange}
    (report : ε → DispatchError) (unlabelled : ∀ error reason, report error ≠ .command reason)
    (echoes : Echoes vocabulary other alike Eq first second) :
    Echoes vocabulary other alike (DispatchError.RenamesOutcome vocabulary other)
      (first.1.mapError report, first.2) (second.1.mapError report, second.2) := by
  apply echoes.map (Except.mapError report)
  rintro result _ rfl
  exact DispatchError.renamesOutcome_mapError unlabelled result

namespace Mirrors

/-! ## Notices -/

theorem renames_broadcastNotice (mirrors : exchange.Mirrors vocabulary other alike twin)
    (sender : Identity) (payload : Payload) :
    (exchange.broadcastNotice sender payload).Renames vocabulary other
      (twin.broadcastNotice sender payload) := by
  apply Notice.renames_of_event .broadcast
  · rw [broadcastNotice, mirrors.speaks]
  · rw [broadcastNotice, broadcastNotice, mirrors.speaksOther]
  · rfl

theorem renames_listNotice (mirrors : exchange.Mirrors vocabulary other alike twin)
    (sender : Identity) (room : Option String) :
    (exchange.listNotice sender room).Renames vocabulary other (twin.listNotice sender room) := by
  apply Notice.renames_of_event .list
  · unfold listNotice
    rw [mirrors.speaks]
  · unfold listNotice
    rw [mirrors.speaksOther, mirrors.rooms, mirrors.directory]
  · rfl

theorem renames_meNotice (mirrors : exchange.Mirrors vocabulary other alike twin)
    (sender : Identity) :
    (exchange.meNotice sender).Renames vocabulary other (twin.meNotice sender) := by
  apply Notice.renames_of_event .me
  · rw [meNotice, mirrors.speaks]
  · rw [meNotice, meNotice, mirrors.speaksOther]
  · rfl

/-! ## Frames of clients -/

theorem answer (mirrors : exchange.Mirrors vocabulary other alike twin) {notice renamed : Notice}
    (isAlike : alike notice.frame renamed.frame) (sender : Identity) :
    Echoes vocabulary other alike (DispatchError.RenamesOutcome vocabulary other)
      (exchange.answer sender notice) (twin.answer sender renamed) := by
  exact (mirrors.deliver isAlike sender).mapError DispatchError.exchange (by simp)

/-- Commands that are read from counterparts are carried out alike. -/
theorem carryOut (mirrors : exchange.Mirrors vocabulary other alike twin)
    (counterparts : ∀ {frame image}, Notice.Counterpart vocabulary other frame image →
      alike frame image)
    {command renamed : Command}
    (readAs : Command.ReadAs vocabulary other (.ok command) (.ok renamed))
    (transmissible : command.IsTransmissible) (sender : Identity) :
    Echoes vocabulary other alike (DispatchError.RenamesOutcome vocabulary other)
      (exchange.carryOut sender command) (twin.carryOut sender renamed) := by
  cases readAs with
  | signal verb author room recipient payload =>
      cases recipient with
      | none => exact .intro (.error (.same (by simp))) mirrors
      | some recipient =>
          have renames : Notice.Renames vocabulary other
              (.ofSignal { verb, event := vocabulary.label verb, sender := author, room,
                           recipient := some recipient, payload })
              (.ofSignal { verb, event := other.label verb, sender := author, room,
                           recipient := some recipient, payload }) :=
            Notice.renames_of_event verb rfl rfl rfl
          have isAlike := counterparts (renames.counterpart transmissible)
          apply (mirrors.deliver isAlike recipient).map fun delivered =>
            (delivered.mapError (SignalError.undelivered recipient)).mapError DispatchError.signal
          rintro result _ rfl
          exact DispatchError.renamesOutcome_mapError (by simp) _
  | same unlabelled =>
      cases command with
      | signal sent => exact absurd rfl (unlabelled sent)
      | broadcast payload =>
          have renames := mirrors.renames_broadcastNotice sender payload
          have isAlike := counterparts (renames.counterpart fun _ present =>
            Option.some.inj present ▸ transmissible)
          apply (mirrors.broadcast isAlike (some sender)).map fun report =>
            (report.map fun _ => ()).mapError DispatchError.exchange
          rintro result _ rfl
          exact DispatchError.renamesOutcome_mapError (by simp) _
      | join room =>
          exact (mirrors.join room sender).mapError DispatchError.room (by simp)
      | leave room =>
          exact (mirrors.leave room sender).mapError DispatchError.room (by simp)
      | list room =>
          have renames := (mirrors.renames_listNotice sender room).counterpart
            (Notice.isTransmissible_of_payload_eq_none rfl)
          exact mirrors.answer (counterparts renames) sender
      | me =>
          have renames := (mirrors.renames_meNotice sender).counterpart
            (Notice.isTransmissible_of_payload_eq_none rfl)
          exact mirrors.answer (counterparts renames) sender

theorem dispatch (mirrors : exchange.Mirrors vocabulary other alike twin)
    (usable : vocabulary.isUsable = true) (usableThere : other.isUsable = true)
    (counterparts : ∀ {frame image}, Notice.Counterpart vocabulary other frame image →
      alike frame image)
    {frame changed : Bytes} (relabelled : Envelope.RelabelledTo vocabulary other frame changed)
    (sender : Identity) :
    Echoes vocabulary other alike (DispatchError.RenamesOutcome vocabulary other)
      (exchange.dispatch sender frame) (twin.dispatch sender changed) := by
  have readAs := Command.readAs_read usable usableThere relabelled sender
  have transmissible {command : Command}
      (meant : Command.read vocabulary sender frame = .ok command) : command.IsTransmissible :=
    Command.isTransmissible_of_read meant
  rw [Exchange.dispatch, Exchange.dispatch, mirrors.directory, mirrors.speaks, mirrors.speaksOther]
  split
  · generalize Command.read vocabulary sender frame = first at readAs transmissible ⊢
    generalize Command.read other sender changed = second at readAs ⊢
    cases first with
    | error error =>
        cases readAs with
        | error renames => exact .intro (.error (.command renames)) mirrors
    | ok command =>
        cases second with
        | error error => contradiction
        | ok renamed => exact mirrors.carryOut counterparts readAs (transmissible rfl) sender
  · exact .intro (.error (.same (by simp))) mirrors

theorem handle (mirrors : exchange.Mirrors vocabulary other alike twin)
    (usable : vocabulary.isUsable = true) (usableThere : other.isUsable = true)
    (free : Notice.errorEvent ∉ vocabulary.labels) (freeThere : Notice.errorEvent ∉ other.labels)
    (counterparts : ∀ {frame image}, Notice.Counterpart vocabulary other frame image →
      alike frame image)
    {frame changed : Bytes} (relabelled : Envelope.RelabelledTo vocabulary other frame changed)
    (sender : Identity) :
    (exchange.handle sender frame).Mirrors vocabulary other alike (twin.handle sender changed) := by
  have dispatched := mirrors.dispatch usable usableThere counterparts relabelled sender
  rw [Exchange.handle, Exchange.handle]
  generalize exchange.dispatch sender frame = first at dispatched ⊢
  generalize twin.dispatch sender changed = second at dispatched ⊢
  cases dispatched with
  | intro outcome next =>
      cases outcome with
      | ok => exact next
      | error renames =>
          dsimp only
          rw [renames.isReported_eq]
          split
          · have told := Notice.renames_error free freeThere sender renames
            have reaches := told.counterpart (Notice.isTransmissible_of_payload_eq_none rfl)
            exact (next.deliver (counterparts reaches) sender).mirrors
          · exact next

/-! ## Operations -/

theorem read {look : Mailbox → Answer × Mailbox}
    (mirrors : exchange.Mirrors vocabulary other alike twin)
    (looked : ∀ {mailbox image : Mailbox}, mailbox.Mirrors alike image →
      (look mailbox).1.Mirrors vocabulary other alike (look image).1 ∧
        (look mailbox).2.Mirrors alike (look image).2)
    (connection : Connection) :
    Echoes vocabulary other alike (Answer.Mirrors vocabulary other alike)
      (exchange.read connection look) (twin.read connection look) := by
  have found := mirrors.mailboxes connection
  rw [Exchange.read, Exchange.read]
  generalize exchange.mailboxes[connection]? = before at found ⊢
  generalize twin.mailboxes[connection]? = after at found ⊢
  cases found with
  | none => exact .intro (.same rfl) mirrors
  | @some mailbox image mirrored =>
      have sameReader := mirrored.isSome_outbox?_eq
      obtain ⟨answered, left⟩ := looked mirrored
      dsimp only
      generalize mailbox.outbox? = first at sameReader ⊢
      generalize image.outbox? = second at sameReader ⊢
      cases first with
      | none =>
          rw [Option.isSome_none, Option.isSome_eq_false_iff, Option.isNone_iff_eq_none]
            at sameReader
          rw [sameReader]
          exact .intro (.same rfl) mirrors
      | some =>
          obtain ⟨_, rfl⟩ := Option.isSome_iff_exists.mp sameReader
          exact .intro answered (mirrors.withMailbox left connection)

/-- The same operation in another vocabulary has the same effect, and is
answered in the same way. -/
theorem perform (mirrors : exchange.Mirrors vocabulary other alike twin)
    (usable : vocabulary.isUsable = true) (usableThere : other.isUsable = true)
    (free : Notice.errorEvent ∉ vocabulary.labels) (freeThere : Notice.errorEvent ∉ other.labels)
    (counterparts : ∀ {frame image}, Notice.Counterpart vocabulary other frame image →
      alike frame image)
    (directs : ∀ {frame image}, direct frame image → alike frame image)
    {operation image : Operation}
    (translates : operation.Translates vocabulary other direct image) :
    Echoes vocabulary other alike (Answer.Mirrors vocabulary other alike)
      (exchange.perform operation) (twin.perform image) := by
  cases translates with
  | handle relabelled =>
      exact .intro (.same rfl)
        (mirrors.handle usable usableThere free freeThere counterparts relabelled _)
  | dispatch relabelled =>
      exact (mirrors.dispatch usable usableThere counterparts relabelled _).map Answer.dispatched
        fun renames => .dispatched renames
  | @enqueue connection frame changed exchanged =>
      have outcome := mirrors.enqueue (directs exchanged) connection
      rw [Exchange.perform, Exchange.perform]
      generalize exchange.enqueue connection frame = first at outcome ⊢
      generalize twin.enqueue connection changed = second at outcome ⊢
      cases outcome with
      | error => exact .intro (.same rfl) mirrors
      | ok next => exact .intro (.same rfl) next
  | @deliver recipient _ _ exchanged =>
      exact (mirrors.deliver (directs exchanged) recipient).plain
        (fun result => .response (.done result)) fun _ => rfl
  | @broadcast excluded _ _ exchanged =>
      exact (mirrors.broadcast (directs exchanged) excluded).plain
        (fun result => .response (.report result)) fun _ => rfl
  | same frameless =>
      cases operation with
      | handle | dispatch | enqueue => contradiction
      | request request =>
          cases request with
          | deliver | broadcast => contradiction
          | register identity connection =>
              exact (mirrors.register identity connection).plain
                (fun result => .response (.done result)) fun _ => rfl
          | unregister identity =>
              exact (mirrors.unregister identity).plain
                (fun result => .response (.done result)) fun _ => rfl
      | openMailbox capacity =>
          exact (mirrors.openMailbox (.ofCapacity capacity) rfl).plain Answer.opened fun _ => rfl
      | openSaturated =>
          exact (mirrors.openMailbox .saturated rfl).plain Answer.opened fun _ => rfl
      | disconnect identity =>
          exact (mirrors.disconnect identity).plain Answer.presence fun _ => rfl
      | join room identity =>
          exact (mirrors.join room identity).plain Answer.membership fun _ => rfl
      | leave room identity =>
          exact (mirrors.leave room identity).plain Answer.membership fun _ => rfl
      | leaveAll identity =>
          rw [Exchange.perform, Exchange.perform, mirrors.rooms]
          exact .intro (.same rfl) (mirrors.leaveAll identity)
      | close connection =>
          exact .intro (.same rfl) (mirrors.modifyMailbox Mailbox.Mirrors.close connection)
      | receive connection =>
          apply mirrors.read
          intro mailbox image mirrored
          exact ⟨.received mirrored.receive.1, mirrored.receive.2⟩
      | drain connection =>
          apply mirrors.read
          intro mailbox image mirrored
          exact ⟨.drained mirrored.drain.1, mirrored.drain.2⟩
      | abandon connection =>
          exact .intro (.same rfl) (mirrors.modifyMailbox Mailbox.Mirrors.abandon connection)
      | stop => exact .intro (.same rfl) mirrors.stop

end Mirrors

/-! ## Runs -/

theorem mirrors_start (vocabulary other : Vocabulary) (alike : Bytes → Bytes → Prop)
    (queueCapacity : Nat) (arrangement : Arrangement) :
    (start vocabulary queueCapacity arrangement).Mirrors vocabulary other alike
      (start other queueCapacity arrangement) where
  speaks := rfl
  speaksOther := rfl
  queueCapacity := rfl
  arrangement := rfl
  running := rfl
  directory := rfl
  rooms := rfl
  log := rfl
  size := rfl
  mailboxes _ := .none

theorem Mirrors.run {script translation : List Operation}
    (performed : ∀ {exchange twin : Exchange} {operation image : Operation},
      exchange.Mirrors vocabulary other alike twin →
        operation.Translates vocabulary other direct image →
          (exchange.perform operation).2.Mirrors vocabulary other alike (twin.perform image).2)
    (mirrors : exchange.Mirrors vocabulary other alike twin)
    (translates : List.Forall₂ (Operation.Translates vocabulary other direct) script translation) :
    (exchange.run script).Mirrors vocabulary other alike (twin.run translation) := by
  induction translates generalizing exchange twin with
  | nil => exact mirrors
  | cons translates _ ih => exact ih (performed mirrors translates)

/-- Two vocabularies, in both of which every verb has a label of its own that is
not the event of an error, are interchangeable. A script and its translation
lead to the same registrations, rooms and events after each step, and give the
same answers. The queues hold frames of the same notices in two vocabularies,
one by one, except for those that were queued directly. In which order broadcasts
reach their recipients is left open, as long as it is the same on both sides. -/
theorem vocabularies_are_interchangeable
    (usable : vocabulary.isUsable = true) (usableThere : other.isUsable = true)
    (free : Notice.errorEvent ∉ vocabulary.labels) (freeThere : Notice.errorEvent ∉ other.labels)
    (queueCapacity : Nat) (arrangement : Arrangement) {script translation : List Operation}
    (translates : List.Forall₂ (Operation.Translates vocabulary other direct) script translation)
    (count : Nat) :
    let exchange := (start vocabulary queueCapacity arrangement).run (script.take count)
    let twin := (start other queueCapacity arrangement).run (translation.take count)
    let alike frame image := direct frame image ∨ Notice.Counterpart vocabulary other frame image
    exchange.Mirrors vocabulary other alike twin ∧
      ∀ operation image, script[count]? = some operation → translation[count]? = some image →
        (exchange.perform operation).1.Mirrors vocabulary other alike (twin.perform image).1 := by
  intro exchange twin alike
  have performed {exchange twin : Exchange} {operation image : Operation}
      (mirrors : exchange.Mirrors vocabulary other alike twin)
      (translates : operation.Translates vocabulary other direct image) :
      Echoes vocabulary other alike (Answer.Mirrors vocabulary other alike)
        (exchange.perform operation) (twin.perform image) :=
    mirrors.perform usable usableThere free freeThere .inr .inl translates
  have mirrors : exchange.Mirrors vocabulary other alike twin :=
    Mirrors.run (fun mirrors translates => (performed mirrors translates).mirrors)
      (mirrors_start vocabulary other alike queueCapacity arrangement)
      (List.forall₂_take count translates)
  constructor
  · exact mirrors
  · intro operation image atCount atCountOther
    obtain ⟨inside, rfl⟩ := List.getElem?_eq_some_iff.mp atCount
    obtain ⟨insideOther, rfl⟩ := List.getElem?_eq_some_iff.mp atCountOther
    exact (performed mirrors (translates.get inside insideOther)).related

/-- Alice leaves out the room, and then tells everybody something. Bob says
what nobody understands. -/
def misspoken : List Operation :=
  [.openMailbox 4, .openMailbox 4,
    .request (.register ⟨"alice"⟩ 0), .request (.register ⟨"bob"⟩ 1),
    .handle ⟨"alice"⟩ (utf8 "[\"join\"]"),
    .handle ⟨"alice"⟩ (utf8 "\x7b\"payload\":[1],\"type\":\"broadcast\"\x7d"),
    .handle ⟨"bob"⟩ (utf8 "[\"hello\"]")]

/-- The same with labels that are rotated. -/
def misspokenInRotation : List Operation :=
  [.openMailbox 4, .openMailbox 4,
    .request (.register ⟨"alice"⟩ 0), .request (.register ⟨"bob"⟩ 1),
    .handle ⟨"alice"⟩ (utf8 "[\"leave\"]"),
    .handle ⟨"alice"⟩ (utf8 "\x7b\"payload\":[1],\"type\":\"join\"\x7d"),
    .handle ⟨"bob"⟩ (utf8 "[\"hello\"]")]

/-- A text as a value, spelled without escapes. -/
def plainText (text : String) : Value :=
  [⟨[], .string (Command.verbatim text)⟩]

/-- What Alice tells everybody. -/
def tidings : Value :=
  [⟨[], .mark .beginArray⟩, ⟨[], .number (utf8 "1")⟩, ⟨[], .mark .endArray⟩]

theorem relabelledTo_named {frame changed : Bytes} {text counterpart : String} {payload : Value}
    (spelled : (Document.object [(Command.verbatim "payload", payload),
      (Command.verbatim "type", plainText text)]).SpelledBy frame)
    (spelledOther : (Document.object [(Command.verbatim "payload", payload),
      (Command.verbatim "type", plainText counterpart)]).SpelledBy changed)
    (relabels : Envelope.Relabels vocabulary other "type" (plainText text)
      (plainText counterpart)) :
    Envelope.RelabelledTo vocabulary other frame changed := by
  have named {name field : String} (written : denotation? (Command.verbatim name) = some name)
      (denotes : Denotes (Command.verbatim name) field.toList) : field = name :=
    Option.some.inj ((denotation?_eq_some_iff.mpr denotes).symm.trans written)
  apply Envelope.RelabelledTo.object spelled spelledOther
  constructor
  · constructor
    · exact fun _ => .rfl
    · intro field _ denotes
      exact .kept (named (by decide +kernel) denotes ▸ by decide)
  · constructor
    · constructor
      · exact fun _ => .rfl
      · intro field _ denotes
        cases named (by decide +kernel) denotes
        exact relabels
    · exact .nil

theorem translates_misspoken : List.Forall₂
    (Operation.Translates .standard .rotated fun _ _ => False) misspoken misspokenInRotation := by
  have reads (text : String) (written : Value.string? (plainText text) = some text) :
      (plainText text).IsString text :=
    Value.string?_eq_some_iff.mp written
  have join : Envelope.Relabels .standard .rotated "type" (plainText "join") (plainText "leave") :=
    .label (reads "join" (by decide +kernel)) (reads "leave" (by decide +kernel)) (.label .join)
  have broadcast : Envelope.Relabels .standard .rotated "type" (plainText "broadcast")
      (plainText "join") :=
    .label (reads "broadcast" (by decide +kernel)) (reads "join" (by decide +kernel))
      (.label .broadcast)
  have hello : Envelope.Relabels .standard .rotated "type" (plainText "hello")
      (plainText "hello") :=
    .label (reads "hello" (by decide +kernel)) (reads "hello" (by decide +kernel))
      (.foreign (by decide) (by decide))
  have joins : (Document.array [plainText "join"]).SpelledBy (utf8 "[\"join\"]") := by
    decide +kernel
  have leaves : (Document.array [plainText "leave"]).SpelledBy (utf8 "[\"leave\"]") := by
    decide +kernel
  have tells : (Document.object [(Command.verbatim "payload", tidings),
      (Command.verbatim "type", plainText "broadcast")]).SpelledBy
      (utf8 "\x7b\"payload\":[1],\"type\":\"broadcast\"\x7d") := by
    decide +kernel
  have tellsInRotation : (Document.object [(Command.verbatim "payload", tidings),
      (Command.verbatim "type", plainText "join")]).SpelledBy
      (utf8 "\x7b\"payload\":[1],\"type\":\"join\"\x7d") := by
    decide +kernel
  have greets : (Document.array [plainText "hello"]).SpelledBy (utf8 "[\"hello\"]") := by
    decide +kernel
  apply List.Forall₂.cons (.same rfl)
  apply List.Forall₂.cons (.same rfl)
  apply List.Forall₂.cons (.same rfl)
  apply List.Forall₂.cons (.same rfl)
  apply List.Forall₂.cons (.handle (.array joins leaves join))
  apply List.Forall₂.cons (.handle (relabelledTo_named tells tellsInRotation broadcast))
  apply List.Forall₂.cons (.handle (.array greets greets hello))
  exact .nil

theorem vocabularies_are_interchangeable_rotated :
    let exchange := (start .standard 4).run misspoken
    let twin := (start .rotated 4).run misspokenInRotation
    (Vocabulary.standard.isUsable = true ∧ Vocabulary.rotated.isUsable = true) ∧
      (Notice.errorEvent ∉ Vocabulary.standard.labels ∧
        Notice.errorEvent ∉ Vocabulary.rotated.labels) ∧
      List.Forall₂ (Operation.Translates .standard .rotated fun _ _ => False) misspoken
        misspokenInRotation ∧
      exchange.Mirrors .standard .rotated
        (fun frame image => False ∨ Notice.Counterpart .standard .rotated frame image) twin ∧
      exchange.queuedFor 0 =
        [(Notice.error ⟨"alice"⟩ "room is required for join messages").frame] ∧
      twin.queuedFor 0 =
        [(Notice.error ⟨"alice"⟩ "room is required for leave messages").frame] := by
  intro exchange twin
  have usable : Vocabulary.standard.isUsable = true := by decide
  have usableThere : Vocabulary.rotated.isUsable = true := by decide
  have free : Notice.errorEvent ∉ Vocabulary.standard.labels := by decide
  have freeThere : Notice.errorEvent ∉ Vocabulary.rotated.labels := by decide
  have mirrors := (vocabularies_are_interchangeable usable usableThere free freeThere 4 .byName
    translates_misspoken 7).1
  exact ⟨⟨usable, usableThere⟩, ⟨free, freeThere⟩, translates_misspoken, mirrors,
    by decide +kernel, by decide +kernel⟩

end Exchange

end Switchboard
