import Mathlib.Data.List.Forall2
import Mathlib.Data.Option.Basic
import Switchboard.Proofs.Exchange.Delivery
import Switchboard.Proofs.Exchange.Step

/-!
# Exchanges that mirror each other

Two exchanges mirror each other when they agree in everything but what the
frames in their queues say. Nothing that an exchange does with a frame depends
on what it says, so they do the same with frames that are alike, and mirror each
other again.
-/

namespace Switchboard

variable {alike : Bytes → Bytes → Prop} {frame image : Bytes}

/-- Both fail with the same error, or both succeed with related values. -/
inductive Parallel {ε α β : Type} (related : α → β → Prop) : Except ε α → Except ε β → Prop
  | error (error : ε) : Parallel related (.error error) (.error error)
  | ok {value : α} {other : β} (isRelated : related value other) :
      Parallel related (.ok value) (.ok other)

/-- The reader finds the same, or frames that are alike. -/
inductive Reception.Mirrors (alike : Bytes → Bytes → Prop) : Reception → Reception → Prop
  | frame {frame image : Bytes} (isAlike : alike frame image) :
      Mirrors alike (.frame frame) (.frame image)
  | pending : Mirrors alike .pending .pending
  | ended : Mirrors alike .ended .ended

namespace Mailbox

/-- The mailboxes hold frames that are alike, one by one, and differ in nothing
else. -/
structure Mirrors (alike : Bytes → Bytes → Prop) (mailbox twin : Mailbox) : Prop where
  capacity : twin.capacity = mailbox.capacity
  closed : twin.closed = mailbox.closed
  abandoned : twin.abandoned = mailbox.abandoned
  queued : List.Forall₂ alike mailbox.queued.toList twin.queued.toList

namespace Mirrors

variable {mailbox twin : Mailbox}

theorem refl_of_empty (vacant : mailbox.queued = .empty) : mailbox.Mirrors alike mailbox where
  capacity := rfl
  closed := rfl
  abandoned := rfl
  queued := by
    rw [vacant]
    exact .nil

theorem isClosed_eq (mirrors : mailbox.Mirrors alike twin) : twin.isClosed = mailbox.isClosed := by
  rw [isClosed, isClosed, mirrors.closed, mirrors.abandoned]

theorem size_eq (mirrors : mailbox.Mirrors alike twin) :
    twin.queued.size = mailbox.queued.size := by
  rw [Queue.size_eq_length, Queue.size_eq_length, mirrors.queued.length_eq]

theorem isSome_outbox?_eq (mirrors : mailbox.Mirrors alike twin) :
    twin.outbox?.isSome = mailbox.outbox?.isSome := by
  rw [outbox?, outbox?, mirrors.abandoned, mirrors.capacity]
  split <;> rfl

theorem enqueue (mirrors : mailbox.Mirrors alike twin) (isAlike : alike frame image) :
    Parallel (Mirrors alike) (mailbox.enqueue frame) (twin.enqueue image) := by
  rw [Mailbox.enqueue, Mailbox.enqueue, mirrors.isClosed_eq, mirrors.capacity, mirrors.size_eq]
  split
  · exact .error Refusal.closed
  · split
    · exact .error Refusal.full
    · have extended : List.Forall₂ alike (mailbox.queued.push frame).toList
          (twin.queued.push image).toList := by
        rw [Queue.toList_push, Queue.toList_push]
        exact List.rel_append mirrors.queued (.cons isAlike .nil)
      exact .ok { mirrors with capacity := rfl, queued := extended }

theorem close (mirrors : mailbox.Mirrors alike twin) : mailbox.close.Mirrors alike twin.close :=
  { mirrors with closed := rfl }

theorem abandon (mirrors : mailbox.Mirrors alike twin) :
    mailbox.abandon.Mirrors alike twin.abandon := by
  rw [Mailbox.abandon, Mailbox.abandon, mirrors.capacity]
  split
  · exact mirrors
  · exact { mirrors with capacity := rfl, abandoned := rfl, queued := .nil }

theorem receive (mirrors : mailbox.Mirrors alike twin) :
    mailbox.receive.1.Mirrors alike twin.receive.1 ∧
      mailbox.receive.2.Mirrors alike twin.receive.2 := by
  have queued := mirrors.queued
  rw [Mailbox.receive, Mailbox.receive, Queue.pop?_eq, Queue.pop?_eq, mirrors.isClosed_eq]
  generalize mailbox.queued.toList = frames at queued ⊢
  generalize twin.queued.toList = images at queued ⊢
  cases queued with
  | nil =>
      constructor
      · dsimp only
        split
        · exact .ended
        · exact .pending
      · exact mirrors
  | @cons _ _ frames images isAlike rest =>
      have kept : List.Forall₂ alike (Queue.ofList frames).toList (Queue.ofList images).toList := by
        rw [Queue.toList_ofList, Queue.toList_ofList]
        exact rest
      constructor
      · exact .frame isAlike
      · exact { mirrors with queued := kept }

theorem drain (mirrors : mailbox.Mirrors alike twin) :
    List.Forall₂ alike mailbox.drain.1 twin.drain.1 ∧
      mailbox.drain.2.Mirrors alike twin.drain.2 :=
  ⟨mirrors.queued, { mirrors with queued := .nil }⟩

end Mirrors

end Mailbox

namespace Exchange

/-- The exchanges speak two vocabularies, hold frames that are alike, one by
one, and differ in nothing else. In particular their broadcasts take the same
order. -/
structure Mirrors (vocabulary other : Vocabulary) (alike : Bytes → Bytes → Prop)
    (exchange twin : Exchange) : Prop where
  speaks : exchange.vocabulary = vocabulary
  speaksOther : twin.vocabulary = other
  queueCapacity : twin.queueCapacity = exchange.queueCapacity
  arrangement : twin.arrangement = exchange.arrangement
  running : twin.running = exchange.running
  directory : twin.directory = exchange.directory
  rooms : twin.rooms = exchange.rooms
  log : twin.log = exchange.log
  size : twin.mailboxes.size = exchange.mailboxes.size
  mailboxes : ∀ connection : Connection, Option.Rel (Mailbox.Mirrors alike)
    exchange.mailboxes[connection]? twin.mailboxes[connection]?

/-- The results are related, and the exchanges mirror each other afterwards. -/
inductive Echoes {α : Type} (vocabulary other : Vocabulary) (alike : Bytes → Bytes → Prop)
    (related : α → α → Prop) : α × Exchange → α × Exchange → Prop
  | intro {next twin : Exchange} {result image : α} (isRelated : related result image)
      (mirrors : next.Mirrors vocabulary other alike twin) :
      Echoes vocabulary other alike related (result, next) (image, twin)

namespace Mirrors

variable {vocabulary other : Vocabulary} {exchange twin : Exchange} {room : String}
  {identity : Identity} {connection : Connection}

/-! ## Mailboxes -/

theorem withMailbox {mailbox image : Mailbox}
    (mirrors : exchange.Mirrors vocabulary other alike twin)
    (mirrored : mailbox.Mirrors alike image) (connection : Connection) :
    Mirrors vocabulary other alike
      { exchange with mailboxes := exchange.mailboxes.setIfInBounds connection mailbox }
      { twin with mailboxes := twin.mailboxes.setIfInBounds connection image } := by
  have each (known : Connection) : Option.Rel (Mailbox.Mirrors alike)
      (exchange.mailboxes.setIfInBounds connection mailbox)[known]?
      (twin.mailboxes.setIfInBounds connection image)[known]? := by
    rw [Array.getElem?_setIfInBounds, Array.getElem?_setIfInBounds, mirrors.size]
    split
    · split
      · exact .some mirrored
      · exact .none
    · exact mirrors.mailboxes known
  have sameSize : (twin.mailboxes.setIfInBounds connection image).size =
      (exchange.mailboxes.setIfInBounds connection mailbox).size := by
    rw [Array.size_setIfInBounds, Array.size_setIfInBounds, mirrors.size]
  exact { mirrors with size := sameSize, mailboxes := each }

theorem modifyMailbox {change : Mailbox → Mailbox}
    (mirrors : exchange.Mirrors vocabulary other alike twin)
    (changed : ∀ {mailbox image : Mailbox}, mailbox.Mirrors alike image →
      (change mailbox).Mirrors alike (change image)) (connection : Connection) :
    (exchange.modifyMailbox connection change).Mirrors vocabulary other alike
      (twin.modifyMailbox connection change) := by
  have each (known : Connection) : Option.Rel (Mailbox.Mirrors alike)
      (exchange.mailboxes.modify connection change)[known]?
      (twin.mailboxes.modify connection change)[known]? := by
    rw [Array.getElem?_modify, Array.getElem?_modify]
    have found := mirrors.mailboxes known
    split
    · generalize exchange.mailboxes[known]? = before at found ⊢
      generalize twin.mailboxes[known]? = after at found ⊢
      cases found with
      | none => exact .none
      | some mirrored => exact .some (changed mirrored)
    · exact found
  have sameSize : (twin.mailboxes.modify connection change).size =
      (exchange.mailboxes.modify connection change).size := by
    rw [Array.size_modify, Array.size_modify, mirrors.size]
  exact { mirrors with size := sameSize, mailboxes := each }

theorem openMailbox (mirrors : exchange.Mirrors vocabulary other alike twin) (mailbox : Mailbox)
    (vacant : mailbox.queued = .empty) :
    Echoes vocabulary other alike Eq (exchange.openMailbox mailbox) (twin.openMailbox mailbox) := by
  have each (known : Connection) : Option.Rel (Mailbox.Mirrors alike)
      (exchange.mailboxes.push mailbox)[known]? (twin.mailboxes.push mailbox)[known]? := by
    rw [Array.getElem?_push, Array.getElem?_push, mirrors.size]
    split
    · exact .some (.refl_of_empty vacant)
    · exact mirrors.mailboxes known
  have sameSize : (twin.mailboxes.push mailbox).size = (exchange.mailboxes.push mailbox).size := by
    rw [Array.size_push, Array.size_push, mirrors.size]
  rw [Exchange.openMailbox, Exchange.openMailbox, mirrors.size]
  exact .intro rfl { mirrors with size := sameSize, mailboxes := each }

theorem enqueue (mirrors : exchange.Mirrors vocabulary other alike twin)
    (isAlike : alike frame image) (connection : Connection) :
    Parallel (Mirrors vocabulary other alike) (exchange.enqueue connection frame)
      (twin.enqueue connection image) := by
  have found := mirrors.mailboxes connection
  rw [Exchange.enqueue, Exchange.enqueue]
  generalize exchange.mailboxes[connection]? = before at found ⊢
  generalize twin.mailboxes[connection]? = after at found ⊢
  cases found with
  | none => exact .error Refusal.closed
  | @some mailbox box mirrored =>
      have outcome := mirrored.enqueue isAlike
      dsimp only
      generalize mailbox.enqueue frame = first at outcome ⊢
      generalize box.enqueue image = second at outcome ⊢
      cases outcome with
      | error refusal => exact .error refusal
      | ok filled => exact .ok (mirrors.withMailbox filled connection)

/-! ## Rooms -/

theorem record (mirrors : exchange.Mirrors vocabulary other alike twin) (events : List Event) :
    (exchange.record events).Mirrors vocabulary other alike (twin.record events) := by
  have sameLog : twin.log.pushAll events = exchange.log.pushAll events := by
    rw [mirrors.log]
  exact { mirrors with log := sameLog }

theorem withRooms (mirrors : exchange.Mirrors vocabulary other alike twin) (rooms : Rooms) :
    Mirrors vocabulary other alike { exchange with rooms } { twin with rooms } :=
  { mirrors with rooms := rfl }

theorem join (mirrors : exchange.Mirrors vocabulary other alike twin) (room : String)
    (identity : Identity) :
    Echoes vocabulary other alike Eq (exchange.join room identity) (twin.join room identity) := by
  rw [Exchange.join, Exchange.join, mirrors.rooms]
  split
  · exact .intro rfl mirrors
  · exact .intro rfl ((mirrors.withRooms _).record _)

theorem leave (mirrors : exchange.Mirrors vocabulary other alike twin) (room : String)
    (identity : Identity) :
    Echoes vocabulary other alike Eq (exchange.leave room identity) (twin.leave room identity) := by
  rw [Exchange.leave, Exchange.leave, mirrors.rooms]
  split
  · exact .intro rfl mirrors
  · exact .intro rfl ((mirrors.withRooms _).record _)

theorem leaveAll (mirrors : exchange.Mirrors vocabulary other alike twin) (identity : Identity) :
    (exchange.leaveAll identity).Mirrors vocabulary other alike (twin.leaveAll identity) := by
  rw [Exchange.leaveAll, Exchange.leaveAll, mirrors.rooms]
  exact (mirrors.withRooms _).record _

/-! ## Registration -/

theorem withDirectory (mirrors : exchange.Mirrors vocabulary other alike twin)
    (directory : Directory Connection) :
    Mirrors vocabulary other alike { exchange with directory } { twin with directory } :=
  { mirrors with directory := rfl }

theorem register (mirrors : exchange.Mirrors vocabulary other alike twin) (identity : Identity)
    (connection : Connection) :
    Echoes vocabulary other alike Eq (exchange.register identity connection)
      (twin.register identity connection) := by
  rw [Exchange.register, Exchange.register, mirrors.directory]
  by_cases serving : exchange.running
  · rw [if_pos serving, if_pos (mirrors.running.trans serving)]
    split
    · exact .intro rfl mirrors
    · exact .intro rfl ((mirrors.withDirectory _).record _)
  · rw [if_neg serving, if_neg (by rwa [mirrors.running])]
    exact .intro rfl mirrors

theorem remove (mirrors : exchange.Mirrors vocabulary other alike twin) (identity : Identity)
    (departure : Departure) :
    (exchange.remove identity departure).Mirrors vocabulary other alike
      (twin.remove identity departure) := by
  rw [Exchange.remove, Exchange.remove, mirrors.directory]
  split
  · exact mirrors
  · have erased := mirrors.withDirectory (exchange.directory.erase identity)
    exact ((erased.modifyMailbox Mailbox.Mirrors.close _).leaveAll identity).record _

theorem unregister (mirrors : exchange.Mirrors vocabulary other alike twin) (identity : Identity) :
    Echoes vocabulary other alike Eq (exchange.unregister identity) (twin.unregister identity) := by
  rw [Exchange.unregister, Exchange.unregister, mirrors.running, mirrors.directory]
  split
  · split
    · exact .intro rfl mirrors
    · exact .intro rfl (mirrors.remove identity .requested)
  · exact .intro rfl mirrors

theorem disconnect (mirrors : exchange.Mirrors vocabulary other alike twin) (identity : Identity) :
    Echoes vocabulary other alike Eq (exchange.disconnect identity) (twin.disconnect identity) := by
  have removed := mirrors.unregister identity
  rw [Exchange.disconnect, Exchange.disconnect]
  generalize exchange.unregister identity = first at removed ⊢
  generalize twin.unregister identity = second at removed ⊢
  cases removed with
  | @intro _ _ result _ same removed =>
      cases same
      cases result with
      | ok => exact .intro rfl removed
      | error error =>
          cases error with
          | directory reason =>
              cases reason with
              | notRegistered => exact .intro rfl (removed.leaveAll identity)
              | emptyIdentity | alreadyRegistered => exact .intro rfl removed
          | shed | stopped => exact .intro rfl removed

/-! ## Delivery -/

theorem shed (mirrors : exchange.Mirrors vocabulary other alike twin) (identity : Identity)
    (refusal : Refusal) :
    (exchange.shed identity refusal).Mirrors vocabulary other alike
      (twin.shed identity refusal) := by
  cases refusal with
  | full => exact (mirrors.record _).remove identity _
  | closed => exact mirrors.remove identity _

theorem deliver (mirrors : exchange.Mirrors vocabulary other alike twin)
    (isAlike : alike frame image) (recipient : Identity) :
    Echoes vocabulary other alike Eq (exchange.deliver recipient frame)
      (twin.deliver recipient image) := by
  rw [Exchange.deliver, Exchange.deliver, mirrors.running, mirrors.directory]
  split
  · split
    · exact .intro rfl mirrors
    · rename_i connection _
      have outcome := mirrors.enqueue isAlike connection
      generalize exchange.enqueue connection frame = first at outcome ⊢
      generalize twin.enqueue connection image = second at outcome ⊢
      cases outcome with
      | ok next => exact .intro rfl next
      | error refusal => exact .intro rfl (mirrors.shed recipient refusal)
  · exact .intro rfl mirrors

theorem deliverEach (isAlike : alike frame image) (recipients : List Identity)
    (mirrors : exchange.Mirrors vocabulary other alike twin) :
    Echoes vocabulary other alike Eq (Exchange.deliverEach frame recipients exchange)
      (Exchange.deliverEach image recipients twin) := by
  induction recipients generalizing exchange twin with
  | nil => exact .intro rfl mirrors
  | cons recipient rest ih =>
      have delivered := mirrors.deliver isAlike recipient
      rw [Exchange.deliverEach, Exchange.deliverEach]
      generalize exchange.deliver recipient frame = first at delivered ⊢
      generalize twin.deliver recipient image = second at delivered ⊢
      cases delivered with
      | @intro next nextTwin result _ same delivered =>
          have later := ih delivered
          cases same
          cases result with
          | ok | error =>
              dsimp only
              generalize Exchange.deliverEach frame rest next = first at later ⊢
              generalize Exchange.deliverEach image rest nextTwin = second at later ⊢
              cases later with
              | intro same last =>
                  cases same
                  exact .intro rfl last

theorem broadcast (mirrors : exchange.Mirrors vocabulary other alike twin)
    (isAlike : alike frame image) (excluded : Option Identity) :
    Echoes vocabulary other alike Eq (exchange.broadcast frame excluded)
      (twin.broadcast image excluded) := by
  have sameRecipients : twin.recipients excluded = exchange.recipients excluded := by
    rw [recipients, recipients, snapshot, snapshot, mirrors.arrangement, mirrors.log,
      mirrors.directory]
  rw [broadcast_eq, broadcast_eq, mirrors.running, sameRecipients]
  split
  · have delivered := mirrors.deliverEach isAlike (exchange.recipients excluded)
    generalize Exchange.deliverEach frame (exchange.recipients excluded) exchange = first
      at delivered ⊢
    generalize Exchange.deliverEach image (exchange.recipients excluded) twin = second
      at delivered ⊢
    cases delivered with
    | intro same last =>
        cases same
        exact .intro rfl last
  · exact .intro rfl mirrors

theorem stop (mirrors : exchange.Mirrors vocabulary other alike twin) :
    exchange.stop.Mirrors vocabulary other alike twin.stop :=
  { mirrors with running := rfl }

end Mirrors

end Exchange

end Switchboard
