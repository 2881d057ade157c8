import Switchboard.Queue
import Switchboard.Text.Utf8

/-!
# Mailboxes

A mailbox holds the frames on their way to one connection. It is bounded: a
frame that finds it full is refused at once, so nobody ever waits for a slow
reader. Closing a mailbox is final. The frames that are already queued can
still be taken out, and after the last of them the reader sees the end.

A mailbox whose reader has gone away refuses everything, and what was queued
in it is lost. A mailbox without any room has no reader to begin with: it is
full until it is closed.
-/

namespace Switchboard

/-- Why a frame was not queued. -/
inductive Refusal
  | full
  | closed
  deriving DecidableEq, Repr

namespace Refusal

/-- The wording of the refusal. -/
def message : Refusal → String
  | full => "delivery queue is full"
  | closed => "delivery queue is closed"

end Refusal

/-- The bounded queue of one connection. -/
structure Mailbox where
  capacity : Nat
  queued : Queue Bytes := .empty
  /-- The writing side has been closed. -/
  closed : Bool := false
  /-- The reader has gone away. -/
  abandoned : Bool := false
  deriving DecidableEq, Repr

/-- What a reader finds. -/
inductive Reception
  | frame (frame : Bytes)
  /-- Nothing is queued, and more may come. -/
  | pending
  /-- Nothing is queued, and nothing will come. -/
  | ended
  deriving DecidableEq, Repr

namespace Mailbox

/-- A new mailbox. It has room for one frame at least. -/
def ofCapacity (capacity : Nat) : Mailbox :=
  { capacity := max capacity 1 }

/-- A mailbox without any room. -/
def saturated : Mailbox :=
  { capacity := 0 }

/-- Nothing can be put into the mailbox any more. -/
def isClosed (mailbox : Mailbox) : Bool :=
  mailbox.closed || mailbox.abandoned

/-- The frames that a reader can still take out, when there is a reader. -/
def outbox? (mailbox : Mailbox) : Option (Queue Bytes) :=
  if mailbox.abandoned || mailbox.capacity = 0 then none else some mailbox.queued

/-- Queue a frame. A closed mailbox is reported as closed, even when it is
also full. -/
def enqueue (mailbox : Mailbox) (frame : Bytes) : Except Refusal Mailbox :=
  if mailbox.isClosed then
    .error .closed
  else if mailbox.capacity ≤ mailbox.queued.size then
    .error .full
  else
    .ok { mailbox with queued := mailbox.queued.push frame }

/-- Close the writing side. What is queued stays readable. -/
def close (mailbox : Mailbox) : Mailbox :=
  { mailbox with closed := true }

/-- The reader goes away with all that is queued. -/
def abandon (mailbox : Mailbox) : Mailbox :=
  if mailbox.capacity = 0 then mailbox else { mailbox with queued := .empty, abandoned := true }

/-- Take out the next frame, if there is one. -/
def receive (mailbox : Mailbox) : Reception × Mailbox :=
  match mailbox.queued.pop? with
  | some (frame, rest) => (.frame frame, { mailbox with queued := rest })
  | none => (if mailbox.isClosed then .ended else .pending, mailbox)

/-- Take out all that is queued. -/
def drain (mailbox : Mailbox) : List Bytes × Mailbox :=
  (mailbox.queued.toList, { mailbox with queued := .empty })

end Mailbox

end Switchboard
