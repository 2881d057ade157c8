/-!
# Verbs and their labels

A client asks for one of eight verbs. On the wire a verb is written as a
label, and which label stands for which verb is a matter of the vocabulary in
use. A label is resolved to the first verb that carries it, so a label shared
by two verbs reaches only the earlier one.
-/

namespace Switchboard

/-- What a client can ask for. -/
inductive Verb
  | broadcast
  | join
  | leave
  | offer
  | answer
  | iceCandidate
  | list
  | me
  deriving DecidableEq, Repr

namespace Verb

/-- All verbs, in the order in which labels are looked up. -/
def all : List Verb :=
  [broadcast, join, leave, offer, answer, iceCandidate, list, me]

theorem mem_all (verb : Verb) : verb ∈ all := by
  cases verb <;> decide

/-- Whether a verb addresses one recipient. -/
def isDirected : Verb → Bool
  | offer | answer | iceCandidate => true
  | broadcast | join | leave | list | me => false

end Verb

/-- A choice of labels for the verbs. -/
structure Vocabulary where
  label : Verb → String

namespace Vocabulary

/-- The labels used when nothing else is chosen. -/
def standard : Vocabulary where
  label
    | .broadcast => "broadcast"
    | .join => "join"
    | .leave => "leave"
    | .offer => "offer"
    | .answer => "answer"
    | .iceCandidate => "ice-candidate"
    | .list => "list"
    | .me => "me"

/-- The verb that a label stands for. -/
def resolve? (vocabulary : Vocabulary) (label : String) : Option Verb :=
  Verb.all.find? fun verb => vocabulary.label verb = label

/-- All labels, in the order of their verbs. -/
def labels (vocabulary : Vocabulary) : List String :=
  Verb.all.map vocabulary.label

/-- A vocabulary is usable when every verb has a label of its own and none is
empty. -/
def isUsable (vocabulary : Vocabulary) : Bool :=
  vocabulary.labels.Nodup && vocabulary.labels.all (· ≠ "")

end Vocabulary

end Switchboard
