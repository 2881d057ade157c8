import Mathlib.Data.List.Basic
import Mathlib.Data.List.Chain
import Switchboard.Event

/-!
# Counting events

Every event is of one of five kinds, and the tally has a counter for each. A
counter shows how many events of its kind a log holds, as long as the log is
not longer than a counter can tell.

A log tells of identities that come and go, and of rooms that are created and
destroyed. Either way what it tells of one of them takes turns.
-/

namespace Switchboard

/-- What is told of something that is there or not takes turns: it begins with
a change of the first, and the last that is told is how things are now. -/
structure Switches (first : Bool) (told : List Bool) (last : Bool) : Prop where
  turns : (first :: told).IsChain (· ≠ ·)
  current : (first :: told).getLast? = some last

namespace Switches

variable {first between last : Bool} {told later : List Bool}

theorem refl (first : Bool) : Switches first [] first :=
  ⟨List.isChain_singleton first, rfl⟩

theorem single (differ : first ≠ last) : Switches first [last] last :=
  ⟨List.isChain_pair.mpr differ, rfl⟩

/-- What is told of a change is that there is one. -/
theorem of_change (first last : Bool) :
    Switches first (if last = first then [] else [last]) last := by
  by_cases same : last = first
  · rw [if_pos same, same]
    exact refl first
  · rw [if_neg same]
    exact single (Ne.symm same)

theorem trans (earlier : Switches first told between) (after : Switches between later last) :
    Switches first (told ++ later) last := by
  cases later with
  | nil =>
      have unmoved : between = last := Option.some.inj after.current
      rw [List.append_nil, ← unmoved]
      exact earlier
  | cons next rest =>
      have seam : between ≠ next := List.IsChain.rel after.turns
      have rising : (next :: rest).IsChain (· ≠ ·) := List.IsChain.tail after.turns
      constructor
      · rw [← List.cons_append, List.isChain_append]
        refine ⟨earlier.turns, rising, ?_⟩
        intro final isFinal head isHead
        rw [earlier.current, Option.mem_some_iff] at isFinal
        rw [List.head?_cons, Option.mem_some_iff] at isHead
        rw [← isFinal, ← isHead]
        exact seam
      · rw [← List.cons_append, List.getLast?_append_of_ne_nil _ (List.cons_ne_nil _ _),
          ← after.current, List.getLast?_cons_cons]

/-- What only ever comes, or only ever goes, is told of a change and nothing
else. -/
theorem eq_of_steady {turn : Bool} (switches : Switches first told last)
    (steady : ∀ next ∈ told, next = turn) : told = if last = first then [] else [last] := by
  rcases switches with ⟨turns, current⟩
  match told with
  | [] =>
      have unmoved : first = last := Option.some.inj current
      rw [if_pos unmoved.symm]
  | [only] =>
      have isLast : only = last := Option.some.inj current
      have differ : first ≠ only := turns.rel
      rw [if_neg (isLast ▸ differ.symm), isLast]
  | next :: second :: _ =>
      have isNext : next = turn := steady next (by simp)
      have isSecond : second = turn := steady second (by simp)
      have differ : next ≠ second := turns.tail.rel
      exact absurd (isNext.trans isSecond.symm) differ

/-- What has not been there at first is there now if that is the last that is
told. -/
theorem eq_true_iff (switches : Switches false told last) :
    last = true ↔ told.getLast? = some true := by
  have current := switches.current
  cases told with
  | nil =>
      have absent : false = last := Option.some.inj current
      simp [← absent]
  | cons next rest =>
      rw [List.getLast?_cons_cons] at current
      rw [current, Option.some.injEq]

end Switches

namespace Event

/-- The kinds of events that are counted. -/
inductive Kind
  | connected
  | disconnected
  | messageDropped
  | roomCreated
  | roomDestroyed
  deriving DecidableEq, Repr

/-- The kind of an event. -/
def kind : Event → Kind
  | connected _ => .connected
  | disconnected _ _ => .disconnected
  | messageDropped _ => .messageDropped
  | roomCreated _ => .roomCreated
  | roomDestroyed _ => .roomDestroyed

/-- The event tells that a room has gone away. -/
def IsDestruction (event : Event) : Prop :=
  ∃ room, event = roomDestroyed room

/-- The event is about a room. -/
def IsAboutRoom (event : Event) : Prop :=
  ∃ room, event = roomCreated room ∨ event = roomDestroyed room

theorem IsDestruction.isAboutRoom {event : Event} (destroys : event.IsDestruction) :
    event.IsAboutRoom :=
  destroys.imp fun _ => .inr

/-- Whether an event tells that an identity has come (`true`) or gone (`false`). -/
def presence? (identity : Identity) : Event → Option Bool
  | connected other => if other = identity then some true else none
  | disconnected other _ => if other = identity then some false else none
  | messageDropped _ | roomCreated _ | roomDestroyed _ => none

/-- The comings and goings of an identity in a log, oldest first. -/
def presence (identity : Identity) (log : List Event) : List Bool :=
  log.filterMap (presence? identity)

/-- Whether an event tells that a room has been created (`true`) or destroyed
(`false`). -/
def existence? (room : String) : Event → Option Bool
  | roomCreated other => if other = room then some true else none
  | roomDestroyed other => if other = room then some false else none
  | connected _ | disconnected _ _ | messageDropped _ => none

/-- The creations and destructions of a room in a log, oldest first. -/
def existence (room : String) (log : List Event) : List Bool :=
  log.filterMap (existence? room)

/-- The kind of events by which a room comes (`true`) or goes (`false`). -/
def kindOfTurn : Bool → Kind
  | true => .roomCreated
  | false => .roomDestroyed

/-- The departures of an identity in a log, oldest first. -/
def departures (identity : Identity) (log : List Event) : List Departure :=
  log.filterMap fun
    | disconnected other departure => if other = identity then some departure else none
    | connected _ | messageDropped _ | roomCreated _ | roomDestroyed _ => none

/-- The event tells that an identity has been removed because its mailbox was
full. -/
def isShedding : Event → Bool
  | disconnected _ .slowConsumer => true
  | _ => false

@[simp]
theorem presence_append (identity : Identity) (first second : List Event) :
    presence identity (first ++ second) = presence identity first ++ presence identity second :=
  List.filterMap_append

theorem presence_eq_nil {identity : Identity} {events : List Event}
    (about : ∀ event ∈ events, event.IsAboutRoom) : presence identity events = [] := by
  rw [presence, List.filterMap_eq_nil_iff]
  intro event listed
  obtain ⟨room, rfl | rfl⟩ := about event listed <;> rfl

@[simp]
theorem existence_append (room : String) (first second : List Event) :
    existence room (first ++ second) = existence room first ++ existence room second :=
  List.filterMap_append

theorem kind_of_existence? {event : Event} {room : String} {turn : Bool}
    (tells : existence? room event = some turn) : event.kind = kindOfTurn turn := by
  cases event with
  | connected | disconnected | messageDropped => contradiction
  | roomCreated other | roomDestroyed other =>
      rw [existence?, Option.ite_none_right_eq_some] at tells
      rw [← Option.some.inj tells.2]
      rfl

/-- Rooms only come, or only go, by events of which none is of the other kind. -/
theorem steady_existence {events : List Event} {turn : Bool}
    (others : ∀ event ∈ events, event.kind ≠ kindOfTurn !turn) (room : String) :
    ∀ told ∈ existence room events, told = turn := by
  intro told listed
  rcases List.mem_filterMap.mp listed with ⟨event, isEvent, tells⟩
  by_contra differ
  apply others event isEvent
  rw [kind_of_existence? tells, Bool.eq_not_of_ne differ]

@[simp]
theorem departures_append (identity : Identity) (first second : List Event) :
    departures identity (first ++ second) =
      departures identity first ++ departures identity second :=
  List.filterMap_append

theorem departures_eq_nil {identity : Identity} {events : List Event}
    (about : ∀ event ∈ events, event.IsAboutRoom) : departures identity events = [] := by
  rw [departures, List.filterMap_eq_nil_iff]
  intro event listed
  obtain ⟨room, rfl | rfl⟩ := about event listed <;> rfl

theorem countP_eq_zero_of_about {test : Event → Bool} {events : List Event}
    (about : ∀ event ∈ events, event.IsAboutRoom)
    (blind : ∀ event : Event, event.IsAboutRoom → test event = false) :
    events.countP test = 0 := by
  rw [List.countP_eq_zero]
  intro event listed
  rw [blind event (about event listed)]
  exact Bool.false_ne_true

/-- Nobody comes or goes, and no frame is lost, by events about rooms. -/
theorem counts_of_about {events : List Event} (about : ∀ event ∈ events, event.IsAboutRoom) :
    (events.countP fun event => event.kind = .connected) = 0 ∧
      (events.countP fun event => event.kind = .disconnected) = 0 ∧
      (events.countP fun event => event.kind = .messageDropped) = 0 ∧
      events.countP isShedding = 0 := by
  refine ⟨?_, ?_, ?_, ?_⟩ <;>
    exact countP_eq_zero_of_about about (by rintro _ ⟨room, rfl | rfl⟩ <;> rfl)

end Event

namespace Tally

open Event

/-- The counter for a kind of events. -/
def counter (tally : Tally) : Kind → UInt64
  | .connected => tally.connects
  | .disconnected => tally.disconnects
  | .messageDropped => tally.messagesDropped
  | .roomCreated => tally.roomsCreated
  | .roomDestroyed => tally.roomsDestroyed

theorem counter_count (tally : Tally) (event : Event) (kind : Kind) :
    (tally.count event).counter kind =
      if event.kind = kind then tally.counter kind + 1 else tally.counter kind := by
  cases event <;> cases kind <;> rfl

theorem counter_foldl (log : List Event) (tally : Tally) (kind : Kind) :
    (log.foldl count tally).counter kind =
      tally.counter kind + UInt64.ofNat (log.countP fun event => event.kind = kind) := by
  induction log generalizing tally with
  | nil => simp
  | cons event rest ih =>
      rw [List.foldl_cons, ih, counter_count, List.countP_cons]
      by_cases same : event.kind = kind
      · simp only [same, if_true, decide_true, UInt64.ofNat_add, UInt64.add_assoc,
          UInt64.add_comm 1, UInt64.ofNat_one]
      · simp [same]

/-- A counter tells the number of events of its kind. -/
theorem toNat_counter_ofLog {log : List Event} (short : log.length < UInt64.size) (kind : Kind) :
    ((ofLog log).counter kind).toNat = log.countP fun event => event.kind = kind := by
  have start : (({} : Tally).counter kind) = 0 := by
    cases kind <;> rfl
  have bounded : (log.countP fun event => event.kind = kind) ≤ log.length :=
    List.countP_le_length
  rw [ofLog, counter_foldl, start, UInt64.zero_add]
  exact UInt64.toNat_ofNat_of_lt (Nat.lt_of_le_of_lt bounded short)

end Tally

end Switchboard
