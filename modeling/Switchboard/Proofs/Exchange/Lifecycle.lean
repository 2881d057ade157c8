import Mathlib.Data.List.Chain
import Switchboard.Proofs.Exchange.Step

/-!
# The life of a connection in the log

The log grows in episodes. Either it is about rooms and the directory stays
as it is, or an identity arrives, or an identity departs, with a warning
before and the destruction of its rooms in between. Everything the log tells
about connections is read off this shape.
-/

namespace Switchboard

open Event

/-- What is logged at once, with what it does to the directory. -/
inductive Episode (directory : Directory Connection) : Directory Connection → List Event → Prop
  | rooms {events : List Event} (about : ∀ event ∈ events, event.IsAboutRoom) :
      Episode directory directory events
  | arrival {identity : Identity} {connection : Connection} {next : Directory Connection}
      (added : directory.add identity connection = .ok next) :
      Episode directory next [.connected identity]
  | departure {identity : Identity} {connection : Connection} {departure : Departure}
      {destroyed : List Event} (found : directory.find? identity = some connection)
      (destroys : ∀ event ∈ destroyed, event.IsDestruction) :
      Episode directory (directory.erase identity)
        (departure.warnings identity ++ destroyed ++ [.disconnected identity departure])

/-- A log of episodes, and the directory that they lead to. -/
inductive Chronicle : Directory Connection → List Event → Prop
  | start : Chronicle .empty []
  | extend {directory next : Directory Connection} {log events : List Event}
      (earlier : Chronicle directory log) (episode : Episode directory next events) :
      Chronicle next (log ++ events)

/-- Comings and goings take turns, and a coming is the first. -/
def TakesTurns (presence : List Bool) : Prop :=
  (false :: presence).IsChain (· ≠ ·)

namespace Episode

variable {directory next : Directory Connection} {events : List Event} {identity : Identity}

theorem presence_departure {other : Identity} {departure : Departure} {destroyed : List Event}
    (destroys : ∀ event ∈ destroyed, event.IsDestruction) :
    presence identity
        (departure.warnings other ++ destroyed ++ [.disconnected other departure]) =
      if other = identity then [false] else [] := by
  have warned : presence identity (departure.warnings other) = [] := by
    cases departure <;> rfl
  have silent : presence identity destroyed = [] :=
    presence_eq_nil fun event listed => (destroys event listed).isAboutRoom
  rw [presence_append, presence_append, warned, silent]
  by_cases same : other = identity <;> simp [presence, presence?, same]

/-- An episode tells of an identity that it comes or goes exactly if its
registration changes. -/
theorem presence_eq (episode : Episode directory next events) :
    presence identity events =
      if next.contains identity = directory.contains identity then []
      else [next.contains identity] := by
  cases episode with
  | rooms about => rw [presence_eq_nil about, if_pos rfl]
  | @arrival other connection _ added =>
      have free : directory.contains other = false :=
        Directory.contains_eq_false_iff.mpr (Directory.add_eq_ok_iff.mp added).2.1
      rw [Directory.contains_add added]
      by_cases same : other = identity
      · subst same
        simp [presence, presence?, free]
      · simp [presence, presence?, same, Ne.symm same]
  | @departure other connection _ _ found destroys =>
      have known : directory.contains other = true := Directory.contains_of_find? found
      rw [presence_departure destroys, Directory.contains_erase]
      by_cases same : other = identity
      · subst same
        simp [known]
      · simp [same, Ne.symm same]

/-- An episode counts as many arrivals and departures as the directory grows
and shrinks. -/
theorem balance (episode : Episode directory next events) :
    (events.countP fun event => event.kind = .connected) + directory.size =
      (events.countP fun event => event.kind = .disconnected) + next.size := by
  cases episode with
  | rooms about =>
      obtain ⟨noneCome, noneGone, _, _⟩ := counts_of_about about
      rw [noneCome, noneGone]
  | arrival added =>
      rw [Directory.size_add added]
      simp [kind]
      omega
  | @departure other connection departure destroyed found destroys =>
      obtain ⟨noneCome, noneGone, _, _⟩ :=
        counts_of_about fun event listed => (destroys event listed).isAboutRoom
      have shrunk := Directory.size_erase_add_one found
      rw [List.countP_append, List.countP_append, List.countP_append, List.countP_append,
        noneCome, noneGone]
      cases departure <;> simp [kind, Departure.warnings] <;> omega

/-- An episode counts a lost frame exactly if it counts a shedding. -/
theorem lost_frames (episode : Episode directory next events) :
    (events.countP fun event => event.kind = .messageDropped) = events.countP isShedding := by
  cases episode with
  | rooms about =>
      obtain ⟨_, _, noneLost, noneShed⟩ := counts_of_about about
      rw [noneLost, noneShed]
  | arrival => rfl
  | @departure other connection departure destroyed found destroys =>
      obtain ⟨_, _, noneLost, noneShed⟩ :=
        counts_of_about fun event listed => (destroys event listed).isAboutRoom
      rw [List.countP_append, List.countP_append, List.countP_append, List.countP_append,
        noneLost, noneShed]
      cases departure <;> rfl

end Episode

namespace Chronicle

variable {directory : Directory Connection} {log : List Event}

theorem switches (chronicle : Chronicle directory log) (identity : Identity) :
    Switches false (presence identity log) (directory.contains identity) := by
  induction chronicle with
  | start => simpa [presence, Directory.contains_eq_isSome_find?] using Switches.refl false
  | @extend directory next log events earlier episode ih =>
      rw [presence_append, episode.presence_eq]
      exact ih.trans (.of_change _ _)

/-- The last that is told of an identity is whether it is registered now. -/
theorem takesTurns (chronicle : Chronicle directory log) (identity : Identity) :
    TakesTurns (presence identity log) ∧
      (false :: presence identity log).getLast? = some (directory.contains identity) :=
  ⟨(chronicle.switches identity).turns, (chronicle.switches identity).current⟩

/-! ## Lost frames -/

/-- Where an element of a concatenation stands. -/
theorem split_append {α : Type} {first second before after : List α} {element : α}
    (split : first ++ second = before ++ element :: after) :
    (∃ rest, first = before ++ element :: rest ∧ after = rest ++ second) ∨
      ∃ between, before = first ++ between ∧ second = between ++ element :: after := by
  rcases List.append_eq_append_iff.mp split with ⟨between, front, back⟩ | ⟨rest, front, back⟩
  · exact .inr ⟨between, front, back⟩
  · cases rest with
    | nil => exact .inr ⟨[], by simpa using front.symm, by simpa using back.symm⟩
    | cons event rest =>
        rw [List.cons_append, List.cons.injEq] at back
        exact .inl ⟨rest, by rw [front, back.1], back.2⟩

/-- A lost frame is logged only with the departure that it causes. -/
theorem messageDropped_in_episode {next : Directory Connection} {events before after : List Event}
    {identity : Identity} (episode : Episode directory next events)
    (split : events = before ++ .messageDropped identity :: after) :
    ∃ destroyed, (∀ event ∈ destroyed, event.IsDestruction) ∧
      after = destroyed ++ [.disconnected identity .slowConsumer] := by
  have listed : Event.messageDropped identity ∈ events := by
    rw [split]
    simp
  cases episode with
  | rooms about =>
      obtain ⟨room, same | same⟩ := about _ listed <;> contradiction
  | arrival => simp at listed
  | @departure other connection departure destroyed found destroys =>
      have unlisted : Event.messageDropped identity ∉
          destroyed ++ [.disconnected other departure] := by
        intro among
        rcases List.mem_append.mp among with early | last
        · obtain ⟨room, same⟩ := destroys _ early
          contradiction
        · simp at last
      rw [List.append_assoc] at listed split
      cases departure with
      | requested | writerClosed => exact absurd listed unlisted
      | slowConsumer =>
          rw [Departure.warnings, List.singleton_append] at split
          cases before with
          | nil =>
              rw [List.nil_append, List.cons.injEq, Event.messageDropped.injEq] at split
              rcases split with ⟨rfl, rfl⟩
              exact ⟨destroyed, destroys, rfl⟩
          | cons event before =>
              rw [List.cons_append, List.cons.injEq] at split
              rw [split.2] at unlisted
              simp at unlisted

theorem followed_of_messageDropped (chronicle : Chronicle directory log) {identity : Identity}
    {before after : List Event} (split : log = before ++ .messageDropped identity :: after) :
    ∃ destroyed rest, (∀ event ∈ destroyed, event.IsDestruction) ∧
      after = destroyed ++ .disconnected identity .slowConsumer :: rest := by
  induction chronicle generalizing before after with
  | start => simp at split
  | extend earlier episode ih =>
      rcases split_append split with ⟨rest, inside, rfl⟩ | ⟨between, rfl, inside⟩
      · obtain ⟨destroyed, later, destroys, rfl⟩ := ih inside
        exact ⟨destroyed, later ++ _, destroys, by rw [List.append_assoc, List.cons_append]⟩
      · obtain ⟨destroyed, destroys, rfl⟩ := messageDropped_in_episode episode inside
        exact ⟨destroyed, [], destroys, rfl⟩

/-- A shedding is logged only with the lost frame that caused it. -/
theorem shedding_in_episode {next : Directory Connection} {events before after : List Event}
    {identity : Identity} (episode : Episode directory next events)
    (split : events = before ++ .disconnected identity .slowConsumer :: after) :
    ∃ destroyed, (∀ event ∈ destroyed, event.IsDestruction) ∧
      before = .messageDropped identity :: destroyed := by
  have listed : Event.disconnected identity .slowConsumer ∈ events := by
    rw [split]
    simp
  cases episode with
  | rooms about =>
      obtain ⟨room, same | same⟩ := about _ listed <;> contradiction
  | arrival => simp at listed
  | @departure other connection departure destroyed found destroys =>
      rcases split_append split with ⟨rest, inside, _⟩ | ⟨between, rfl, inside⟩
      · have among : Event.disconnected identity .slowConsumer ∈
            departure.warnings other ++ destroyed := by
          rw [inside]
          simp
        rcases List.mem_append.mp among with warned | early
        · cases departure <;> simp [Departure.warnings] at warned
        · obtain ⟨room, same⟩ := destroys _ early
          contradiction
      · rw [eq_comm, List.append_eq_singleton_iff] at inside
        simp only [List.cons_ne_nil, and_false, or_false, List.cons.injEq,
          Event.disconnected.injEq] at inside
        rcases inside with ⟨rfl, ⟨rfl, rfl⟩, _⟩
        exact ⟨destroyed, destroys, by simp [Departure.warnings]⟩

theorem preceded_of_shedding (chronicle : Chronicle directory log) {identity : Identity}
    {before after : List Event}
    (split : log = before ++ .disconnected identity .slowConsumer :: after) :
    ∃ rest destroyed, (∀ event ∈ destroyed, event.IsDestruction) ∧
      before = rest ++ .messageDropped identity :: destroyed := by
  induction chronicle generalizing before after with
  | start => simp at split
  | extend earlier episode ih =>
      rcases split_append split with ⟨rest, inside, rfl⟩ | ⟨between, rfl, inside⟩
      · exact ih inside
      · obtain ⟨destroyed, destroys, rfl⟩ := shedding_in_episode episode inside
        exact ⟨_, destroyed, destroys, rfl⟩

/-! ## Counts -/

/-- As many have come as have gone or are still there. -/
theorem balance (chronicle : Chronicle directory log) :
    (log.countP fun event => event.kind = .connected) =
      (log.countP fun event => event.kind = .disconnected) + directory.size := by
  induction chronicle with
  | start => rfl
  | extend earlier episode ih =>
      have balanced := episode.balance
      rw [List.countP_append, List.countP_append, ih]
      omega

/-- A frame is lost for every shedding. -/
theorem lost_frames (chronicle : Chronicle directory log) :
    (log.countP fun event => event.kind = .messageDropped) = log.countP isShedding := by
  induction chronicle with
  | start => rfl
  | extend earlier episode ih =>
      rw [List.countP_append, List.countP_append, ih, episode.lost_frames]

end Chronicle

/-! ## Runs -/

namespace Exchange

variable {exchange next : Exchange} {room : String} {identity : Identity}

/-- From one state to the next the log grows by one episode. -/
def Extends (exchange next : Exchange) : Prop :=
  ∃ events, Episode exchange.directory next.directory events ∧
    next.log.toList = exchange.log.toList ++ events

theorem extends_of_rooms (directory : next.directory = exchange.directory)
    (log : ∃ events, (∀ event ∈ events, event.IsAboutRoom) ∧
      next.log.toList = exchange.log.toList ++ events) : Extends exchange next := by
  rcases log with ⟨events, about, log⟩
  have episode : Episode exchange.directory next.directory events := by
    rw [directory]
    exact .rooms about
  exact ⟨events, episode, log⟩

theorem Step.extends (step : exchange.Step next) : Extends exchange next := by
  cases step with
  | opened | altered | stopped =>
      exact extends_of_rooms rfl ⟨[], by simp, (List.append_nil _).symm⟩
  | departed found =>
      constructor
      rw [directory_depart found]
      exact ⟨.departure found Rooms.isDestruction_of_mem_leaveAll, log_depart found⟩
  | joined => exact extends_of_rooms directory_join log_join
  | left => exact extends_of_rooms directory_leave log_leave
  | leftAll => exact extends_of_rooms rfl log_leaveAll

/-- The log of an exchange leads to its directory. -/
def Chronicled (exchange : Exchange) : Prop :=
  Chronicle exchange.directory exchange.log.toList

theorem Chronicled.extend (chronicled : exchange.Chronicled) (extended : Extends exchange next) :
    next.Chronicled := by
  rcases extended with ⟨events, episode, log⟩
  rw [Chronicled, log]
  exact .extend chronicled episode

theorem Chronicled.perform (chronicled : exchange.Chronicled) (operation : Operation) :
    (exchange.perform operation).2.Chronicled := by
  have performed := exchange.performed_perform operation
  generalize (exchange.perform operation).2 = next at performed ⊢
  cases performed with
  | joined => exact chronicled.extend (extends_of_rooms directory_join log_join)
  | arrived added => exact chronicled.extend ⟨_, .arrival added, log_record _⟩
  | stepped steps =>
      exact steps.preserve (fun _ _ holds step => holds.extend step.extends) chronicled

theorem chronicled_run (vocabulary : Vocabulary) (queueCapacity : Nat) (arrangement : Arrangement)
    (operations : List Operation) :
    ((start vocabulary queueCapacity arrangement).run operations).Chronicled :=
  run_preserve (fun operation _ _ holds => holds.perform operation) Chronicle.start

/-- Whatever happens, the comings and goings of every identity take turns and
end with its registration, and frames are lost exactly with the sheddings that
they cause. So the counters account for everybody who has come. -/
theorem lifecycle_of_connections (vocabulary : Vocabulary) (queueCapacity : Nat)
    (arrangement : Arrangement) (operations : List Operation) :
    let exchange := (start vocabulary queueCapacity arrangement).run operations
    let log := exchange.log.toList
    (∀ identity, TakesTurns (presence identity log) ∧
      (exchange.directory.contains identity = true ↔
        (presence identity log).getLast? = some true)) ∧
    (∀ identity before after, log = before ++ .messageDropped identity :: after →
      ∃ destroyed rest, (∀ event ∈ destroyed, event.IsDestruction) ∧
        after = destroyed ++ .disconnected identity .slowConsumer :: rest) ∧
    (∀ identity before after, log = before ++ .disconnected identity .slowConsumer :: after →
      ∃ rest destroyed, (∀ event ∈ destroyed, event.IsDestruction) ∧
        before = rest ++ .messageDropped identity :: destroyed) ∧
    (log.length < UInt64.size →
      exchange.tally.connects.toNat =
        exchange.tally.disconnects.toNat + exchange.directory.size ∧
      exchange.tally.messagesDropped.toNat = log.countP isShedding) := by
  intro exchange log
  have chronicle : Chronicle exchange.directory log :=
    chronicled_run vocabulary queueCapacity arrangement operations
  refine ⟨?_, ?_, ?_, ?_⟩
  · intro identity
    obtain ⟨turns, current⟩ := chronicle.takesTurns identity
    apply And.intro turns
    cases told : presence identity log with
    | nil =>
        rw [told, List.getLast?_singleton, Option.some.injEq] at current
        rw [← current, List.getLast?_nil]
        simp
    | cons first rest =>
        rw [told, List.getLast?_cons_cons] at current
        rw [current, Option.some.injEq]
  · intro identity before after split
    exact chronicle.followed_of_messageDropped split
  · intro identity before after split
    exact chronicle.preceded_of_shedding split
  · intro short
    have counted := fun kind => Tally.toNat_counter_ofLog short kind
    constructor
    · calc
        exchange.tally.connects.toNat = log.countP fun event => event.kind = .connected :=
          counted .connected
        _ = (log.countP fun event => event.kind = .disconnected) + exchange.directory.size :=
          chronicle.balance
        _ = exchange.tally.disconnects.toNat + exchange.directory.size :=
          congrArg (· + exchange.directory.size) (counted .disconnected).symm
    · exact (counted .messageDropped).trans chronicle.lost_frames

theorem lifecycle_of_connections_slowReader :
    let exchange := (start .standard 256).run slowReader
    let log := exchange.log.toList
    let before : List Event :=
      [.connected ⟨"alice"⟩, .connected ⟨"bob"⟩, .roomCreated "hall", .roomCreated "lobby"]
    let dropped := Event.messageDropped ⟨"alice"⟩
    let between : List Event := [.roomDestroyed "hall"]
    let shed := Event.disconnected ⟨"alice"⟩ .slowConsumer
    (log = before ++ dropped :: (between ++ [shed]) ∧
      ∃ destroyed rest, (∀ event ∈ destroyed, event.IsDestruction) ∧
        between ++ [shed] = destroyed ++ shed :: rest) ∧
    (log = (before ++ dropped :: between) ++ [shed] ∧
      ∃ rest destroyed, (∀ event ∈ destroyed, event.IsDestruction) ∧
        before ++ dropped :: between = rest ++ dropped :: destroyed) ∧
    log.length < UInt64.size ∧
      exchange.tally.connects.toNat =
        exchange.tally.disconnects.toNat + exchange.directory.size ∧
      exchange.tally.messagesDropped.toNat = log.countP isShedding := by
  intro exchange log before dropped between shed
  have told : log = before ++ dropped :: (between ++ [shed]) := by
    decide +kernel
  have retold : log = (before ++ dropped :: between) ++ [shed] := told
  have short : log.length < UInt64.size := by
    rw [told]
    decide
  obtain ⟨_, followed, preceded, counted⟩ :=
    lifecycle_of_connections .standard 256 .byName slowReader
  exact ⟨⟨told, followed _ _ _ told⟩, ⟨retold, preceded _ _ _ retold⟩, short, counted short⟩

end Exchange

end Switchboard
