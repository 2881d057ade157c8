import Mathlib.Data.List.Perm.Subperm
import Switchboard.Proofs.Exchange.Changes
import Switchboard.Proofs.Exchange.Relaying

/-!
# Whom a frame reaches

A frame of a client reaches those whom it is for, and the client itself. A
broadcast is for everybody else, a signal is for its recipient, and any other
frame is a matter between the client and the exchange. Nobody else loses a
registration, and no other mailbox changes.

Each frame puts one frame at most into a queue. If several identities shared a
connection, each of them could add one.
-/

namespace Switchboard

namespace Exchange

variable {exchange next last : Exchange} {identity recipient sender : Identity} {room : String}
  {connection : Connection} {frame : Bytes} {request : Request}
  {concerned broader : Identity → Prop} {limit wider : Connection → Nat}

/-! ## Registrations and mailboxes -/

/-- Only the registrations and the mailboxes of some identities change. -/
structure Confined (concerned : Identity → Prop) (exchange next : Exchange) : Prop where
  /-- Nobody is registered anew. -/
  registered : ∀ identity connection, next.directory.find? identity = some connection →
    exchange.directory.find? identity = some connection
  registrations : ∀ identity, ¬concerned identity →
    next.directory.find? identity = exchange.directory.find? identity
  mailboxes : ∀ connection : Connection,
    (∀ identity, concerned identity → exchange.directory.find? identity ≠ some connection) →
      next.mailboxes[connection]? = exchange.mailboxes[connection]?

namespace Confined

theorem refl (concerned : Identity → Prop) (exchange : Exchange) :
    Confined concerned exchange exchange :=
  ⟨fun _ _ found => found, fun _ _ => rfl, fun _ _ => rfl⟩

theorem of_rooms (directory : next.directory = exchange.directory)
    (mailboxes : next.mailboxes = exchange.mailboxes) : Confined concerned exchange next where
  registered identity connection found := by rwa [directory] at found
  registrations _ _ := by rw [directory]
  mailboxes _ _ := by rw [mailboxes]

theorem mono (confined : Confined concerned exchange next)
    (weaker : ∀ identity, concerned identity → broader identity) :
    Confined broader exchange next where
  registered := confined.registered
  registrations identity apart := confined.registrations identity (mt (weaker identity) apart)
  mailboxes connection apart :=
    confined.mailboxes connection fun identity isConcerned => apart identity (weaker _ isConcerned)

theorem trans (first : Confined concerned exchange next) (second : Confined concerned next last) :
    Confined concerned exchange last where
  registered identity connection found :=
    first.registered identity connection (second.registered identity connection found)
  registrations identity apart := by
    rw [second.registrations identity apart, first.registrations identity apart]
  mailboxes connection apart := by
    rw [second.mailboxes connection, first.mailboxes connection apart]
    intro identity isConcerned found
    exact apart identity isConcerned (first.registered identity connection found)

end Confined

theorem confined_depart {departure : Departure}
    (found : exchange.directory.find? identity = some connection) :
    Confined (· = identity) exchange (exchange.depart identity departure) where
  registered _ _ stays := (Step.departed found).find?_of_find? stays
  registrations _ apart := by rw [directory_depart found, Directory.find?_erase, if_neg apart]
  mailboxes other apart := by
    have away : other ≠ connection := by
      rintro rfl
      exact apart identity rfl found
    rw [getElem?_depart found, if_neg away]

theorem confined_deliver (exchange : Exchange) (recipient : Identity) (frame : Bytes) :
    Confined (· = recipient) exchange (exchange.deliver recipient frame).2 := by
  have outcome := exchange.delivery_deliver recipient frame
  generalize exchange.deliver recipient frame = result at outcome ⊢
  cases outcome with
  | stopped | unknown => exact .refl _ exchange
  | shed _ found => exact confined_depart found
  | @queued used next _ found accepted =>
      have same := (enqueue_ok_frame accepted).2.1
      refine ⟨fun _ _ stays => same ▸ stays, fun _ _ => by rw [same], fun other apart => ?_⟩
      have away : other ≠ used := by
        rintro rfl
        exact apart recipient rfl found
      rw [getElem?_enqueue accepted, if_neg away]

theorem confined_unregister (exchange : Exchange) (identity : Identity) :
    Confined (· = identity) exchange (exchange.unregister identity).2 := by
  rcases exchange.unregister_snd identity with same | ⟨connection, found, departed⟩
  · rw [same]
    exact .refl _ exchange
  · rw [departed]
    exact confined_depart found

theorem confined_disconnect (exchange : Exchange) (identity : Identity) :
    Confined (· = identity) exchange (exchange.disconnect identity).2 := by
  have removed := exchange.confined_unregister identity
  rcases exchange.disconnect_snd identity with same | left
  · rw [same]
    exact removed
  · rw [left]
    exact removed.trans (.of_rooms rfl rfl)

theorem confined_deliverEach (frame : Bytes) (recipients : List Identity) (exchange : Exchange) :
    Confined (· ∈ recipients) exchange (deliverEach frame recipients exchange).2 := by
  induction recipients generalizing exchange with
  | nil => exact .refl _ exchange
  | cons recipient rest ih =>
      rw [deliverEach_cons_snd]
      apply Confined.trans
      · apply (exchange.confined_deliver recipient frame).mono
        rintro _ rfl
        exact List.mem_cons_self
      · exact (ih _).mono fun _ listed => List.mem_cons_of_mem _ listed

/-- A request that delivers touches nobody but those whom it addresses. -/
theorem confined_serve (delivers : request.isDelivery = true) (exchange : Exchange) :
    Confined (fun identity => request.addresses identity = true) exchange
      (exchange.serve request).2 := by
  cases request with
  | register | unregister => contradiction
  | deliver recipient frame =>
      apply (exchange.confined_deliver recipient frame).mono
      rintro _ rfl
      simp [Request.addresses]
  | broadcast frame excluded =>
      change Confined _ exchange (exchange.broadcast frame excluded).2
      rw [broadcast_eq]
      split
      · apply (confined_deliverEach frame _ exchange).mono
        intro identity listed
        simpa [Request.addresses] using (mem_recipients.mp listed).1
      · exact .refl _ exchange

/-! ## Queues -/

/-- The identities that are registered with a connection. -/
def holders (exchange : Exchange) (connection : Connection) : List Identity :=
  (exchange.directory.entries.filter fun entry => entry.2 = connection).map Prod.fst

theorem mem_holders :
    identity ∈ exchange.holders connection ↔
      exchange.directory.find? identity = some connection := by
  simp [holders, Directory.mem_entries_iff]

theorem nodup_holders (exchange : Exchange) (connection : Connection) :
    (exchange.holders connection).Nodup :=
  exchange.directory.nodup_entries.sublist (List.filter_sublist.map Prod.fst)

/-- Nobody shares a connection if everybody has one of their own. -/
theorem Apart.length_holders_le_one (apart : exchange.Apart) (connection : Connection) :
    (exchange.holders connection).length ≤ 1 :=
  apart.length_le_one (exchange.nodup_holders connection) fun _ => mem_holders.mp

theorem countP_le_length_holders {recipients : List Identity} (distinct : recipients.Nodup)
    (connection : Connection) :
    (recipients.countP fun identity => exchange.directory.find? identity = some connection) ≤
      (exchange.holders connection).length := by
  rw [List.countP_eq_length_filter]
  apply List.Subperm.length_le
  apply (distinct.filter _).subperm
  intro identity listed
  exact mem_holders.mpr (by simpa using (List.mem_filter.mp listed).2)

/-- Every queue keeps what is in it, and gains no more frames than are allowed. -/
def Grows (limit : Connection → Nat) (exchange next : Exchange) : Prop :=
  ∀ connection, ∃ added, next.queuedFor connection = exchange.queuedFor connection ++ added ∧
    added.length ≤ limit connection

namespace Grows

theorem of_eq (unmoved : ∀ connection, next.queuedFor connection = exchange.queuedFor connection) :
    Grows limit exchange next :=
  fun connection => ⟨[], by rw [unmoved, List.append_nil], Nat.zero_le _⟩

theorem mono (grows : Grows limit exchange next)
    (within : ∀ connection, limit connection ≤ wider connection) : Grows wider exchange next := by
  intro connection
  rcases grows connection with ⟨added, grown, few⟩
  exact ⟨added, grown, few.trans (within connection)⟩

theorem trans (first : Grows limit exchange next) (second : Grows wider next last) :
    Grows (fun connection => limit connection + wider connection) exchange last := by
  intro connection
  rcases first connection with ⟨added, grown, few⟩
  rcases second connection with ⟨more, grownAgain, fewAgain⟩
  refine ⟨added ++ more, ?_, ?_⟩
  · rw [grownAgain, grown, List.append_assoc]
  · rw [List.length_append]
    exact Nat.add_le_add few fewAgain

end Grows

theorem grows_deliver (exchange : Exchange) (recipient : Identity) (frame : Bytes) :
    Grows (fun connection =>
        if exchange.directory.find? recipient = some connection then 1 else 0)
      exchange (exchange.deliver recipient frame).2 := by
  have outcome := exchange.delivery_deliver recipient frame
  generalize exchange.deliver recipient frame = result at outcome ⊢
  cases outcome with
  | stopped | unknown => exact .of_eq fun _ => rfl
  | @queued used _ _ found accepted =>
      intro connection
      refine ⟨_, queuedFor_enqueue accepted, ?_⟩
      by_cases same : connection = used
      · simp [found, same]
      · simp [same]
  | shed _ found => exact .of_eq fun _ => queuedFor_depart found

theorem grows_deliverEach (frame : Bytes) (recipients : List Identity) (exchange : Exchange) :
    Grows (fun connection =>
        recipients.countP fun identity => exchange.directory.find? identity = some connection)
      exchange (deliverEach frame recipients exchange).2 := by
  induction recipients generalizing exchange with
  | nil => exact .of_eq fun _ => rfl
  | cons recipient rest ih =>
      rw [deliverEach_cons_snd]
      have steps := exchange.steps_deliver recipient frame
      apply ((exchange.grows_deliver recipient frame).trans (ih _)).mono
      intro connection
      have fewer : (rest.countP fun identity =>
            (exchange.deliver recipient frame).2.directory.find? identity = some connection) ≤
          rest.countP fun identity => exchange.directory.find? identity = some connection := by
        apply List.countP_mono_left
        intro identity _ found
        simpa using steps.find?_of_find? (by simpa using found)
      rw [List.countP_cons, Nat.add_comm]
      simpa only [decide_eq_true_eq] using Nat.add_le_add_right fewer
        (if exchange.directory.find? recipient = some connection then 1 else 0)

/-- A request puts one frame at most into a queue for everybody who is registered
with it. -/
theorem grows_serve (delivers : request.isDelivery = true) (exchange : Exchange) :
    Grows (fun connection => (exchange.holders connection).length) exchange
      (exchange.serve request).2 := by
  cases request with
  | register | unregister => contradiction
  | deliver recipient frame =>
      apply (exchange.grows_deliver recipient frame).mono
      intro connection
      simpa using countP_le_length_holders (List.nodup_singleton recipient) connection
  | broadcast frame excluded =>
      change Grows _ exchange (exchange.broadcast frame excluded).2
      rw [broadcast_eq]
      split
      · apply (grows_deliverEach frame _ exchange).mono
        exact countP_le_length_holders (exchange.nodup_recipients excluded)
      · exact .of_eq fun _ => rfl

/-! ## Frames of clients -/

/-- Whom a frame of a sender may reach. -/
def concerns (exchange : Exchange) (sender : Identity) (frame : Bytes) (identity : Identity) :
    Prop :=
  match Command.read exchange.vocabulary sender frame with
  | .ok (.broadcast _) => identity ≠ sender
  | .ok (.signal signal) => identity = sender ∨ signal.recipient = some identity
  | .ok (.join _) | .ok (.leave _) | .ok (.list _) | .ok .me | .error _ => identity = sender

/-- Who is in a room after a frame of a sender, as long as nobody is evicted. -/
def expects (exchange : Exchange) (sender : Identity) (frame : Bytes) (identity : Identity)
    (room : String) : Prop :=
  match Command.read exchange.vocabulary sender frame with
  | .ok (.join joined) =>
      (room = joined ∧ identity = sender) ∨ identity ∈ exchange.rooms.peers room
  | .ok (.leave left) =>
      identity ∈ exchange.rooms.peers room ∧ ¬(room = left ∧ identity = sender)
  | .ok (.broadcast _) | .ok (.signal _) | .ok (.list _) | .ok .me | .error _ =>
      identity ∈ exchange.rooms.peers room

theorem concerns_of_routed? (routed : exchange.routed? sender frame = some request)
    (addressed : request.addresses identity = true) : exchange.concerns sender frame identity := by
  rw [routed?] at routed
  rw [concerns]
  split at routed
  · cases read : Command.read exchange.vocabulary sender frame with
    | error error => simp [read] at routed
    | ok command =>
        rw [read] at routed
        cases command with
        | broadcast payload =>
            cases routed
            rintro rfl
            simp [Request.addresses] at addressed
        | signal signal =>
            rcases Option.map_eq_some_iff.mp routed with ⟨recipient, meant, rfl⟩
            rw [Request.addresses, decide_eq_true_eq] at addressed
            exact .inr (addressed ▸ meant)
        | join | leave => contradiction
        | list | me =>
            cases routed
            exact (of_decide_eq_true addressed).symm
  · contradiction

theorem contains_of_complaint? (complained : exchange.complaint? sender frame = some request) :
    exchange.directory.contains sender = true := by
  rcases complaint?_eq_some complained with ⟨error, failed, reported, _⟩
  rw [dispatch] at failed
  split at failed
  · assumption
  · cases failed
    contradiction

theorem concerns_of_complaint? (complained : exchange.complaint? sender frame = some request) :
    exchange.concerns sender frame sender := by
  rw [concerns]
  split
  · rename_i read
    rw [complaint?_of_broadcast (contains_of_complaint? complained) read] at complained
    contradiction
  · exact .inl rfl
  all_goals rfl

theorem confined_dispatch (exchange : Exchange) (sender : Identity) (frame : Bytes) :
    Confined (exchange.concerns sender frame) exchange (exchange.dispatch sender frame).2 := by
  have outcome := exchange.dispatched_dispatch sender frame
  generalize (exchange.dispatch sender frame).2 = next at outcome ⊢
  cases outcome with
  | served routed =>
      apply (confined_serve (isDelivery_of_routed? routed) exchange).mono
      exact fun _ addressed => concerns_of_routed? routed addressed
  | joined => exact .of_rooms directory_join mailboxes_join
  | left => exact .of_rooms directory_leave mailboxes_leave
  | unchanged => exact .refl _ exchange

theorem confined_handle (exchange : Exchange) (sender : Identity) (frame : Bytes) :
    Confined (exchange.concerns sender frame) exchange (exchange.handle sender frame) := by
  have dispatched := exchange.confined_dispatch sender frame
  rw [handle_eq]
  cases complained : exchange.complaint? sender frame with
  | none => exact dispatched
  | some request =>
      have concerned := concerns_of_complaint? complained
      rcases complaint?_eq_some complained with ⟨_, _, _, rfl⟩
      apply dispatched.trans
      apply (confined_deliver _ sender _).mono
      rintro _ rfl
      exact concerned

theorem grows_dispatch (exchange : Exchange) (sender : Identity) (frame : Bytes) :
    Grows (fun connection => (exchange.holders connection).length) exchange
      (exchange.dispatch sender frame).2 := by
  have outcome := exchange.dispatched_dispatch sender frame
  generalize (exchange.dispatch sender frame).2 = next at outcome ⊢
  cases outcome with
  | served routed => exact grows_serve (isDelivery_of_routed? routed) exchange
  | joined => exact .of_eq fun _ => by rw [queuedFor, queuedFor, mailboxes_join]
  | left => exact .of_eq fun _ => by rw [queuedFor, queuedFor, mailboxes_leave]
  | unchanged => exact .of_eq fun _ => rfl

theorem Fails.queuedFor_eq {shed : Option Identity} (fails : exchange.Fails shed next)
    (connection : Connection) : next.queuedFor connection = exchange.queuedFor connection := by
  cases shed with
  | none => rw [show next = exchange from fails]
  | some identity =>
      rcases fails with ⟨used, refusal, found, rfl⟩
      exact queuedFor_depart found

/-- A complaint takes the place of what the frame should have delivered. -/
theorem grows_handle (exchange : Exchange) (sender : Identity) (frame : Bytes) :
    Grows (fun connection => (exchange.holders connection).length) exchange
      (exchange.handle sender frame) := by
  rw [handle_eq]
  cases complained : exchange.complaint? sender frame with
  | none => exact exchange.grows_dispatch sender frame
  | some request =>
      have steps := exchange.steps_dispatch sender frame
      rcases complaint?_eq_some complained with ⟨error, failed, _, rfl⟩
      -- The frame that failed is in no queue, so only the complaint counts.
      have unmoved := (fails_dispatch failed).queuedFor_eq
      intro connection
      rcases grows_deliver (exchange.dispatch sender frame).2 sender
        (Notice.error sender error.message).frame connection with ⟨added, grown, few⟩
      refine ⟨added, grown.trans (by rw [unmoved]), few.trans ?_⟩
      dsimp only
      by_cases still : (exchange.dispatch sender frame).2.directory.find? sender = some connection
      · have holds := mem_holders.mpr (steps.find?_of_find? still)
        rw [if_pos still]
        exact List.length_pos_of_mem holds
      · rw [if_neg still]
        exact Nat.zero_le _

/-! ## Memberships -/

theorem Command.ne_of_nonempty? {name : Option String} {room : String}
    (named : nonempty? name = some room) : room ≠ "" := by
  simpa using (Option.filter_eq_some_iff.mp named).2

/-- Nobody can enter or leave a room without a name. -/
theorem ne_of_read {vocabulary : Vocabulary} {command : Command}
    (read : Command.read vocabulary sender frame = .ok command)
    (named : command = .join room ∨ command = .leave room) : room ≠ "" := by
  rcases Command.read_eq_ok_iff.mp read with ⟨envelope, verb, _, _, meant⟩
  have outcome := Command.outcome_ofEnvelope verb sender envelope
  rw [meant] at outcome
  rcases named with rfl | rfl
  · cases outcome with
    | join given => exact Command.ne_of_nonempty? given
  · cases outcome with
    | leave given => exact Command.ne_of_nonempty? given

theorem mem_peers_join_iff (named : room ≠ "") {other : String} :
    identity ∈ (exchange.join room sender).2.rooms.peers other ↔
      (other = room ∧ identity = sender) ∨ identity ∈ exchange.rooms.peers other := by
  rw [join]
  split
  · rename_i refused
    exact absurd (Rooms.join_eq_error_iff.mp refused).1 named
  · rename_i joined
    exact Rooms.mem_peers_join joined

theorem mem_peers_leave_iff (sound : exchange.rooms.Sound) {other : String} :
    identity ∈ (exchange.leave room sender).2.rooms.peers other ↔
      identity ∈ exchange.rooms.peers other ∧ ¬(other = room ∧ identity = sender) := by
  rw [leave]
  split
  · rename_i refused
    have vacant := sound.peers_of_leave_eq_error refused
    by_cases here : other = room
    · subst here
      simp [vacant]
    · simp [here]
  · rename_i left
    exact Rooms.mem_peers_leave left

/-- Only joining and leaving are more than deliveries. -/
theorem changes_carryOut {command : Command} (exchange : Exchange) (sender : Identity)
    (notJoin : ∀ room, command ≠ .join room) (notLeave : ∀ room, command ≠ .leave room) :
    Changes exchange (exchange.carryOut sender command).2 := by
  cases command with
  | broadcast payload =>
      have served : Changes exchange (exchange.serve
          (.broadcast (exchange.broadcastNotice sender payload).frame (some sender))).2 :=
        changes_serve rfl exchange
      exact served
  | signal signal =>
      rw [carryOut, Signal.forward]
      cases signal.recipient with
      | none => exact .refl
      | some recipient => exact exchange.changes_deliver recipient _
  | list | me => exact exchange.changes_deliver sender _
  | join room => exact absurd rfl (notJoin room)
  | leave room => exact absurd rfl (notLeave room)

theorem mem_peers_dispatch (sound : exchange.rooms.Sound)
    (registered : exchange.directory.contains sender = true) :
    identity ∈ (exchange.dispatch sender frame).2.rooms.peers room ↔
      exchange.expects sender frame identity room ∧
        ¬exchange.Evicts (exchange.dispatch sender frame).2 identity := by
  rw [expects]
  cases read : Command.read exchange.vocabulary sender frame with
  | error error =>
      have unmoved : (exchange.dispatch sender frame).2 = exchange := by
        rw [dispatch, if_pos registered, read]
      rw [unmoved]
      simp [not_evicts_of_directory]
  | ok command =>
      have carried := dispatch_of_read registered read
      cases command with
      | join joined =>
          have moved : (exchange.dispatch sender frame).2 = (exchange.join joined sender).2 :=
            congrArg Prod.snd carried
          rw [moved, mem_peers_join_iff (ne_of_read read (.inl rfl)),
            and_iff_left (not_evicts_of_directory directory_join)]
      | leave left =>
          have moved : (exchange.dispatch sender frame).2 = (exchange.leave left sender).2 :=
            congrArg Prod.snd carried
          rw [moved, mem_peers_leave_iff sound,
            and_iff_left (not_evicts_of_directory directory_leave)]
      | broadcast | signal | list | me =>
          have changes : Changes exchange (exchange.dispatch sender frame).2 := by
            rw [carried]
            apply changes_carryOut
            all_goals simp
          exact changes.mem_peers sound

theorem mem_peers_handle (sound : exchange.rooms.Sound)
    (registered : exchange.directory.contains sender = true) :
    identity ∈ (exchange.handle sender frame).rooms.peers room ↔
      exchange.expects sender frame identity room ∧
        ¬exchange.Evicts (exchange.handle sender frame) identity := by
  have dispatched := @mem_peers_dispatch exchange identity sender room frame sound registered
  rw [handle_eq]
  cases complained : exchange.complaint? sender frame with
  | none => exact dispatched
  | some request =>
      have steps := exchange.steps_dispatch sender frame
      rcases complaint?_eq_some complained with ⟨error, _, _, rfl⟩
      have told := (exchange.dispatch sender frame).2.changes_deliver sender
        (Notice.error sender error.message).frame
      dsimp only [serve]
      rw [told.mem_peers (steps.sound sound), dispatched, evicts_trans_iff steps told.steps,
        and_assoc, ← not_or]

/-! ## Runs -/

/-- Whatever has happened before, a frame of a registered sender puts one frame
at most into a queue for everybody who is registered with it, and concerns
nobody but those whom it is for. A broadcast leaves its sender alone, even where
there is no room. Memberships change as the frame asks, and else they end with
evictions, all of an identity at once. -/
theorem handle_reaches_only {vocabulary : Vocabulary} {queueCapacity : Nat}
    {arrangement : Arrangement} {operations : List Operation} {sender : Identity}
    (registered :
      ((start vocabulary queueCapacity arrangement).run operations).directory.contains sender =
        true)
    (frame : Bytes) :
    let exchange := (start vocabulary queueCapacity arrangement).run operations
    let next := exchange.handle sender frame
    (∀ connection, ∃ added, next.queuedFor connection = exchange.queuedFor connection ++ added ∧
      added.length ≤ (exchange.holders connection).length ∧
        (exchange.Apart → added.length ≤ 1)) ∧
    Confined (exchange.concerns sender frame) exchange next ∧
    (∀ payload, Command.read exchange.vocabulary sender frame = .ok (.broadcast payload) →
      next.directory.find? sender = exchange.directory.find? sender ∧
        (exchange.Apart → next.mailboxOf? sender = exchange.mailboxOf? sender)) ∧
    ∀ identity room, identity ∈ next.rooms.peers room ↔
      exchange.expects sender frame identity room ∧ ¬exchange.Evicts next identity := by
  intro exchange next
  have confined : Confined (exchange.concerns sender frame) exchange next :=
    exchange.confined_handle sender frame
  refine ⟨?_, confined, ?_, ?_⟩
  · intro connection
    rcases exchange.grows_handle sender frame connection with ⟨added, grown, few⟩
    exact ⟨added, grown, few, fun apart => few.trans (apart.length_holders_le_one connection)⟩
  · intro payload read
    have unconcerned : ¬exchange.concerns sender frame sender := by
      simp [concerns, read]
    have unmoved := confined.registrations sender unconcerned
    refine ⟨unmoved, fun apart => ?_⟩
    rw [mailboxOf?, mailboxOf?, unmoved]
    cases found : exchange.directory.find? sender with
    | none => rfl
    | some connection =>
        apply confined.mailboxes connection
        intro identity isConcerned other
        exact unconcerned (apart _ _ _ other found ▸ isConcerned)
  · intro identity room
    exact mem_peers_handle (sound_run vocabulary queueCapacity arrangement operations) registered

/-- A broadcast of Bob evicts Alice, who leaves the hall, and nothing about Bob
changes. -/
theorem handle_reaches_only_fullHall :
    let exchange := (start .standard 256).run fullHall
    let broadcast := Text.utf8 "[\"broadcast\",null,null,2]"
    let next := exchange.handle ⟨"bob"⟩ broadcast
    exchange.directory.contains ⟨"bob"⟩ = true ∧ exchange.Apart ∧
      Command.read exchange.vocabulary ⟨"bob"⟩ broadcast = .ok (.broadcast ⟨"2"⟩) ∧
      next.mailboxOf? ⟨"bob"⟩ = exchange.mailboxOf? ⟨"bob"⟩ ∧
      ⟨"alice"⟩ ∈ exchange.rooms.peers "hall" ∧ exchange.Evicts next ⟨"alice"⟩ ∧
      ∀ room, ⟨"alice"⟩ ∉ next.rooms.peers room := by
  have read : Command.read .standard ⟨"bob"⟩ (Text.utf8 "[\"broadcast\",null,null,2]") =
      .ok (.broadcast ⟨"2"⟩) := by
    decide +kernel
  intro exchange broadcast next
  have registered : exchange.directory.contains ⟨"bob"⟩ = true := by decide +kernel
  have equipped : exchange.Equipped :=
    equipped_of_entries (by decide +kernel) (by decide +kernel)
  have isMember : ⟨"alice"⟩ ∈ exchange.rooms.peers "hall" := by decide +kernel
  have evicted : exchange.Evicts next ⟨"alice"⟩ := by decide +kernel
  rcases handle_reaches_only registered broadcast with ⟨_, _, spared, memberships⟩
  refine ⟨registered, equipped.apart, read, (spared _ read).2 equipped.apart, isMember, evicted, ?_⟩
  intro room stays
  exact ((memberships _ _).mp stays).2 evicted

/-- Where Alice and Bob share a connection, a broadcast of Carol puts two frames
into their queue, and a broadcast of Alice puts one there for Bob. -/
theorem handle_reaches_twice :
    let exchange := (start .standard 256).run sharedLine
    let broadcast := Text.utf8 "[\"broadcast\",null,null,2]"
    exchange.running = true ∧ exchange.directory.contains ⟨"alice"⟩ = true ∧
      exchange.directory.contains ⟨"carol"⟩ = true ∧ exchange.queuedFor 0 = [] ∧
      ((exchange.handle ⟨"carol"⟩ broadcast).queuedFor 0).length = 2 ∧
      Command.read exchange.vocabulary ⟨"alice"⟩ broadcast = .ok (.broadcast ⟨"2"⟩) ∧
      (exchange.handle ⟨"alice"⟩ broadcast).mailboxOf? ⟨"alice"⟩ ≠
        exchange.mailboxOf? ⟨"alice"⟩ := by
  have read : Command.read .standard ⟨"alice"⟩ (Text.utf8 "[\"broadcast\",null,null,2]") =
      .ok (.broadcast ⟨"2"⟩) := by
    decide +kernel
  intro exchange broadcast
  have twice : ((exchange.handle ⟨"carol"⟩ broadcast).queuedFor 0).length = 2 := by
    decide +kernel
  have grown : (exchange.handle ⟨"alice"⟩ broadcast).mailboxOf? ⟨"alice"⟩ ≠
      exchange.mailboxOf? ⟨"alice"⟩ := by
    decide +kernel
  exact ⟨by decide +kernel, by decide +kernel, by decide +kernel, by decide +kernel, twice, read,
    grown⟩

end Exchange

end Switchboard
