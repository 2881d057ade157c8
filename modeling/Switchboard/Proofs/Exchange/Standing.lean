import Mathlib.Data.List.Nodup
import Switchboard.Proofs.Exchange.Ownership

/-!
# The standing of an identity

What an identity has to do with the exchange is its standing: the mailbox with
which it is registered, and its departures on record. A request that delivers
frames shows in the standing of an identity only if it addresses that identity,
and then it is nothing but a frame offered to its mailbox.

This needs mailboxes of one's own. If two identities shared one, a departure
of the first would close the mailbox of the second.
-/

namespace Switchboard

/-- What one identity has to do with an exchange. -/
structure Standing where
  /-- The mailbox with which the identity is registered. -/
  mailbox : Option Mailbox
  /-- Why it has departed so far, the first time first. -/
  departures : List Departure

namespace Standing

/-- The standing after a departure. Nobody departs who is not registered. -/
def departed (standing : Standing) (departure : Departure) : Standing :=
  match standing.mailbox with
  | none => standing
  | some _ => { mailbox := none, departures := standing.departures ++ [departure] }

/-- The standing after a frame has been offered to the mailbox. -/
def offered (standing : Standing) (frame : Bytes) : Standing :=
  match standing.mailbox with
  | none => standing
  | some mailbox =>
      match mailbox.enqueue frame with
      | .ok filled => { standing with mailbox := some filled }
      | .error refusal => standing.departed refusal.departure

end Standing

namespace Exchange

variable {exchange next : Exchange} {room : String} {identity other recipient : Identity}
  {connection : Connection} {frame : Bytes} {departure : Departure}

/-- The mailbox with which an identity is registered. -/
def mailboxOf? (exchange : Exchange) (identity : Identity) : Option Mailbox :=
  (exchange.directory.find? identity).bind fun connection => exchange.mailboxes[connection]?

/-- What an identity has to do with an exchange. -/
def standing (exchange : Exchange) (identity : Identity) : Standing where
  mailbox := exchange.mailboxOf? identity
  departures := Event.departures identity exchange.log.toList

/-- Everybody is registered with an open connection of their own. -/
structure Equipped (exchange : Exchange) : Prop where
  apart : exchange.Apart
  opened : ∀ identity connection, exchange.directory.find? identity = some connection →
    connection < exchange.mailboxes.size

theorem equipped_of_entries
    (distinct : (exchange.directory.entries.map Prod.snd).Nodup)
    (opened : ∀ entry ∈ exchange.directory.entries, entry.2 < exchange.mailboxes.size) :
    exchange.Equipped where
  apart _ _ _ isFirst isSecond :=
    congrArg Prod.fst (List.inj_on_of_nodup_map distinct (Directory.mem_entries_iff.mpr isFirst)
      (Directory.mem_entries_iff.mpr isSecond) rfl)
  opened _ _ found := opened _ (Directory.mem_entries_iff.mpr found)

theorem Step.size_mailboxes_le (step : exchange.Step next) :
    exchange.mailboxes.size ≤ next.mailboxes.size := by
  cases step with
  | opened => exact Array.size_push _ ▸ Nat.le_succ _
  | altered => exact Nat.le_of_eq Array.size_setIfInBounds.symm
  | departed found => exact Nat.le_of_eq (by rw [mailboxes_depart found, Array.size_modify])
  | joined => exact Nat.le_of_eq (by rw [mailboxes_join])
  | left => exact Nat.le_of_eq (by rw [mailboxes_leave])
  | leftAll | stopped => exact Nat.le_refl _

theorem Equipped.steps (equipped : exchange.Equipped) (steps : Steps exchange next) :
    next.Equipped := by
  constructor
  · exact equipped.apart.steps steps
  · intro identity connection found
    have inside := equipped.opened identity connection (steps.find?_of_find? found)
    exact steps.preserve
      (fun _ _ inside step => Nat.lt_of_lt_of_le inside step.size_mailboxes_le) inside

theorem Equipped.mailboxOf?_eq (equipped : exchange.Equipped)
    (found : exchange.directory.find? identity = some connection) :
    ∃ mailbox, exchange.mailboxes[connection]? = some mailbox ∧
      exchange.mailboxOf? identity = some mailbox := by
  have inside := equipped.opened identity connection found
  have present := Array.getElem?_eq_getElem inside
  have registered : exchange.mailboxOf? identity = some exchange.mailboxes[connection] := by
    rw [mailboxOf?, found, Option.bind_some, present]
  exact ⟨exchange.mailboxes[connection], present, registered⟩

theorem contains_of_mailboxOf? (registered : (exchange.mailboxOf? identity).isSome = true) :
    exchange.directory.contains identity = true := by
  obtain ⟨mailbox, registered⟩ := Option.isSome_iff_exists.mp registered
  obtain ⟨connection, found, _⟩ := Option.bind_eq_some_iff.mp registered
  exact Directory.contains_of_find? found

/-- Whatever is done to the connection of one identity leaves the mailboxes of
all others in place. -/
theorem mailboxOf?_of_ne (apart : exchange.Apart)
    (found : exchange.directory.find? other = some connection) (differ : other ≠ identity)
    (directory : next.directory.find? identity = exchange.directory.find? identity)
    (mailboxes : ∀ used ≠ connection, next.mailboxes[used]? = exchange.mailboxes[used]?) :
    next.mailboxOf? identity = exchange.mailboxOf? identity := by
  rw [mailboxOf?, mailboxOf?, directory]
  cases known : exchange.directory.find? identity with
  | none => rfl
  | some used =>
      have away : used ≠ connection := by
        rintro rfl
        exact differ (apart _ _ _ found known)
      rw [Option.bind_some, Option.bind_some, mailboxes used away]

/-! ## Rooms -/

theorem standing_eq (directory : next.directory = exchange.directory)
    (mailboxes : next.mailboxes = exchange.mailboxes)
    (silent : ∃ events, (∀ event ∈ events, event.IsAboutRoom) ∧
      next.log.toList = exchange.log.toList ++ events) :
    next.standing identity = exchange.standing identity := by
  rcases silent with ⟨events, about, log⟩
  rw [standing, standing, mailboxOf?, mailboxOf?, directory, mailboxes, log,
    Event.departures_append, Event.departures_eq_nil about, List.append_nil]

theorem standing_join :
    (exchange.join room other).2.standing identity = exchange.standing identity :=
  standing_eq directory_join mailboxes_join log_join

theorem standing_leave :
    (exchange.leave room other).2.standing identity = exchange.standing identity :=
  standing_eq directory_leave mailboxes_leave log_leave

theorem standing_leaveAll :
    (exchange.leaveAll other).standing identity = exchange.standing identity :=
  standing_eq rfl rfl log_leaveAll

/-! ## Departures -/

theorem departures_depart (found : exchange.directory.find? other = some connection) :
    Event.departures identity (exchange.depart other departure).log.toList =
      Event.departures identity exchange.log.toList ++
        if other = identity then [departure] else [] := by
  have warned : Event.departures identity (departure.warnings other) = [] := by
    cases departure <;> rfl
  have destroyed : Event.departures identity (exchange.rooms.leaveAll other).2 = [] :=
    Event.departures_eq_nil fun event listed =>
      (Rooms.isDestruction_of_mem_leaveAll event listed).isAboutRoom
  rw [log_depart found, Event.departures_append, Event.departures_append,
    Event.departures_append, warned, destroyed]
  by_cases same : other = identity <;> simp [Event.departures, same]

theorem standing_depart (equipped : exchange.Equipped)
    (found : exchange.directory.find? other = some connection) :
    (exchange.depart other departure).standing identity =
      if other = identity then (exchange.standing identity).departed departure
      else exchange.standing identity := by
  rw [standing, departures_depart found]
  by_cases same : other = identity
  · subst same
    obtain ⟨mailbox, _, registered⟩ := equipped.mailboxOf?_eq found
    rw [mailboxOf?, directory_depart found, Directory.find?_erase]
    simp [Standing.departed, standing, registered]
  · have unmoved : (exchange.depart other departure).mailboxOf? identity =
        exchange.mailboxOf? identity := by
      apply mailboxOf?_of_ne equipped.apart found same
      · rw [directory_depart found, Directory.find?_erase, if_neg (Ne.symm same)]
      · intro used away
        rw [getElem?_depart found, if_neg away]
    rw [if_neg same, if_neg same, List.append_nil, unmoved, standing]

/-! ## Requests -/

theorem standing_enqueue (equipped : exchange.Equipped)
    (found : exchange.directory.find? recipient = some connection)
    (queued : exchange.enqueue connection frame = .ok next) :
    next.standing identity =
      if recipient = identity then (exchange.standing identity).offered frame
      else exchange.standing identity := by
  obtain ⟨_, directory, _, log⟩ := enqueue_ok_frame queued
  rw [standing, log]
  by_cases same : recipient = identity
  · subst same
    obtain ⟨mailbox, filled, opened, accepted, _⟩ := enqueue_eq_ok_iff.mp queued
    have registered : exchange.mailboxOf? recipient = some mailbox := by
      rw [mailboxOf?, found, Option.bind_some, opened]
    have filling : next.mailboxOf? recipient = some filled := by
      rw [mailboxOf?, directory, found, Option.bind_some, getElem?_enqueue queued, if_pos rfl,
        opened, Option.bind_some, accepted]
      rfl
    simp [filling, Standing.offered, standing, registered, accepted]
  · have unmoved : next.mailboxOf? identity = exchange.mailboxOf? identity := by
      apply mailboxOf?_of_ne equipped.apart found same (by rw [directory])
      intro used away
      rw [getElem?_enqueue queued, if_neg away]
    rw [if_neg same, unmoved, standing]

/-- A delivery is a frame offered to the mailbox of its recipient, and nothing
to anybody else. -/
theorem standing_deliver (equipped : exchange.Equipped) :
    (exchange.deliver recipient frame).2.standing identity =
      if exchange.running = true ∧ recipient = identity then
        (exchange.standing identity).offered frame
      else exchange.standing identity := by
  have outcome := exchange.delivery_deliver recipient frame
  generalize exchange.deliver recipient frame = result at outcome ⊢
  cases outcome with
  | stopped idle => simp [idle]
  | unknown serving absent =>
      by_cases same : recipient = identity
      · subst same
        simp [serving, Standing.offered, standing, mailboxOf?, absent]
      · simp [same]
  | queued serving found accepted =>
      simpa [serving] using standing_enqueue equipped found accepted
  | shed serving found refused =>
      rw [standing_depart equipped found]
      by_cases same : recipient = identity
      · subst same
        obtain ⟨mailbox, opened, registered⟩ := equipped.mailboxOf?_eq found
        rcases enqueue_eq_error_iff.mp refused with ⟨unopened, _⟩ | ⟨other, found', refuses⟩
        · rw [opened] at unopened
          contradiction
        · cases opened.symm.trans found'
          simp [serving, Standing.offered, standing, registered, refuses]
      · simp [same]

theorem standing_deliverEach {recipients : List Identity} (equipped : exchange.Equipped)
    (serving : exchange.running = true) (distinct : recipients.Nodup) :
    (deliverEach frame recipients exchange).2.standing identity =
      if identity ∈ recipients then (exchange.standing identity).offered frame
      else exchange.standing identity := by
  induction recipients generalizing exchange with
  | nil => rfl
  | cons recipient rest ih =>
      rw [List.nodup_cons] at distinct
      have later : (exchange.deliver recipient frame).2.Equipped :=
        equipped.steps (exchange.steps_deliver recipient frame)
      rw [deliverEach_cons_snd, ih later (by rw [running_deliver, serving]) distinct.2,
        standing_deliver equipped]
      by_cases same : recipient = identity
      · subst same
        simp [serving, distinct.1]
      · simp [same, Ne.symm same]

theorem standing_broadcast {excluded : Option Identity} (equipped : exchange.Equipped) :
    (exchange.broadcast frame excluded).2.standing identity =
      if exchange.running = true ∧ excluded ≠ some identity then
        (exchange.standing identity).offered frame
      else exchange.standing identity := by
  rw [broadcast_eq]
  by_cases serving : exchange.running
  · rw [if_pos serving]
    dsimp only
    rw [standing_deliverEach equipped serving (exchange.nodup_recipients excluded)]
    cases known : exchange.directory.find? identity with
    | none => simp [mem_recipients, known, Standing.offered, standing, mailboxOf?]
    | some connection => simp [mem_recipients, known, serving]
  · rw [if_neg serving]
    simp [serving]

/-- Only who is addressed by a request notices it, and then as one frame that
is offered to the mailbox. -/
theorem standing_serve {request : Request} (equipped : exchange.Equipped)
    (delivers : request.isDelivery = true) (identity : Identity) :
    ∃ frame, (exchange.serve request).2.standing identity =
      if exchange.running = true ∧ request.addresses identity = true then
        (exchange.standing identity).offered frame
      else exchange.standing identity := by
  cases request with
  | register | unregister => contradiction
  | deliver recipient frame =>
      use frame
      simpa [serve, Request.addresses] using standing_deliver equipped
  | broadcast frame excluded =>
      use frame
      simpa [serve, Request.addresses] using standing_broadcast equipped

theorem standing_unregister (equipped : exchange.Equipped) :
    (exchange.unregister other).2.standing identity =
      if exchange.running = true ∧ other = identity then
        (exchange.standing identity).departed .requested
      else exchange.standing identity := by
  rw [unregister]
  by_cases serving : exchange.running
  · rw [if_pos serving]
    cases found : exchange.directory.find? other with
    | none =>
        by_cases same : other = identity
        · subst same
          simp [Standing.departed, standing, mailboxOf?, found]
        · simp [same]
    | some connection =>
        dsimp only
        rw [remove_requested, standing_depart equipped found]
        simp [serving]
  · rw [if_neg serving]
    simp [serving]

theorem standing_disconnect :
    (exchange.disconnect other).2.standing identity =
      (exchange.unregister other).2.standing identity := by
  rcases exchange.disconnect_snd other with same | left
  · rw [same]
  · rw [left, standing_leaveAll]

/-- A registration means nothing to those who are registered already. -/
theorem standing_register (registered : exchange.directory.find? identity = some connection)
    (used : Connection) :
    (exchange.register other used).2.standing identity = exchange.standing identity := by
  rw [register]
  split
  · split
    · rfl
    · rename_i directory added
      have differ : identity ≠ other := by
        rintro rfl
        rw [(Directory.add_eq_ok_iff.mp added).2.1] at registered
        contradiction
      have same : directory.find? identity = exchange.directory.find? identity := by
        rw [Directory.find?_add added, if_neg differ]
      simp [standing, mailboxOf?, same, Event.departures]
  · rfl

end Exchange

end Switchboard
