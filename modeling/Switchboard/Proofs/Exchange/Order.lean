import Switchboard.Proofs.Exchange.Inbox
import Switchboard.Proofs.Exchange.Slot
import Switchboard.Proofs.Rooms.Desertion

/-!
# Deliveries in any order

A frame for several identities is delivered to one after the other. In which
order this happens shows only in the log, and there only in the order of what
it tells. The reason is that two deliveries commute: each of them changes one
mailbox and one registration, and where both recipients depart they destroy the
same rooms together.

So a broadcast is as good as single deliveries in any order, and it does not
matter in which order the directory lists its entries.
-/

namespace Switchboard

/-- The request has been carried out without an error. -/
def Response.isDone : Response → Bool
  | done (.ok ()) => true
  | done (.error _) | report _ => false

namespace Exchange

variable {exchange other last : Exchange} {first second identity : Identity}
  {connection used : Connection} {departure : Departure} {frame : Bytes}

/-! ## Logs in another order -/

/-- The exchanges are the same, except perhaps for the order in which their logs
tell what has happened. -/
def Alike (exchange other : Exchange) : Prop :=
  ∃ log : Queue Event, log.toList.Perm exchange.log.toList ∧ other = { exchange with log }

namespace Alike

theorem refl (exchange : Exchange) : Alike exchange exchange :=
  ⟨exchange.log, .refl _, rfl⟩

theorem symm (alike : Alike exchange other) : Alike other exchange := by
  obtain ⟨log, perm, rfl⟩ := alike
  exact ⟨exchange.log, perm.symm, rfl⟩

theorem trans (alike : Alike exchange other) (next : Alike other last) : Alike exchange last := by
  obtain ⟨log, perm, rfl⟩ := alike
  obtain ⟨later, permLater, rfl⟩ := next
  exact ⟨later, permLater.trans perm, rfl⟩

theorem directory_eq (alike : Alike exchange other) : other.directory = exchange.directory := by
  obtain ⟨_, _, rfl⟩ := alike
  rfl

theorem mailboxes_eq (alike : Alike exchange other) : other.mailboxes = exchange.mailboxes := by
  obtain ⟨_, _, rfl⟩ := alike
  rfl

/-- No delivery looks into the log. -/
theorem deliver (alike : Alike exchange other) (recipient : Identity) (frame : Bytes) :
    Alike (exchange.deliver recipient frame).2 (other.deliver recipient frame).2 := by
  obtain ⟨log, perm, rfl⟩ := alike
  have sameRefusal : ({ exchange with log } : Exchange).refusal? recipient =
      exchange.refusal? recipient := rfl
  rcases Bool.eq_false_or_eq_true exchange.running with serving | idle
  · rw [deliver_eq serving, @deliver_eq { exchange with log } serving, sameRefusal]
    cases found : exchange.directory.find? recipient with
    | none => exact ⟨log, perm, rfl⟩
    | some connection =>
        cases exchange.refusal? recipient with
        | none => exact ⟨log, perm, rfl⟩
        | some refusal =>
            dsimp only
            rw [depart_eq found, @depart_eq { exchange with log } _ _ _ found]
            refine ⟨_, ?_, rfl⟩
            simp only [Queue.toList_pushAll]
            exact ((perm.append_right _).append_right _).append_right _
  · rw [deliver_of_stopped idle, @deliver_of_stopped { exchange with log } idle]
    exact ⟨log, perm, rfl⟩

theorem deliverEach (alike : Alike exchange other) (frame : Bytes) (recipients : List Identity) :
    Alike (deliverEach frame recipients exchange).2 (deliverEach frame recipients other).2 := by
  induction recipients generalizing exchange other with
  | nil => exact alike
  | cons recipient rest ih =>
      rw [deliverEach_cons_snd, deliverEach_cons_snd]
      exact ih (alike.deliver recipient frame)

end Alike

/-! ## Two changes -/

theorem modify_comm {mailboxes : Array Mailbox} (differ : connection ≠ used)
    (change changeUsed : Mailbox → Mailbox) :
    (mailboxes.modify connection change).modify used changeUsed =
      (mailboxes.modify used changeUsed).modify connection change := by
  apply Array.ext_getElem?
  intro third
  simp only [Array.getElem?_modify]
  by_cases isFirst : connection = third
  · have notSecond : used ≠ third := fun same => differ (isFirst.trans same.symm)
    simp only [isFirst, notSecond, if_true, if_false]
  · simp only [isFirst, if_false]

theorem depart_modifyMailbox (found : exchange.directory.find? identity = some used)
    (differ : used ≠ connection) (change : Mailbox → Mailbox) :
    (exchange.modifyMailbox connection change).depart identity departure =
      (exchange.depart identity departure).modifyMailbox connection change := by
  have foundStill : (exchange.modifyMailbox connection change).directory.find? identity =
      some used := found
  rw [depart_eq found, depart_eq foundStill, modifyMailbox, modifyMailbox,
    modify_comm differ.symm]

theorem erase_comm (directory : Directory Connection) (first second : Identity) :
    (directory.erase first).erase second = (directory.erase second).erase first := by
  have tables : ((directory.erase first).erase second).table =
      ((directory.erase second).erase first).table := by
    apply Std.ExtTreeMap.ext_getElem?
    intro identity
    change ((directory.erase first).erase second).find? identity =
      ((directory.erase second).erase first).find? identity
    simp only [Directory.find?_erase]
    split
    · rw [ite_self]
    · rfl
  exact congrArg Directory.mk tables

/-- Two identities with connections of their own can depart in either order. -/
theorem alike_depart_depart {departureSecond : Departure} (sound : exchange.rooms.Sound)
    (foundFirst : exchange.directory.find? first = some connection)
    (foundSecond : exchange.directory.find? second = some used)
    (differ : first ≠ second) (apart : connection ≠ used) :
    Alike ((exchange.depart first departure).depart second departureSecond)
      ((exchange.depart second departureSecond).depart first departure) := by
  have stillSecond : (exchange.depart first departure).directory.find? second = some used := by
    rw [directory_depart foundFirst, Directory.find?_erase, if_neg differ.symm, foundSecond]
  have stillFirst : (exchange.depart second departureSecond).directory.find? first =
      some connection := by
    rw [directory_depart foundSecond, Directory.find?_erase, if_neg differ, foundFirst]
  have rooms := sound.perm_leaveAll_snd first second
  refine ⟨((exchange.depart second departureSecond).depart first departure).log, ?_, ?_⟩
  · rw [log_depart stillFirst, log_depart stillSecond, log_depart foundFirst,
      log_depart foundSecond, rooms_depart foundFirst, rooms_depart foundSecond]
    rw [List.perm_iff_count] at rooms ⊢
    intro event
    have balanced := rooms event
    simp only [List.count_append] at balanced ⊢
    omega
  · rw [depart_eq stillFirst, depart_eq stillSecond, directory_depart foundFirst,
      directory_depart foundSecond, rooms_depart foundFirst, rooms_depart foundSecond,
      mailboxes_depart foundFirst, mailboxes_depart foundSecond, sound.leaveAll_comm,
      erase_comm, modify_comm apart, depart_eq foundFirst, depart_eq foundSecond]

/-! ## Two deliveries -/

/-- Deliveries to different identities commute. -/
theorem deliver_comm (apart : exchange.Apart) (sound : exchange.rooms.Sound)
    (differ : first ≠ second) (frame : Bytes) :
    Alike ((exchange.deliver first frame).2.deliver second frame).2
      ((exchange.deliver second frame).2.deliver first frame).2 := by
  cases serving : exchange.running with
  | false =>
      simp only [deliver_of_stopped serving]
      exact .refl exchange
  | true =>
      -- What comes of each delivery is the same before and after the other one.
      have servingFirst := (exchange.running_deliver first frame).trans serving
      have servingSecond := (exchange.running_deliver second frame).trans serving
      rw [deliver_eq servingFirst, deliver_eq servingSecond, find?_deliver_of_ne differ.symm,
        find?_deliver_of_ne differ, refusal?_deliver_of_ne apart differ,
        refusal?_deliver_of_ne apart differ.symm, deliver_eq serving, deliver_eq serving]
      cases foundFirst : exchange.directory.find? first with
      | none => exact .refl _
      | some connection =>
          cases foundSecond : exchange.directory.find? second with
          | none => exact .refl _
          | some used =>
              have away : connection ≠ used := by
                rintro rfl
                exact differ (apart _ _ _ foundFirst foundSecond)
              dsimp only
              cases exchange.refusal? first with
              | none =>
                  cases exchange.refusal? second with
                  | none =>
                      dsimp only
                      rw [modifyMailbox, modifyMailbox, modifyMailbox, modifyMailbox,
                        modify_comm away]
                      exact .refl _
                  | some refusal =>
                      dsimp only
                      rw [depart_modifyMailbox foundSecond away.symm]
                      exact .refl _
              | some refusal =>
                  cases exchange.refusal? second with
                  | none =>
                      dsimp only
                      rw [depart_modifyMailbox foundFirst away]
                      exact .refl _
                  | some refusalSecond =>
                      exact alike_depart_depart sound foundFirst foundSecond differ away

/-! ## Many deliveries -/

/-- Deliveries to different identities can be made in any order. -/
theorem alike_deliverEach_of_perm {recipients others : List Identity}
    (perm : recipients.Perm others) (distinct : recipients.Nodup) (apart : exchange.Apart)
    (sound : exchange.rooms.Sound) (frame : Bytes) :
    Alike (deliverEach frame recipients exchange).2 (deliverEach frame others exchange).2 := by
  induction perm generalizing exchange with
  | nil => exact .refl exchange
  | cons recipient _ ih =>
      have steps := exchange.steps_deliver recipient frame
      rw [deliverEach_cons_snd, deliverEach_cons_snd]
      exact ih (List.nodup_cons.mp distinct).2 (apart.steps steps) (steps.sound sound)
  | swap first second rest =>
      have differ : second ≠ first := by
        rintro rfl
        simp at distinct
      rw [deliverEach_cons_snd, deliverEach_cons_snd, deliverEach_cons_snd, deliverEach_cons_snd]
      exact (deliver_comm apart sound differ frame).deliverEach frame rest
  | trans early _ ihEarly ihLate =>
      exact (ihEarly distinct apart sound).trans
        (ihLate (early.nodup_iff.mp distinct) apart sound)

theorem serveEach_deliveries_snd (exchange : Exchange) (recipients : List Identity)
    (frame : Bytes) :
    (exchange.serveEach (recipients.map (.deliver · frame))).2 =
      (deliverEach frame recipients exchange).2 := by
  induction recipients generalizing exchange with
  | nil => rfl
  | cons recipient rest ih =>
      rw [deliverEach_cons_snd, ← ih]
      rfl

/-- Single deliveries are answered as it is known before the first of them. -/
theorem Ready.serveEach_deliveries_fst {recipients : List Identity}
    (ready : exchange.Ready recipients) (frame : Bytes) :
    (exchange.serveEach (recipients.map (.deliver · frame))).1 =
      recipients.map fun recipient => .done (exchange.deliveryTo recipient) := by
  induction recipients generalizing exchange with
  | nil => rfl
  | cons recipient rest ih =>
      have answers : (rest.map fun other =>
            Response.done ((exchange.deliver recipient frame).2.deliveryTo other)) =
          rest.map fun other => .done (exchange.deliveryTo other) :=
        List.map_congr_left fun other listed => by
          rw [deliveryTo_deliver_of_ne ready.apart (ready.ne_of_mem listed)]
      change Response.done (exchange.deliver recipient frame).1 ::
        ((exchange.deliver recipient frame).2.serveEach (rest.map (.deliver · frame))).1 = _
      rw [ih (ready.deliver frame), answers, ready.deliver_fst frame, List.map_cons]

/-! ## Broadcasts -/

theorem deliverEach_snd_of_stopped (idle : exchange.running = false) (frame : Bytes)
    (recipients : List Identity) : (deliverEach frame recipients exchange).2 = exchange := by
  induction recipients with
  | nil => rfl
  | cons recipient rest ih => rw [deliverEach_cons_snd, deliver_of_stopped idle, ih]

theorem broadcast_snd (exchange : Exchange) (frame : Bytes) (excluded : Option Identity) :
    (exchange.broadcast frame excluded).2 =
      (deliverEach frame (exchange.recipients excluded) exchange).2 := by
  rw [broadcast_eq]
  split
  · rfl
  · rename_i idle
    exact (deliverEach_snd_of_stopped (Bool.eq_false_iff.mpr idle) frame _).symm

theorem broadcast_fst (serving : exchange.running = true) (frame : Bytes)
    (excluded : Option Identity) :
    (exchange.broadcast frame excluded).1 =
      .ok (deliverEach frame (exchange.recipients excluded) exchange).1 := by
  rw [broadcast_eq, if_pos serving]

theorem mem_recipients_iff {excluded : Option Identity} :
    identity ∈ exchange.recipients excluded ↔
      excluded ≠ some identity ∧ exchange.directory.contains identity = true := by
  rw [mem_recipients, Directory.contains_iff_exists_find?]

theorem ready_recipients (apart : exchange.Apart) (serving : exchange.running = true)
    (excluded : Option Identity) : exchange.Ready (exchange.recipients excluded) where
  apart := apart
  serving := serving
  distinct := exchange.nodup_recipients excluded
  registered _ listed := (mem_recipients_iff.mp listed).2

theorem deliveryTo_eq_shed_iff {recipient : Identity} :
    exchange.deliveryTo recipient = .error (.shed identity) ↔
      recipient = identity ∧ exchange.hasSlot recipient = false := by
  rw [deliveryTo]
  cases exchange.hasSlot recipient <;> simp

theorem isDone_deliveryTo (exchange : Exchange) (recipient : Identity) :
    (Response.done (exchange.deliveryTo recipient)).isDone = exchange.hasSlot recipient := by
  rw [deliveryTo]
  cases exchange.hasSlot recipient <;> rfl

/-- Whatever has happened before, as long as nobody shares a connection: a
broadcast comes to the same as single deliveries to its recipients in any order.
It counts the deliveries that succeed and reports the recipients of those that
do not. Nor does it matter in which order the directory lists its entries. -/
theorem broadcast_in_any_order {vocabulary : Vocabulary} {queueCapacity : Nat}
    {arrangement : Arrangement} {operations : List Operation}
    (apart : ((start vocabulary queueCapacity arrangement).run operations).Apart)
    (frame : Bytes) {excluded : Option Identity} {order : List Identity}
    (enumerates :
      order.Perm
        (((start vocabulary queueCapacity arrangement).run operations).recipients excluded)) :
    let exchange := (start vocabulary queueCapacity arrangement).run operations
    let broadcast := exchange.broadcast frame excluded
    let single := exchange.serveEach (order.map (.deliver · frame))
    Alike broadcast.2 single.2 ∧
      (exchange.running = true → ∃ report, broadcast.1 = .ok report ∧
        report.delivered = single.1.countP Response.isDone ∧
        (∀ identity, identity ∈ report.evicted ↔ .done (.error (.shed identity)) ∈ single.1) ∧
        ∀ snapshot : List (Identity × Connection),
          snapshot.Perm (exchange.directory.entries.filter fun entry => excluded ≠ some entry.1) →
          let walked := offerEach frame snapshot exchange
          Alike broadcast.2 walked.2 ∧ walked.1.delivered = report.delivered ∧
            walked.1.evicted.Perm report.evicted) := by
  intro exchange broadcast single
  have sound : exchange.rooms.Sound := sound_run vocabulary queueCapacity arrangement operations
  have inOrder : ∀ {others : List Identity}, others.Perm (exchange.recipients excluded) →
      Alike broadcast.2 (deliverEach frame others exchange).2 := by
    intro others perm
    rw [broadcast_snd]
    exact alike_deliverEach_of_perm perm.symm (exchange.nodup_recipients excluded) apart sound frame
  constructor
  · rw [serveEach_deliveries_snd]
    exact inOrder enumerates
  · intro serving
    have ready : exchange.Ready (exchange.recipients excluded) :=
      ready_recipients apart serving excluded
    have answers := (ready.perm enumerates.symm).serveEach_deliveries_fst frame
    have reported := ready.deliverEach_fst frame
    refine ⟨_, broadcast_fst serving frame excluded, ?_, ?_, ?_⟩
    · rw [answers, reported, List.countP_map, enumerates.symm.countP_eq]
      exact List.countP_congr fun identity _ => by
        rw [Function.comp_apply, isDone_deliveryTo]
    · intro identity
      rw [answers, reported, (enumerates.symm.filter _).mem_iff, List.mem_filter, List.mem_map]
      simp [deliveryTo_eq_shed_iff]
    · intro snapshot listed walked
      have names : (snapshot.map Prod.fst).Perm (exchange.recipients excluded) :=
        (listed.trans (exchange.perm_snapshot.filter _).symm).map Prod.fst
      have readySnapshot := ready.perm names.symm
      have walk : walked = deliverEach frame (snapshot.map Prod.fst) exchange := by
        refine offerEach_eq_deliverEach serving (fun entry isListed => ?_) readySnapshot.distinct
        exact Directory.mem_entries_iff.mp (List.mem_of_mem_filter (listed.mem_iff.mp isListed))
      rw [walk, readySnapshot.deliverEach_fst, reported]
      exact ⟨inOrder names, names.countP_eq _, names.filter _⟩

/-- Alice and Carol share the hall, and both are evicted. Whoever goes last
destroys it, which is told in another place if Carol is served first. -/
theorem broadcast_in_any_order_fullHall :
    let exchange := (start .standard 256).run fullHall
    let order : List Identity := [⟨"carol"⟩, ⟨"alice"⟩, ⟨"bob"⟩]
    let broadcast := exchange.broadcast [2] none
    let single := exchange.serveEach (order.map (.deliver · [2]))
    exchange.Apart ∧ order.Perm (exchange.recipients none) ∧ exchange.running = true ∧
      single.2.log.toList ≠ broadcast.2.log.toList ∧ Alike broadcast.2 single.2 ∧
      ∃ report, broadcast.1 = .ok report ∧ report.delivered = 1 ∧
        .done (.error (.shed ⟨"carol"⟩)) ∈ single.1 := by
  intro exchange order broadcast single
  have enumerates : order.Perm (exchange.recipients none) := by decide +kernel
  have serving : exchange.running = true := by decide +kernel
  have differ : single.2.log.toList ≠ broadcast.2.log.toList := by decide +kernel
  obtain ⟨alike, reports⟩ := broadcast_in_any_order apart_fullHall [2] enumerates
  obtain ⟨report, reported, delivered, evicted, _⟩ := reports serving
  have outcome : (broadcast.1.toOption.map fun report => (report.delivered, report.evicted)) =
      some (1, [⟨"alice"⟩, ⟨"carol"⟩]) := by
    decide +kernel
  rw [reported] at outcome
  cases report
  cases outcome
  exact ⟨apart_fullHall, enumerates, serving, differ, alike, _, reported, rfl,
    (evicted ⟨"carol"⟩).mp (by simp)⟩

end Exchange

end Switchboard
