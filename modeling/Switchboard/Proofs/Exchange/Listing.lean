import Mathlib.Data.List.Sort
import Switchboard.Proofs.Exchange.Reply

/-!
# Lists

A list names everybody who is registered, or the members of one room. It is
sorted and names nobody twice, so whom it names is all there is to it: how they
came to be there does not show. Asking for a list changes nothing but the queue
of whoever asks.
-/

namespace Switchboard

namespace Identity

instance : Std.Irrefl fun before after : Identity => order before after = .lt where
  irrefl identity := by
    rw [@Std.ReflCmp.compare_self _ order]
    exact nofun

instance : Std.Antisymm fun before after : Identity => order before after = .lt where
  antisymm before after ahead behind := by
    rw [Std.OrientedCmp.gt_iff_lt.mpr ahead] at behind
    contradiction

/-- Whom a list names decides in which order it does. -/
theorem eq_of_pairwise {first second : List Identity}
    (firstInOrder : first.Pairwise fun before after => order before after = .lt)
    (secondInOrder : second.Pairwise fun before after => order before after = .lt)
    (same : ∀ identity, identity ∈ first ↔ identity ∈ second) : first = second :=
  firstInOrder.eq_of_mem_iff secondInOrder same

end Identity

namespace Exchange

variable {exchange other next : Exchange} {sender : Identity} {connection : Connection}
  {frame : Bytes} {requested : Option String}

/-- A registered sender with room for another frame asks for a list, of all or
of one room. -/
structure AsksFor (exchange : Exchange) (sender : Identity) (connection : Connection)
    (frame : Bytes) (requested : Option String) : Prop where
  serving : exchange.running = true
  found : exchange.directory.find? sender = some connection
  slot : exchange.hasSlot sender = true
  read : ∃ envelope, Envelope.read? frame = some envelope ∧
    exchange.vocabulary.resolve? envelope.label = some .list ∧ envelope.room = requested

/-- Nothing happens but that a frame is queued for a connection. -/
structure Receives (exchange : Exchange) (connection : Connection) (frame : Bytes)
    (next : Exchange) : Prop where
  queue : next.queuedFor connection = exchange.queuedFor connection ++ [frame]
  mailboxes : ∀ used ≠ connection, next.mailboxes[used]? = exchange.mailboxes[used]?
  directory : next.directory = exchange.directory
  rooms : next.rooms = exchange.rooms
  log : next.log = exchange.log
  settings : next.running = exchange.running ∧ next.vocabulary = exchange.vocabulary ∧
    next.queueCapacity = exchange.queueCapacity

/-- The names that are listed are the right ones, in order, and the room is
echoed. An empty name of a room counts as none. -/
structure Lists (exchange : Exchange) (requested : Option String) (notice : Notice)
    (members : List Identity) : Prop where
  listed : notice.members = some members
  everybody : requested = none ∨ requested = some "" →
    notice.room = none ∧
      ∀ identity, identity ∈ members ↔ exchange.directory.contains identity = true
  ofRoom : ∀ room ≠ "", requested = some room →
    notice.room = some room ∧
      (∀ identity, identity ∈ members ↔ identity ∈ exchange.rooms.peers room) ∧
      (exchange.rooms.table[room]? = none → members = [])
  in_order : members.Pairwise fun before after =>
    Text.byteOrder before.name after.name = .lt
  once : members.Nodup

/-- Two exchanges agree on whom a list is about. -/
def AgreesOn (requested : Option String) (exchange other : Exchange) : Prop :=
  match nonempty? requested with
  | none => ∀ identity,
      exchange.directory.contains identity = other.directory.contains identity
  | some room => ∀ identity,
      identity ∈ exchange.rooms.peers room ↔ identity ∈ other.rooms.peers room

/-! ## Whom a list names -/

/-- The identities that a list names. -/
def listing (exchange : Exchange) : Option String → List Identity
  | some room => (exchange.rooms.peers room).toList
  | none => exchange.directory.identities

theorem listNotice_eq (exchange : Exchange) (sender : Identity) (room : Option String) :
    exchange.listNotice sender room =
      { event := exchange.vocabulary.label .list, sender, room,
        members := some (exchange.listing room) } := by
  cases room <;> rfl

theorem pairwise_listing (exchange : Exchange) (room : Option String) :
    (exchange.listing room).Pairwise fun before after => Identity.order before after = .lt := by
  cases room with
  | some room => exact Std.ExtTreeSet.ordered_toList
  | none => exact exchange.directory.pairwise_identities

theorem lists_listNotice (exchange : Exchange) (sender : Identity) (requested : Option String) :
    exchange.Lists requested (exchange.listNotice sender (nonempty? requested))
      (exchange.listing (nonempty? requested)) where
  listed := by rw [listNotice_eq]
  everybody := by
    intro unnamed
    have nothing : nonempty? requested = none := by
      rcases unnamed with rfl | rfl <;> rfl
    rw [nothing]
    exact ⟨rfl, fun identity => Directory.mem_identities_iff⟩
  ofRoom := by
    rintro room named rfl
    have given : nonempty? (some room) = some room := by simp [nonempty?, named]
    rw [given]
    refine ⟨rfl, fun identity => Std.ExtTreeSet.mem_toList, fun missing => ?_⟩
    rw [listing, Rooms.peers_eq, missing]
    rfl
  in_order := exchange.pairwise_listing _
  once := (exchange.pairwise_listing _).nodup

/-- What a list names does not depend on anything else. -/
theorem AgreesOn.listing_eq (agrees : exchange.AgreesOn requested other) :
    other.listing (nonempty? requested) = exchange.listing (nonempty? requested) := by
  apply Identity.eq_of_pairwise (other.pairwise_listing _) (exchange.pairwise_listing _)
  intro identity
  rw [AgreesOn] at agrees
  cases named : nonempty? requested with
  | none =>
      rw [named] at agrees
      rw [listing, listing, Directory.mem_identities_iff, Directory.mem_identities_iff, agrees]
  | some room =>
      rw [named] at agrees
      rw [listing, listing, Std.ExtTreeSet.mem_toList, Std.ExtTreeSet.mem_toList, agrees]

/-! ## What asking for a list does -/

theorem receives_deliver (serving : exchange.running = true)
    (found : exchange.directory.find? sender = some connection)
    (slot : exchange.hasSlot sender = true) (frame : Bytes) :
    exchange.Receives connection frame (exchange.deliver sender frame).2 := by
  have grown := queuedFor_deliver serving found slot frame
  rw [deliver_of_hasSlot serving found slot] at grown ⊢
  exact {
    queue := grown
    mailboxes := fun used away => by rw [modifyMailbox, Array.getElem?_modify, if_neg away.symm]
    directory := rfl
    rooms := rfl
    log := rfl
    settings := ⟨rfl, rfl, rfl⟩ }

theorem AsksFor.read_eq (asks : exchange.AsksFor sender connection frame requested) :
    Command.read exchange.vocabulary sender frame = .ok (.list (nonempty? requested)) := by
  obtain ⟨envelope, readable, resolved, rfl⟩ := asks.read
  exact Command.read_eq_ok_iff.mpr ⟨envelope, .list, readable, resolved, rfl⟩

/-- Whoever asks for a list gets it. -/
theorem AsksFor.receives (asks : exchange.AsksFor sender connection frame requested) :
    exchange.Receives connection (exchange.listNotice sender (nonempty? requested)).frame
      (exchange.handle sender frame) := by
  have registered := Directory.contains_of_find? asks.found
  have dispatched : exchange.dispatch sender frame =
      exchange.answer sender (exchange.listNotice sender (nonempty? requested)) :=
    dispatch_of_read registered asks.read_eq
  have done : (exchange.dispatch sender frame).1 = .ok () := by
    rw [dispatched, answer, deliver_of_hasSlot asks.serving asks.found asks.slot]
    rfl
  rw [handle_of_done done, dispatched]
  exact receives_deliver asks.serving asks.found asks.slot _

/-- Whatever has happened before, whoever asks for a list gets one, which can be
read, and nothing else changes. The list names exactly whom it should, in order
and each once, and echoes the room. Any other history after which the same
identities are to be listed leads to the same bytes. -/
theorem lists_are_canonical {vocabulary : Vocabulary} {queueCapacity : Nat}
    {arrangement : Arrangement} {operations : List Operation} {sender : Identity}
    {connection : Connection} {frame : Bytes} {requested : Option String}
    (asks : ((start vocabulary queueCapacity arrangement).run operations).AsksFor sender connection
      frame requested) :
    let exchange := (start vocabulary queueCapacity arrangement).run operations
    ∃ members,
      let notice : Notice :=
        { event := vocabulary.label .list, sender, room := nonempty? requested,
          members := some members }
      exchange.Lists requested notice members ∧
        Notice.read? notice.frame = some notice ∧
        exchange.Receives connection notice.frame (exchange.handle sender frame) ∧
        ∀ otherCapacity otherArrangement otherOperations otherConnection otherFrame otherRequested,
          let other := (start vocabulary otherCapacity otherArrangement).run otherOperations
          other.AsksFor sender otherConnection otherFrame otherRequested →
            nonempty? otherRequested = nonempty? requested →
              exchange.AgreesOn requested other →
                other.Receives otherConnection notice.frame (other.handle sender otherFrame) := by
  intro exchange
  have sameVocabulary (capacity : Nat) (order : Arrangement) (history : List Operation) :
      ((start vocabulary capacity order).run history).vocabulary = vocabulary :=
    ((start vocabulary capacity order).setUp_run history).1
  have written : exchange.listNotice sender (nonempty? requested) =
      { event := vocabulary.label .list, sender, room := nonempty? requested,
        members := some (exchange.listing (nonempty? requested)) } := by
    rw [listNotice_eq, sameVocabulary]
  refine ⟨exchange.listing (nonempty? requested), ?_⟩
  rw [← written]
  refine ⟨exchange.lists_listNotice sender requested,
    Notice.read?_frame (Notice.isTransmissible_of_payload_eq_none rfl), asks.receives, ?_⟩
  intro _ _ _ _ _ otherRequested other otherAsks sameRoom agrees
  have sameNotice : other.listNotice sender (nonempty? otherRequested) =
      exchange.listNotice sender (nonempty? requested) := by
    rw [written, listNotice_eq, sameVocabulary, sameRoom, agrees.listing_eq]
  rw [← sameNotice]
  exact otherAsks.receives

/-- Carol comes before Alice, and Bob and Dave have been in the hall before they
left it or departed. -/
def otherHall : List Operation :=
  [.openMailbox 4, .openMailbox 4, .openMailbox 4, .openMailbox 4,
    .request (.register ⟨"carol"⟩ 0), .request (.register ⟨"dave"⟩ 1),
    .request (.register ⟨"bob"⟩ 2), .join "hall" ⟨"dave"⟩, .join "hall" ⟨"carol"⟩,
    .join "hall" ⟨"bob"⟩, .leave "hall" ⟨"bob"⟩, .request (.register ⟨"alice"⟩ 3),
    .join "hall" ⟨"alice"⟩, .disconnect ⟨"dave"⟩]

/-- Bob cannot tell from the list of the hall in which way it was filled. -/
theorem lists_are_canonical_fullHall :
    let exchange := (start .standard 256).run fullHall
    let other := (start .standard 8).run otherHall
    let ofHall := Text.utf8 "[\"list\",\"hall\"]"
    exchange.AsksFor ⟨"bob"⟩ 1 ofHall (some "hall") ∧
      other.AsksFor ⟨"bob"⟩ 2 ofHall (some "hall") ∧
      exchange.AgreesOn (some "hall") other ∧
      ∃ members, members = [⟨"alice"⟩, ⟨"carol"⟩] ∧
        let notice : Notice :=
          { event := "list", sender := ⟨"bob"⟩, room := some "hall", members := some members }
        exchange.Receives 1 notice.frame (exchange.handle ⟨"bob"⟩ ofHall) ∧
          other.Receives 2 notice.frame (other.handle ⟨"bob"⟩ ofHall) := by
  have read : Envelope.read? (Text.utf8 "[\"list\",\"hall\"]") =
      some ⟨"list", some "hall", none, none⟩ := by
    decide +kernel
  intro exchange other ofHall
  have inHall : (exchange.rooms.peers "hall").toList = [⟨"alice"⟩, ⟨"carol"⟩] := by
    decide +kernel
  have inOther : (other.rooms.peers "hall").toList = [⟨"alice"⟩, ⟨"carol"⟩] := by
    decide +kernel
  have asks : exchange.AsksFor ⟨"bob"⟩ 1 ofHall (some "hall") :=
    ⟨by decide +kernel, by decide +kernel, by decide +kernel, _, read, by decide, rfl⟩
  have otherAsks : other.AsksFor ⟨"bob"⟩ 2 ofHall (some "hall") :=
    ⟨by decide +kernel, by decide +kernel, by decide +kernel, _, read, by decide, rfl⟩
  have agrees : exchange.AgreesOn (some "hall") other := by
    intro identity
    rw [← Std.ExtTreeSet.mem_toList, ← Std.ExtTreeSet.mem_toList, inHall, inOther]
  obtain ⟨members, lists, _, receives, others⟩ := lists_are_canonical asks
  refine ⟨asks, otherAsks, agrees, members, ?_, receives, others _ _ _ _ _ _ otherAsks rfl agrees⟩
  obtain ⟨_, named, _⟩ := lists.ofRoom "hall" (by decide) rfl
  apply Identity.eq_of_pairwise lists.in_order (by decide)
  intro identity
  rw [named, ← Std.ExtTreeSet.mem_toList, inHall]

end Exchange

end Switchboard
