import Switchboard.Proofs.Server.Entrance
import Switchboard.Proofs.Server.Start

/-!
# Arrivals and sessions

What is known of every WebSocket, whatever is done at a server. While it is on
its way in, nobody knows of its connection, and nothing but its greeting waits in
its mailbox. Once it is registered, its greeting is the first frame that was
accepted for it, and what it has been sent is the beginning of all that was
accepted.

Every move preserves this, and so does every run.
-/

namespace Switchboard

open Exchange Text

namespace Operation

variable {operation : Operation} {connection : Connection}

theorem brought?_of_isShared (shared : operation.isShared = true) :
    operation.brought? = none := by
  cases operation with
  | request request =>
      cases request with
      | register => contradiction
      | unregister | deliver | broadcast => rfl
  | _ => rfl

/-- The operation names a connection. -/
def Names (operation : Operation) (connection : Connection) : Prop :=
  operation.brought? = some connection ∨ operation.uses connection = true

theorem not_names_openMailbox {capacity : Nat} : ¬(openMailbox capacity).Names connection := by
  rintro (brings | uses) <;> contradiction

theorem eq_of_names_enqueue {used : Connection} {frame : Bytes}
    (names : (enqueue used frame).Names connection) : connection = used := by
  rcases names with brings | uses
  · contradiction
  · exact (of_decide_eq_true uses).symm

theorem uses_of_isShared (shared : operation.isShared = true) :
    operation.uses connection = false := by
  cases operation with
  | enqueue | close | receive | drain | abandon => contradiction
  | _ => rfl

/-- What concerns everybody brings no connection, and uses only those that are
allowed. -/
theorem own_of_isShared {allowed : Connection → Prop} (shared : operation.isShared = true) :
    operation.brought? = none ∧
      ∀ connection, operation.uses connection = true → allowed connection := by
  refine ⟨brought?_of_isShared shared, fun connection uses => ?_⟩
  rw [uses_of_isShared shared] at uses
  contradiction

end Operation

variable {vocabulary : Vocabulary} {queueCapacity : Nat} {arrangement : Arrangement}
  {origin : Exchange} {session : Session}
  {arrival : Arrival} {entrance : Entrance} {operations more : List Operation}

/-! ## Sessions -/

/-- What holds of a session after a list of operations on the exchange. -/
structure Session.Follows (origin : Exchange) (operations : List Operation) (session : Session) :
    Prop where
  enrolled : .request (.register session.identity session.connection) ∈ operations
  kept : (origin.run operations).Keeps session.identity session.connection
  /-- The greeting was accepted before anything else. -/
  greeted : ∃ later, accepted session.connection origin operations =
    (origin.meNotice session.identity).frame :: later
  inOrder : taken session.connection origin operations <+:
    accepted session.connection origin operations
  /-- What was sent is what was taken out. The socket is not closed before the
  greeting has been sent. -/
  told : ∃ closing, session.sent =
      (taken session.connection origin operations).map Message.ofFrame ++ closing ∧
    (closing = [] ∨ closing = [.close] ∧ session.phase = .over ∧
      taken session.connection origin operations ≠ [])
  attended : session.phase ≠ .over → (origin.run operations).Attended session.connection

theorem Session.isShared_of_mem_ending (session : Session) :
    ∀ operation ∈ session.ending, operation.isShared = true := by
  rw [Session.ending]
  cases session.phase with
  | active => exact List.forall_mem_singleton.mpr rfl
  | _ => exact List.forall_mem_nil _

namespace Session.Follows

/-- Nobody but the session itself takes frames out, or gives up the connection. -/
theorem append (follows : session.Follows origin operations)
    (untaken : ∀ operation ∈ more, operation.takesFrom session.connection = false)
    (stays : session.phase ≠ .over → .abandon session.connection ∉ more) :
    session.Follows origin (operations ++ more) := by
  have sameTaken : taken session.connection origin (operations ++ more) =
      taken session.connection origin operations := by
    rw [taken_append, taken_eq_nil untaken, List.append_nil]
  obtain ⟨later, first⟩ := follows.greeted
  constructor
  · exact List.mem_append_left _ follows.enrolled
  · rw [run_append]
    exact keeps_run follows.kept more
  · rw [accepted_append, first]
    exact ⟨_, rfl⟩
  · rw [sameTaken, accepted_append]
    exact follows.inOrder.trans (List.prefix_append _ _)
  · rw [sameTaken]
    exact follows.told
  · intro isOpen
    rw [run_append]
    exact (follows.attended isOpen).run (stays isOpen)

theorem spare (follows : session.Follows origin operations)
    (unused : ∀ operation ∈ more, operation.uses session.connection = false) :
    session.Follows origin (operations ++ more) := by
  apply follows.append
  · exact fun operation listed => Operation.takesFrom_of_uses (unused operation listed)
  · exact fun _ listed => absurd (unused _ listed) (by simp [Operation.uses])

theorem share (follows : session.Follows origin operations)
    (shared : ∀ operation ∈ more, operation.isShared = true) :
    session.Follows origin (operations ++ more) :=
  follows.spare fun operation listed => Operation.uses_of_isShared (shared operation listed)

/-- A session never goes on after it is over. -/
theorem rephase {phase : Phase} (follows : session.Follows origin operations)
    (goes : phase ≠ .over → session.phase ≠ .over) :
    { session with phase }.Follows origin operations where
  enrolled := follows.enrolled
  kept := follows.kept
  greeted := follows.greeted
  inOrder := follows.inOrder
  told := by
    obtain ⟨closing, sent, unclosed | ⟨closed, ended, some⟩⟩ := follows.told
    · exact ⟨closing, sent, .inl unclosed⟩
    · have stays : phase = .over := Decidable.of_not_not (mt goes (not_not_intro ended))
      exact ⟨closing, sent, .inr ⟨closed, stays, some⟩⟩
  attended isOpen := follows.attended (goes isOpen)

theorem sent_eq (follows : session.Follows origin operations) (isOpen : session.phase ≠ .over) :
    session.sent = (taken session.connection origin operations).map Message.ofFrame := by
  obtain ⟨closing, sent, rfl | ⟨_, ended, _⟩⟩ := follows.told
  · rw [sent, List.append_nil]
  · exact absurd ended isOpen

/-- The writer of a session passes on the frame that it finds. -/
theorem take {mailbox rest : Mailbox} {frame : Bytes}
    (follows : session.Follows (start vocabulary queueCapacity arrangement) operations)
    (isOpen : session.phase ≠ .over) (fresh : (brought operations).Nodup)
    (opened : ((start vocabulary queueCapacity arrangement).run operations).mailboxes[
      session.connection]? = some mailbox)
    (received : mailbox.receive = (.frame frame, rest)) :
    { session with sent := session.sent ++ [Message.ofFrame frame] }.Follows
      (start vocabulary queueCapacity arrangement)
      (operations ++ [Operation.receive session.connection]) := by
  rcases follows.attended isOpen with ⟨_, openedAgain, read⟩
  cases opened.symm.trans openedAgain
  have attended : ((start vocabulary queueCapacity arrangement).run
      (operations ++ [.receive session.connection])).Attended session.connection := by
    rw [run_append]
    exact (follows.attended isOpen).perform nofun
  have freshLater : (brought (operations ++ [.receive session.connection])).Nodup := by
    rwa [brought_append, show brought [.receive _] = [] from rfl, List.append_nil]
  have takenLater : taken session.connection (start vocabulary queueCapacity arrangement)
        (operations ++ [.receive session.connection]) =
      taken session.connection (start vocabulary queueCapacity arrangement) operations ++
        [frame] := by
    rw [taken_append, taken, perform_receive opened read, received]
    simp [takenBy, taken, Reception.taken]
  obtain ⟨later, first⟩ := follows.greeted
  constructor
  · exact List.mem_append_left _ follows.enrolled
  · rw [run_append]
    exact keeps_run follows.kept _
  · rw [accepted_append, first]
    exact ⟨_, rfl⟩
  · exact ⟨_, attended.taken_append_queuedFor freshLater⟩
  · refine ⟨[], ?_, .inl rfl⟩
    rw [takenLater, List.map_append, List.append_nil, follows.sent_eq isOpen]
    rfl
  · exact fun _ => attended

/-- The socket is closed when all frames have been taken out, and the greeting
is one of them. -/
theorem close {mailbox : Mailbox}
    (follows : session.Follows (start vocabulary queueCapacity arrangement) operations)
    (isOpen : session.phase ≠ .over) (fresh : (brought operations).Nodup)
    (opened : ((start vocabulary queueCapacity arrangement).run operations).mailboxes[
      session.connection]? = some mailbox)
    (ended : mailbox.receive.1 = .ended) :
    { session with sent := session.sent ++ [Message.close], phase := .over }.Follows
      (start vocabulary queueCapacity arrangement) operations where
  enrolled := follows.enrolled
  kept := follows.kept
  greeted := follows.greeted
  inOrder := follows.inOrder
  told := by
    refine ⟨[.close], by rw [follows.sent_eq isOpen], .inr ⟨rfl, rfl, ?_⟩⟩
    have all := (follows.attended isOpen).taken_append_queuedFor fresh
    obtain ⟨later, first⟩ := follows.greeted
    rw [queuedFor, opened] at all
    dsimp only at all
    rw [Mailbox.queued_eq_nil_of_ended ended, List.append_nil, first] at all
    intro nothing
    rw [nothing] at all
    contradiction
  attended isOver := absurd rfl isOver

end Session.Follows

/-! ## Arrivals -/

/-- The mailbox of an arrival, in which nothing but its greeting waits. -/
def Arrival.mailbox (origin : Exchange) (arrival : Arrival) : Mailbox :=
  let vacant := Mailbox.ofCapacity origin.queueCapacity
  if arrival.greeted then
    { vacant with queued := vacant.queued.push (origin.meNotice arrival.identity).frame }
  else
    vacant

/-- What holds of an arrival after a list of operations on the exchange. -/
structure Arrival.Waits (origin : Exchange) (operations : List Operation) (arrival : Arrival) :
    Prop where
  unbrought : arrival.connection ∉ brought operations
  untaken : ∀ operation ∈ operations, operation.takesFrom arrival.connection = false
  ready : (origin.run operations).mailboxes[arrival.connection]? = some (arrival.mailbox origin)

namespace Arrival.Waits

theorem inside (waits : arrival.Waits origin operations) :
    arrival.connection < (origin.run operations).mailboxes.size :=
  (Array.getElem?_eq_some_iff.mp waits.ready).choose

/-- Nobody knows of the connection yet, so nobody can do anything to it. -/
theorem append (waits : arrival.Waits (start vocabulary queueCapacity arrangement) operations)
    (unnamed : ∀ operation ∈ more, ¬operation.Names arrival.connection) :
    arrival.Waits (start vocabulary queueCapacity arrangement) (operations ++ more) := by
  have unused : ∀ operation ∈ more, operation.uses arrival.connection = false := by
    intro operation listed
    exact Bool.eq_false_iff.mpr fun used => unnamed operation listed (.inr used)
  have unbrought : arrival.connection ∉ brought more := by
    intro listed
    obtain ⟨operation, inMore, brings⟩ := List.mem_filterMap.mp listed
    exact unnamed operation inMore (.inl brings)
  constructor
  · rw [brought_append, List.mem_append, not_or]
    exact ⟨waits.unbrought, unbrought⟩
  · rw [List.forall_mem_append]
    exact ⟨waits.untaken, fun operation listed =>
      Operation.takesFrom_of_uses (unused operation listed)⟩
  · rw [run_append, getElem?_run (unheld_run waits.unbrought) unbrought waits.inside unused]
    exact waits.ready

/-- A connection that nobody has named yet is the next one to arrive. -/
theorem of_unnamed {identity : Identity} {exchange : Exchange}
    (same : exchange = (start vocabulary queueCapacity arrangement).run operations)
    (unnamed : ∀ operation ∈ operations, ¬operation.Names exchange.mailboxes.size) :
    Arrival.Waits (start vocabulary queueCapacity arrangement)
      (operations ++ [.openMailbox exchange.queueCapacity])
      { identity, connection := exchange.mailboxes.size } := by
  have neither : ∀ operation ∈ operations ++ [Operation.openMailbox exchange.queueCapacity],
      ¬operation.Names exchange.mailboxes.size := by
    rw [List.forall_mem_append]
    exact ⟨unnamed, List.forall_mem_singleton.mpr Operation.not_names_openMailbox⟩
  constructor
  · intro listed
    obtain ⟨operation, inRun, brings⟩ := List.mem_filterMap.mp listed
    exact neither operation inRun (.inl brings)
  · intro operation listed
    apply Operation.takesFrom_of_uses
    exact Bool.eq_false_iff.mpr fun uses => neither operation listed (.inr uses)
  · have capacity : exchange.queueCapacity = queueCapacity := by
      rw [same]
      exact (setUp_run (start vocabulary queueCapacity arrangement) operations).2
    rw [run_append, ← same, capacity]
    exact Array.getElem?_push_size

theorem isAttended_mailbox (origin : Exchange) (arrival : Arrival) :
    (arrival.mailbox origin).IsAttended := by
  have attended := Mailbox.isAttended_ofCapacity origin.queueCapacity
  rw [Mailbox.isAttended_iff] at attended ⊢
  rw [Arrival.mailbox]
  split <;> exact attended

/-- A mailbox has room for the greeting, whatever capacity was chosen. -/
theorem enqueue_greeting (origin : Exchange) (ungreeted : arrival.greeted = false) :
    (arrival.mailbox origin).enqueue (origin.meNotice arrival.identity).frame =
      .ok ({ arrival with greeted := true }.mailbox origin) := by
  rw [Arrival.mailbox, ungreeted]
  apply Mailbox.enqueue_eq_ok_iff.mpr
  refine ⟨rfl, ?_, rfl⟩
  rw [if_neg Bool.false_ne_true, Queue.size_eq_length]
  exact Nat.lt_of_lt_of_le Nat.one_pos (Nat.le_max_right _ _)

theorem greet (waits : arrival.Waits origin operations) (ungreeted : arrival.greeted = false) :
    { arrival with greeted := true }.Waits origin
      (operations ++
        [Operation.enqueue arrival.connection (origin.meNotice arrival.identity).frame]) := by
  have accepted := enqueue_eq_ok_iff.mpr
    ⟨_, _, waits.ready, enqueue_greeting origin ungreeted, rfl⟩
  constructor
  · rw [brought_append, show brought [.enqueue _ _] = [] from rfl, List.append_nil]
    exact waits.unbrought
  · rw [List.forall_mem_append]
    exact ⟨waits.untaken, List.forall_mem_singleton.mpr rfl⟩
  · rw [run_append]
    change (Exchange.perform _ (.enqueue _ _)).2.mailboxes[_]? = _
    rw [perform_enqueue_snd, accepted]
    exact Array.getElem?_setIfInBounds_self_of_lt waits.inside

end Arrival.Waits

/-! ## Moves -/

/-- What holds of a server and its arrivals after a list of operations on the
exchange. -/
structure Entrance.Tended (vocabulary : Vocabulary) (queueCapacity : Nat)
    (arrangement : Arrangement) (operations : List Operation) (entrance : Entrance) : Prop where
  exchange : entrance.server.exchange = (start vocabulary queueCapacity arrangement).run operations
  fresh : (brought operations).Nodup
  inside : ∀ operation ∈ operations, ∀ connection, operation.Names connection →
    connection < entrance.server.exchange.mailboxes.size
  arrivals : ∀ arrival ∈ entrance.arrivals,
    arrival.Waits (start vocabulary queueCapacity arrangement) operations
  sessions : ∀ session ∈ entrance.server.sessions,
    session.Follows (start vocabulary queueCapacity arrangement) operations

namespace Entrance.Tended

variable {next : Entrance} {server : Server} {changed : Session} {connection : Connection}

theorem extend (tended : entrance.Tended vocabulary queueCapacity arrangement operations)
    (exchange : next.server.exchange = entrance.server.exchange.run more)
    (fresh : (brought (operations ++ more)).Nodup)
    (named : ∀ operation ∈ more, ∀ connection, operation.Names connection →
      connection < entrance.server.exchange.mailboxes.size)
    (arrivals : ∀ arrival ∈ next.arrivals,
      arrival.Waits (start vocabulary queueCapacity arrangement) (operations ++ more))
    (sessions : ∀ session ∈ next.server.sessions,
      session.Follows (start vocabulary queueCapacity arrangement) (operations ++ more)) :
    next.Tended vocabulary queueCapacity arrangement (operations ++ more) where
  exchange := by rw [exchange, tended.exchange, run_append]
  fresh := fresh
  inside := by
    have grown := entrance.server.exchange.size_mailboxes_run more
    rw [exchange, List.forall_mem_append]
    constructor
    · intro operation listed connection names
      exact Nat.lt_of_lt_of_le (tended.inside operation listed connection names) grown
    · intro operation listed connection names
      exact Nat.lt_of_lt_of_le (named operation listed connection names) grown
  arrivals := arrivals
  sessions := sessions

/-- Sessions name nothing but their own connections, so arrivals are spared. -/
theorem proceed (tended : entrance.Tended vocabulary queueCapacity arrangement operations)
    (exchange : server.exchange = entrance.server.exchange.run more)
    (own : ∀ operation ∈ more, operation.brought? = none ∧
      ∀ connection, operation.uses connection = true → connection ∈ brought operations)
    (sessions : ∀ session ∈ server.sessions,
      session.Follows (start vocabulary queueCapacity arrangement) (operations ++ more)) :
    { entrance with server }.Tended vocabulary queueCapacity arrangement (operations ++ more) := by
  have known : ∀ operation ∈ more, ∀ connection, operation.Names connection →
      connection ∈ brought operations := by
    rintro operation listed connection (brings | uses)
    · rw [(own operation listed).1] at brings
      contradiction
    · exact (own operation listed).2 connection uses
  apply tended.extend exchange
  · have nobody : brought more = [] :=
      List.filterMap_eq_nil_iff.mpr fun operation listed => (own operation listed).1
    rw [brought_append, nobody, List.append_nil]
    exact tended.fresh
  · intro operation listed connection names
    obtain ⟨earlier, inRun, brings⟩ := List.mem_filterMap.mp (known operation listed _ names)
    exact tended.inside earlier inRun connection (.inl brings)
  · intro arrival listed
    apply (tended.arrivals arrival listed).append
    intro operation inMore names
    exact (tended.arrivals arrival listed).unbrought (known operation inMore _ names)
  · exact sessions

theorem share (tended : entrance.Tended vocabulary queueCapacity arrangement operations)
    (shared : ∀ operation ∈ more, operation.isShared = true) :
    (entrance.operate more).Tended vocabulary queueCapacity arrangement (operations ++ more) := by
  apply tended.proceed rfl
  · exact fun operation listed => Operation.own_of_isShared (shared operation listed)
  · exact fun session listed => (tended.sessions session listed).share shared

/-- One session goes on, and all others are spared. -/
theorem proceedWith (tended : entrance.Tended vocabulary queueCapacity arrangement operations)
    (listed : session ∈ entrance.server.sessions)
    (follows : changed.Follows (start vocabulary queueCapacity arrangement) (operations ++ more))
    (same : changed.connection = session.connection)
    (exchange : server.exchange = entrance.server.exchange.run more)
    (sessions : server.sessions = (entrance.server.putSession changed).sessions)
    (own : ∀ operation ∈ more, operation.brought? = none ∧
      ∀ connection, operation.uses connection = true → connection = session.connection) :
    { entrance with server }.Tended vocabulary queueCapacity arrangement (operations ++ more) := by
  apply tended.proceed exchange
  · intro operation inMore
    refine ⟨(own operation inMore).1, fun connection uses => ?_⟩
    rw [(own operation inMore).2 connection uses]
    exact mem_brought (tended.sessions session listed).enrolled
  · intro other inServer
    rw [sessions] at inServer
    rcases Server.mem_putSession inServer with rfl | ⟨known, apart⟩
    · exact follows
    · apply (tended.sessions other known).spare
      intro operation inMore
      apply Bool.eq_false_iff.mpr
      exact fun uses => apart (((own operation inMore).2 _ uses).trans same.symm)

/-! ### Arrivals -/

theorem setUp (tended : entrance.Tended vocabulary queueCapacity arrangement operations) :
    entrance.server.exchange.vocabulary = vocabulary ∧
      entrance.server.exchange.queueCapacity = queueCapacity := by
  rw [tended.exchange]
  exact setUp_run (start vocabulary queueCapacity arrangement) operations

theorem greeting_eq (tended : entrance.Tended vocabulary queueCapacity arrangement operations)
    (identity : Identity) :
    entrance.server.greeting identity =
      (start vocabulary queueCapacity arrangement).meNotice identity := by
  rw [Server.greeting, meNotice, tended.setUp.1]
  rfl

theorem arrive (tended : entrance.Tended vocabulary queueCapacity arrangement operations)
    (identity : Identity) :
    (entrance.step (.arrive identity)).Tended vocabulary queueCapacity arrangement
      (operations ++ entrance.operations (.arrive identity)) := by
  rw [step, Entrance.operations]
  by_cases tooLong : Inbox.lengthLimit < entrance.server.exchange.queueCapacity
  · rw [if_pos tooLong, if_pos tooLong, List.append_nil]
    exact tended
  · rw [if_neg tooLong, if_neg tooLong]
    apply tended.extend rfl
    · rw [brought_append, show brought [.openMailbox _] = [] from rfl, List.append_nil]
      exact tended.fresh
    · intro operation inMore known names
      cases List.mem_singleton.mp inMore
      exact absurd names Operation.not_names_openMailbox
    · intro arrival listed
      rcases List.mem_append.mp listed with early | isNew
      · apply (tended.arrivals arrival early).append
        exact List.forall_mem_singleton.mpr Operation.not_names_openMailbox
      · cases List.mem_singleton.mp isNew
        apply Arrival.Waits.of_unnamed tended.exchange
        intro operation inRun names
        exact Nat.lt_irrefl _ (tended.inside operation inRun _ names)
    · intro session listed
      exact (tended.sessions session listed).spare (List.forall_mem_singleton.mpr rfl)

theorem greet (tended : entrance.Tended vocabulary queueCapacity arrangement operations)
    (connection : Connection) :
    (entrance.step (.greet connection)).Tended vocabulary queueCapacity arrangement
      (operations ++ entrance.operations (.greet connection)) := by
  cases found : entrance.arrival? connection with
  | none =>
      rw [step, Entrance.operations, found, List.append_nil]
      exact tended
  | some arrival =>
      rcases mem_of_arrival? found with ⟨listed, rfl⟩
      have waits := tended.arrivals arrival listed
      rw [step_greet found, Entrance.operations, found]
      dsimp only
      cases greeted : arrival.greeted with
      | true =>
          have unmoved : { arrival with greeted := true } = arrival := by
            rw [← greeted]
          rw [if_pos rfl, unmoved]
          apply tended.extend rfl
          · rw [List.append_nil]
            exact tended.fresh
          · exact List.forall_mem_nil _
          · intro changed inNext
            rw [List.append_nil]
            obtain ⟨other, known, rfl⟩ := List.mem_map.mp inNext
            split
            · exact waits
            · exact tended.arrivals other known
          · rw [List.append_nil]
            exact tended.sessions
      | false =>
          rw [if_neg Bool.false_ne_true, tended.greeting_eq]
          apply tended.extend rfl
          · rw [brought_append, show brought [.enqueue _ _] = [] from rfl, List.append_nil]
            exact tended.fresh
          · intro operation inMore known names
            cases List.mem_singleton.mp inMore
            rw [Operation.eq_of_names_enqueue names, tended.exchange]
            exact waits.inside
          · intro changed inNext
            obtain ⟨other, known, rfl⟩ := List.mem_map.mp inNext
            split
            · exact waits.greet greeted
            · rename_i apart
              apply (tended.arrivals other known).append
              exact List.forall_mem_singleton.mpr fun names =>
                apart (Operation.eq_of_names_enqueue names)
          · intro session inNext
            apply (tended.sessions session inNext).append
            · exact List.forall_mem_singleton.mpr rfl
            · intro _ inMore
              cases List.mem_singleton.mp inMore

/-- Whoever is registered has been greeted, and has not been sent anything yet. -/
theorem follows_enrolled
    (waits : arrival.Waits (start vocabulary queueCapacity arrangement) operations)
    (fresh : (brought (operations ++
      [.request (.register arrival.identity arrival.connection)])).Nodup)
    (greeted : arrival.greeted = true)
    (registered : (((start vocabulary queueCapacity arrangement).run operations).register
      arrival.identity arrival.connection).1 = .ok ()) :
    Session.Follows (start vocabulary queueCapacity arrangement)
      (operations ++ [.request (.register arrival.identity arrival.connection)])
      { identity := arrival.identity, connection := arrival.connection } := by
  let exchange := (start vocabulary queueCapacity arrangement).run operations
  have last : (start vocabulary queueCapacity arrangement).run
      (operations ++ [.request (.register arrival.identity arrival.connection)]) =
        (exchange.register arrival.identity arrival.connection).2 :=
    run_append _ _ _
  have opened : (exchange.register arrival.identity arrival.connection).2.mailboxes[
      arrival.connection]? =
        some (arrival.mailbox (start vocabulary queueCapacity arrangement)) := by
    rw [mailboxes_register]
    exact waits.ready
  have attended : (exchange.register arrival.identity arrival.connection).2.Attended
      arrival.connection :=
    ⟨_, opened, Arrival.Waits.isAttended_mailbox _ _⟩
  have nothing : taken arrival.connection (start vocabulary queueCapacity arrangement)
      (operations ++ [.request (.register arrival.identity arrival.connection)]) = [] := by
    apply taken_eq_nil
    rw [List.forall_mem_append]
    exact ⟨waits.untaken, List.forall_mem_singleton.mpr rfl⟩
  have first : accepted arrival.connection (start vocabulary queueCapacity arrangement)
      (operations ++ [.request (.register arrival.identity arrival.connection)]) =
        [((start vocabulary queueCapacity arrangement).meNotice arrival.identity).frame] := by
    rw [← Attended.taken_append_queuedFor fresh (last ▸ attended), nothing, last, queuedFor, opened]
    dsimp only
    rw [Arrival.mailbox, if_pos greeted]
    rfl
  constructor
  · exact List.mem_append_right _ (List.mem_singleton_self _)
  · rw [last]
    left
    constructor
    · exact find?_register registered
    · rw [mailboxes_register]
      exact waits.inside
  · exact ⟨[], first⟩
  · rw [nothing]
    exact List.nil_prefix
  · exact ⟨[], by rw [nothing]; rfl, .inl rfl⟩
  · intro _
    rw [last]
    exact attended

theorem eq_of_mem_enrolling {exchange : Exchange} {identity : Identity}
    {known : Connection} {operation : Operation}
    (listed : operation ∈ exchange.enrolling identity connection)
    (names : operation.Names known) : known = connection := by
  have either : operation = .request (.register identity connection) ∨
      operation = .abandon connection := by
    rw [enrolling] at listed
    split at listed <;> simp_all
  rcases either with rfl | rfl
  · rcases names with brings | uses
    · exact (Option.some.inj brings).symm
    · contradiction
  · rcases names with brings | uses
    · contradiction
    · exact (of_decide_eq_true uses).symm

theorem brought_enrolling {exchange : Exchange} {identity : Identity} :
    brought (exchange.enrolling identity connection) = [connection] := by
  rw [enrolling]
  split <;> rfl

theorem enroll (tended : entrance.Tended vocabulary queueCapacity arrangement operations)
    (connection : Connection) :
    (entrance.step (.enroll connection)).Tended vocabulary queueCapacity arrangement
      (operations ++ entrance.operations (.enroll connection)) := by
  cases found : entrance.arrival? connection with
  | none =>
      rw [step, Entrance.operations, found, List.append_nil]
      exact tended
  | some arrival =>
      rcases mem_of_arrival? found with ⟨listed, rfl⟩
      have waits := tended.arrivals arrival listed
      cases greeted : arrival.greeted with
      | false =>
          rw [step, Entrance.operations, found]
          dsimp only
          rw [greeted, if_neg Bool.false_ne_true, if_neg Bool.false_ne_true, List.append_nil]
          exact tended
      | true =>
          rw [step_enroll found greeted, Entrance.operations, found]
          dsimp only
          rw [if_pos greeted]
          have names : ∀ operation ∈ entrance.server.exchange.enrolling arrival.identity
              arrival.connection, ∀ known, operation.Names known → known = arrival.connection :=
            fun operation inMore known => eq_of_mem_enrolling inMore
          have brings : brought (entrance.server.exchange.enrolling arrival.identity
              arrival.connection) = [arrival.connection] :=
            brought_enrolling
          have fresh : (brought (operations ++ entrance.server.exchange.enrolling arrival.identity
              arrival.connection)).Nodup := by
            rw [brought_append, brings, ← List.concat_eq_append]
            exact tended.fresh.concat waits.unbrought
          apply tended.extend Server.exchange_enroll fresh
          · intro operation inMore known isNamed
            rw [names operation inMore known isNamed, tended.exchange]
            exact waits.inside
          · intro other inNext
            obtain ⟨known, apart⟩ := List.mem_filter.mp inNext
            apply (tended.arrivals other known).append
            intro operation inMore isNamed
            exact of_decide_eq_true apart (names operation inMore _ isNamed)
          · intro session inNext
            have elsewhere : ∀ session ∈ entrance.server.sessions,
                session.Follows (start vocabulary queueCapacity arrangement)
                  (operations ++ entrance.server.exchange.enrolling arrival.identity
                    arrival.connection) := by
              intro session known
              have follows := tended.sessions session known
              have apart : session.connection ≠ arrival.connection := by
                intro same
                exact waits.unbrought (same ▸ mem_brought follows.enrolled)
              apply follows.spare
              intro operation inMore
              apply Bool.eq_false_iff.mpr
              exact fun uses => apart (names operation inMore _ (.inr uses))
            rw [Server.sessions_enroll] at inNext
            cases registered : (entrance.server.exchange.register arrival.identity
                arrival.connection).1 with
            | error error =>
                rw [registered] at inNext
                exact elsewhere session inNext
            | ok =>
                rw [registered] at inNext
                rcases List.mem_append.mp inNext with known | isNew
                · exact elsewhere session known
                · cases List.mem_singleton.mp isNew
                  rw [enrolling, registered] at fresh ⊢
                  rw [tended.exchange] at registered
                  exact follows_enrolled waits fresh greeted registered

/-! ### Sessions -/

/-- A session ends, and its connection is taken out of the exchange. -/
theorem tearDown (tended : entrance.Tended vocabulary queueCapacity arrangement operations)
    (listed : session ∈ entrance.server.sessions) {phase : Phase}
    (same : changed.connection = session.connection) (ending : changed.ending = session.ending)
    (follows : { changed with phase }.Follows (start vocabulary queueCapacity arrangement)
      operations) :
    { entrance with server := entrance.server.tearDown changed phase }.Tended vocabulary
      queueCapacity arrangement (operations ++ session.ending) := by
  apply tended.proceedWith listed (follows.share session.isShared_of_mem_ending) same
  · rw [Server.exchange_tearDown, ending]
  · rfl
  · exact fun operation inMore =>
      Operation.own_of_isShared (session.isShared_of_mem_ending operation inMore)

theorem receive (tended : entrance.Tended vocabulary queueCapacity arrangement operations)
    (listed : session ∈ entrance.server.sessions) (message : Message) :
    { entrance with server := entrance.server.receive session message }.Tended vocabulary
      queueCapacity arrangement (operations ++ entrance.server.reading session message) := by
  have unmoved : entrance.Tended vocabulary queueCapacity arrangement (operations ++ []) := by
    rw [List.append_nil]
    exact tended
  unfold Server.receive Server.reading
  cases phase : session.phase with
  | active =>
      have ended : { entrance with server := entrance.server.tearDown session .draining }.Tended
          vocabulary queueCapacity arrangement (operations ++ session.ending) := by
        apply tended.tearDown listed rfl rfl
        apply (tended.sessions session listed).rephase
        rw [phase]
        exact fun _ => nofun
      have taken (frame : Bytes) :
          { entrance with server :=
              if entrance.server.settings.maxMessageSize < frame.length then
                entrance.server.tearDown session .draining
              else
                { entrance.server with
                  exchange := entrance.server.exchange.handle session.identity frame } }.Tended
            vocabulary queueCapacity arrangement (operations ++
              if entrance.server.settings.maxMessageSize < frame.length then session.ending
              else [.handle session.identity frame]) := by
        split
        · exact ended
        · exact tended.share (List.forall_mem_singleton.mpr rfl)
      cases message with
      | close => exact ended
      | ping => exact unmoved
      | text content => exact taken (utf8 content)
      | binary frame => exact taken frame
  | _ => exact unmoved

theorem hangUp (tended : entrance.Tended vocabulary queueCapacity arrangement operations)
    (listed : session ∈ entrance.server.sessions) :
    let ended := entrance.server.tearDown session .over
    let gone : Server :=
      { ended with exchange := ended.exchange.modifyMailbox session.connection Mailbox.abandon }
    { entrance with server := gone }.Tended vocabulary queueCapacity arrangement
      (operations ++ (session.ending ++ [Operation.abandon session.connection])) := by
  intro ended gone
  have exchange : gone.exchange =
      entrance.server.exchange.run (session.ending ++ [.abandon session.connection]) := by
    rw [run_append, ← Server.exchange_tearDown session .over]
    rfl
  have sessions : gone.sessions =
      (entrance.server.putSession { session with phase := .over }).sessions :=
    rfl
  have closed : { session with phase := Phase.over }.Follows
      (start vocabulary queueCapacity arrangement) operations :=
    (tended.sessions session listed).rephase nofun
  have given : { session with phase := Phase.over }.Follows
      (start vocabulary queueCapacity arrangement)
      (operations ++ (session.ending ++ [Operation.abandon session.connection])) := by
    rw [← List.append_assoc]
    apply (closed.share session.isShared_of_mem_ending).append
    · exact List.forall_mem_singleton.mpr rfl
    · exact fun isOpen => absurd rfl isOpen
  apply tended.proceedWith listed given rfl exchange sessions
  rw [List.forall_mem_append]
  constructor
  · exact fun operation inMore =>
      Operation.own_of_isShared (session.isShared_of_mem_ending operation inMore)
  · intro operation inMore
    cases List.mem_singleton.mp inMore
    exact ⟨rfl, fun known uses => (of_decide_eq_true uses).symm⟩

theorem write (tended : entrance.Tended vocabulary queueCapacity arrangement operations)
    (listed : session ∈ entrance.server.sessions) :
    { entrance with server := entrance.server.write session }.Tended vocabulary queueCapacity
      arrangement (operations ++ entrance.server.writing session) := by
  by_cases isOver : session.phase = .over
  · rw [Server.write, Server.writing, if_pos isOver, if_pos isOver, List.append_nil]
    exact tended
  · have follows := tended.sessions session listed
    obtain ⟨mailbox, found, attended⟩ := follows.attended isOver
    have opened : entrance.server.exchange.mailboxes[session.connection]? = some mailbox := by
      rw [tended.exchange]
      exact found
    unfold Server.write Server.writing
    rw [if_neg isOver, if_neg isOver, opened]
    dsimp only
    rcases outcome : mailbox.receive with ⟨reception, rest⟩
    cases reception with
    | frame frame =>
        have received : entrance.server.exchange.run [.receive session.connection] =
            entrance.server.exchange.modifyMailbox session.connection fun _ => rest := by
          have performed := congrArg Prod.snd (perform_receive opened attended)
          rwa [outcome] at performed
        have passed := follows.take isOver tended.fresh found outcome
        apply tended.proceedWith listed passed rfl
        · exact received.symm
        · rfl
        · intro operation inMore
          cases List.mem_singleton.mp inMore
          exact ⟨rfl, fun known uses => (of_decide_eq_true uses).symm⟩
    | pending =>
        rw [List.append_nil]
        exact tended
    | ended =>
        have closed := follows.close isOver tended.fresh found (congrArg Prod.fst outcome)
        exact tended.tearDown listed rfl rfl closed

/-! ### Runs -/

theorem happen (tended : entrance.Tended vocabulary queueCapacity arrangement operations)
    (happening : Happening) :
    (entrance.step (.happen happening)).Tended vocabulary queueCapacity arrangement
      (operations ++ entrance.operations (.happen happening)) := by
  have unmoved : entrance.Tended vocabulary queueCapacity arrangement (operations ++ []) := by
    rw [List.append_nil]
    exact tended
  cases happening with
  | accept identity =>
      by_cases tooLong : Inbox.lengthLimit < entrance.server.exchange.queueCapacity
      · rw [step, Entrance.operations, Server.operations, Server.step, Server.accept,
          if_pos tooLong, if_pos tooLong]
        exact unmoved
      · have inside : ∀ arrival ∈ entrance.arrivals,
            arrival.connection < entrance.server.exchange.mailboxes.size := by
          intro arrival listed
          rw [tended.exchange]
          exact (tended.arrivals arrival listed).inside
        have entered := ((tended.arrive identity).greet
          entrance.server.exchange.mailboxes.size).enroll entrance.server.exchange.mailboxes.size
        rw [List.append_assoc, List.append_assoc] at entered
        rw [(step_accept inside tooLong).1, (step_accept inside tooLong).2]
        simp only [trace, List.append_nil]
        exact entered
  | message connection message =>
      rw [step, Entrance.operations, Server.operations, Server.step]
      cases found : entrance.server.session? connection with
      | none => exact unmoved
      | some session => exact tended.receive (Server.mem_of_session? found).1 message
  | hangUp connection =>
      rw [step, Entrance.operations, Server.operations, Server.step]
      cases found : entrance.server.session? connection with
      | none => exact unmoved
      | some session =>
          rcases Server.mem_of_session? found with ⟨listed, rfl⟩
          exact tended.hangUp listed
  | write connection =>
      rw [step, Entrance.operations, Server.operations, Server.step]
      cases found : entrance.server.session? connection with
      | none => exact unmoved
      | some session => exact tended.write (Server.mem_of_session? found).1
  | broadcast | deliver | unregister => exact tended.share (List.forall_mem_singleton.mpr rfl)

theorem move (tended : entrance.Tended vocabulary queueCapacity arrangement operations)
    (move : Move) :
    (entrance.step move).Tended vocabulary queueCapacity arrangement
      (operations ++ entrance.operations move) := by
  cases move with
  | happen happening => exact tended.happen happening
  | arrive identity => exact tended.arrive identity
  | greet connection => exact tended.greet connection
  | enroll connection => exact tended.enroll connection
  | share operation shared => exact tended.share (List.forall_mem_singleton.mpr shared)

theorem run (tended : entrance.Tended vocabulary queueCapacity arrangement operations)
    (moves : List Move) :
    (entrance.run moves).Tended vocabulary queueCapacity arrangement
      (operations ++ entrance.trace moves) := by
  induction moves generalizing entrance operations with
  | nil =>
      rw [trace, List.append_nil]
      exact tended
  | cons move rest ih =>
      rw [trace, ← List.append_assoc]
      exact ih (tended.move move)

theorem of_started {settings : Settings}
    (started : Server.start settings arrangement = .ok server) :
    Entrance.Tended settings.vocabulary settings.queueCapacity arrangement [] { server } := by
  obtain ⟨_, router, _, rfl⟩ := Server.start_eq_ok_iff.mp started
  exact ⟨rfl, List.nodup_nil, nofun, nofun, nofun⟩

end Entrance.Tended

end Switchboard
