import Switchboard.Server
import Switchboard.Proofs.Exchange.Readers

/-!
# The way in

Accepting a WebSocket takes three steps: its mailbox is opened, its greeting is
queued, and its connection is registered. Here they are taken one by one, and
anything can happen between them, to the exchange as well as to other sessions.
A server on which nothing comes between them is a special case.

Whatever happens comes down to operations on the exchange.
-/

namespace Switchboard

/-- The operation concerns everybody, and no mailbox or registration in
particular. -/
def Operation.isShared : Operation → Bool
  | .request (.register _ _) => false
  | .request _ | .disconnect _ | .dispatch _ _ | .handle _ _ | .join _ _ | .leave _ _ | .leaveAll _
  | .stop => true
  | .openMailbox _ | .openSaturated | .enqueue _ _ | .close _ | .receive _ | .drain _
  | .abandon _ => false

/-- A registration. A connection that is refused is given up. -/
def Exchange.enrolling (exchange : Exchange) (identity : Identity) (connection : Connection) :
    List Operation :=
  match (exchange.register identity connection).1 with
  | .ok () => [.request (.register identity connection)]
  | .error _ => [.request (.register identity connection), .abandon connection]

/-- The end of a session that is still active. -/
def Session.ending (session : Session) : List Operation :=
  match session.phase with
  | .active => [.disconnect session.identity]
  | .draining | .over => []

theorem Exchange.perform_enqueue_snd (exchange : Exchange) (connection : Connection)
    (frame : Bytes) :
    (exchange.perform (.enqueue connection frame)).2 =
      match exchange.enqueue connection frame with
      | .ok next => next
      | .error _ => exchange := by
  rw [perform]
  cases exchange.enqueue connection frame <;> rfl

namespace Server

/-- Register a connection, and keep its session if that succeeds. -/
def enroll (server : Server) (identity : Identity) (connection : Connection) : Server :=
  match server.exchange.register identity connection with
  | (.ok (), exchange) =>
      { server with exchange, sessions := server.sessions ++ [{ identity, connection }] }
  | (.error _, exchange) =>
      { server with exchange := exchange.modifyMailbox connection Mailbox.abandon }

/-- What a message comes down to. -/
def reading (server : Server) (session : Session) (message : Message) : List Operation :=
  match session.phase with
  | .draining | .over => []
  | .active =>
      match message, message.frame? with
      | .close, _ => session.ending
      | _, none => []
      | _, some frame =>
          if server.settings.maxMessageSize < frame.length then
            session.ending
          else
            [.handle session.identity frame]

/-- What the writing of a frame comes down to. -/
def writing (server : Server) (session : Session) : List Operation :=
  if session.phase = .over then
    []
  else
    match server.exchange.mailboxes[session.connection]? with
    | none => []
    | some mailbox =>
        match mailbox.receive.1 with
        | .frame _ => [.receive session.connection]
        | .pending => []
        | .ended => session.ending

/-- The operations that open the mailbox of a WebSocket and queue its greeting. -/
def opening (server : Server) (identity : Identity) : List Operation :=
  [.openMailbox server.exchange.queueCapacity,
    .enqueue server.exchange.mailboxes.size (server.greeting identity).frame]

/-- The operations on the exchange that a happening comes down to. -/
def operations (server : Server) : Happening → List Operation
  | .accept identity =>
      if Inbox.lengthLimit < server.exchange.queueCapacity then
        []
      else
        server.opening identity ++
          (server.exchange.run (server.opening identity)).enrolling identity
            server.exchange.mailboxes.size
  | .message connection message =>
      match server.session? connection with
      | none => []
      | some session => server.reading session message
  | .hangUp connection =>
      match server.session? connection with
      | none => []
      | some session => session.ending ++ [.abandon connection]
  | .write connection =>
      match server.session? connection with
      | none => []
      | some session => server.writing session
  | .broadcast frame => [.request (.broadcast frame none)]
  | .deliver identity frame => [.request (.deliver identity frame)]
  | .unregister identity => [.request (.unregister identity)]

variable {server : Server} {identity : Identity} {connection : Connection}

theorem accept_eq (usable : ¬Inbox.lengthLimit < server.exchange.queueCapacity) :
    server.accept identity =
      { server with exchange := server.exchange.run (server.opening identity) }.enroll identity
        server.exchange.mailboxes.size := by
  let opened := (server.exchange.openMailbox (.ofCapacity server.exchange.queueCapacity)).2
  have greeted : server.exchange.run (server.opening identity) =
      match opened.enqueue server.exchange.mailboxes.size (server.greeting identity).frame with
      | .ok next => next
      | .error _ => opened :=
    opened.perform_enqueue_snd _ _
  rw [accept, if_neg usable, greeted]
  rfl

theorem exchange_enroll :
    (server.enroll identity connection).exchange =
      server.exchange.run (server.exchange.enrolling identity connection) := by
  rw [enroll, Exchange.enrolling]
  cases registered : server.exchange.register identity connection with
  | mk result next =>
      have performed : (server.exchange.perform (.request (.register identity connection))).2 =
          next := congrArg Prod.snd registered
      cases result with
      | ok => exact performed.symm
      | error => exact congrArg (Exchange.modifyMailbox · connection _) performed.symm

theorem sessions_enroll :
    (server.enroll identity connection).sessions =
      match (server.exchange.register identity connection).1 with
      | .ok () => server.sessions ++ [{ identity, connection }]
      | .error _ => server.sessions := by
  rw [enroll]
  cases server.exchange.register identity connection with
  | mk result next => cases result <;> rfl

theorem mem_of_session? {session : Session} (found : server.session? connection = some session) :
    session ∈ server.sessions ∧ session.connection = connection :=
  ⟨List.mem_of_find?_eq_some found, by simpa using List.find?_some found⟩

theorem mem_putSession {session changed : Session}
    (listed : session ∈ (server.putSession changed).sessions) :
    session = changed ∨ session ∈ server.sessions ∧ session.connection ≠ changed.connection := by
  obtain ⟨other, known, rfl⟩ := List.mem_map.mp listed
  split
  · exact .inl rfl
  · rename_i apart
    exact .inr ⟨known, apart⟩

theorem exchange_tearDown (session : Session) (phase : Phase) :
    (server.tearDown session phase).exchange = server.exchange.run session.ending := by
  rw [tearDown, Session.ending]
  cases session.phase <;> rfl

end Server

/-- A WebSocket that is not registered yet. -/
structure Arrival where
  identity : Identity
  connection : Connection
  greeted : Bool := false
  deriving DecidableEq, Repr

/-- A server with the WebSockets that are on their way in. -/
structure Entrance where
  server : Server
  arrivals : List Arrival := []

/-- What can be done at a server in one step. -/
inductive Move
  | happen (happening : Happening)
  /-- A WebSocket arrives, and its mailbox is opened. -/
  | arrive (identity : Identity)
  /-- The greeting of an arrival is queued. -/
  | greet (connection : Connection)
  /-- An arrival that has been greeted is registered. -/
  | enroll (connection : Connection)
  /-- The exchange is used on behalf of anybody. -/
  | share (operation : Operation) (shared : operation.isShared = true)
  deriving DecidableEq, Repr

namespace Entrance

/-- The arrival with a connection. -/
def arrival? (entrance : Entrance) (connection : Connection) : Option Arrival :=
  entrance.arrivals.find? fun arrival => arrival.connection = connection

/-- Carry out a list of operations on the exchange. -/
def operate (entrance : Entrance) (operations : List Operation) : Entrance :=
  { entrance with
    server := { entrance.server with exchange := entrance.server.exchange.run operations } }

/-- The operations on the exchange that a move comes down to. -/
def operations (entrance : Entrance) : Move → List Operation
  | .happen happening => entrance.server.operations happening
  | .arrive _ =>
      if Inbox.lengthLimit < entrance.server.exchange.queueCapacity then []
      else [.openMailbox entrance.server.exchange.queueCapacity]
  | .greet connection =>
      match entrance.arrival? connection with
      | none => []
      | some arrival =>
          if arrival.greeted then []
          else [.enqueue connection (entrance.server.greeting arrival.identity).frame]
  | .enroll connection =>
      match entrance.arrival? connection with
      | none => []
      | some arrival =>
          if arrival.greeted then entrance.server.exchange.enrolling arrival.identity connection
          else []
  | .share operation _ => [operation]

/-- Make a move. -/
def step (entrance : Entrance) (move : Move) : Entrance :=
  match move with
  | .happen happening => { entrance with server := entrance.server.step happening }
  | .arrive identity =>
      if Inbox.lengthLimit < entrance.server.exchange.queueCapacity then
        entrance
      else
        let connection := entrance.server.exchange.mailboxes.size
        { entrance.operate (entrance.operations move) with
          arrivals := entrance.arrivals ++ [{ identity, connection }] }
  | .greet connection =>
      match entrance.arrival? connection with
      | none => entrance
      | some arrival =>
          { entrance.operate (entrance.operations move) with
            arrivals := entrance.arrivals.map fun other =>
              if other.connection = connection then { arrival with greeted := true } else other }
  | .enroll connection =>
      match entrance.arrival? connection with
      | none => entrance
      | some arrival =>
          if arrival.greeted then
            { server := entrance.server.enroll arrival.identity connection
              arrivals := entrance.arrivals.filter fun other => other.connection ≠ connection }
          else
            entrance
  | .share _ _ => entrance.operate (entrance.operations move)

/-- The entrance after a list of moves. -/
def run (entrance : Entrance) (moves : List Move) : Entrance :=
  moves.foldl step entrance

/-- The operations on the exchange that a list of moves comes down to. -/
def trace : Entrance → List Move → List Operation
  | _, [] => []
  | entrance, move :: rest => entrance.operations move ++ (entrance.step move).trace rest

variable {entrance : Entrance} {identity : Identity} {connection : Connection}

/-- On a server where nothing else is done, everything happens at once. -/
theorem run_happen (entrance : Entrance) (happenings : List Happening) :
    entrance.run (happenings.map .happen) =
      { entrance with server := entrance.server.run happenings } := by
  induction happenings generalizing entrance with
  | nil => rfl
  | cons happening rest ih => exact ih _

theorem mem_of_arrival? {arrival : Arrival} (found : entrance.arrival? connection = some arrival) :
    arrival ∈ entrance.arrivals ∧ arrival.connection = connection :=
  ⟨List.mem_of_find?_eq_some found, by simpa using List.find?_some found⟩

theorem step_greet {arrival : Arrival} (found : entrance.arrival? connection = some arrival) :
    entrance.step (.greet connection) =
      { entrance.operate (entrance.operations (.greet connection)) with
        arrivals := entrance.arrivals.map fun other =>
          if other.connection = connection then { arrival with greeted := true } else other } := by
  rw [step, found]

theorem step_enroll {arrival : Arrival} (found : entrance.arrival? connection = some arrival)
    (greeted : arrival.greeted = true) :
    entrance.step (.enroll connection) =
      { server := entrance.server.enroll arrival.identity connection
        arrivals := entrance.arrivals.filter fun other => other.connection ≠ connection } := by
  rw [step, found]
  exact if_pos greeted

/-- A WebSocket is accepted by the three steps, one after the other. -/
theorem step_accept
    (inside : ∀ arrival ∈ entrance.arrivals,
      arrival.connection < entrance.server.exchange.mailboxes.size)
    (usable : ¬Inbox.lengthLimit < entrance.server.exchange.queueCapacity) :
    let connection := entrance.server.exchange.mailboxes.size
    let moves : List Move := [.arrive identity, .greet connection, .enroll connection]
    entrance.step (.happen (.accept identity)) = entrance.run moves ∧
      entrance.operations (.happen (.accept identity)) = entrance.trace moves := by
  intro connection moves
  have apart : ∀ arrival ∈ entrance.arrivals, arrival.connection ≠ connection :=
    fun arrival listed => Nat.ne_of_lt (inside arrival listed)
  have unfound : entrance.arrivals.find? (fun arrival => arrival.connection = connection) =
      none := by
    simpa using apart
  have unmoved (changed : Arrival) : (entrance.arrivals.map fun other =>
      if other.connection = connection then changed else other) = entrance.arrivals := by
    rw [List.map_congr_left fun other listed => if_neg (apart other listed), List.map_id']
  let first : Arrival := { identity, connection }
  let second : Arrival := { identity, connection, greeted := true }
  let opened : Entrance :=
    { entrance.operate [.openMailbox entrance.server.exchange.queueCapacity] with
      arrivals := entrance.arrivals ++ [first] }
  let greeted : Entrance :=
    { entrance.operate (entrance.server.opening identity) with
      arrivals := entrance.arrivals ++ [second] }
  have arriving : entrance.operations (.arrive identity) =
      [.openMailbox entrance.server.exchange.queueCapacity] :=
    if_neg usable
  have arrives : entrance.step (.arrive identity) = opened := by
    rw [step, if_neg usable, arriving]
  have waits : opened.arrival? connection = some first := by
    simp [arrival?, opened, unfound, first]
  have greeting : opened.operations (.greet connection) =
      [.enqueue connection (entrance.server.greeting identity).frame] := by
    rw [operations, waits]
    rfl
  have greets : opened.step (.greet connection) = greeted := by
    rw [step_greet waits, greeting]
    simp [opened, first, unmoved, greeted, second]
    rfl
  have waitsGreeted : greeted.arrival? connection = some second := by
    simp [arrival?, greeted, unfound, second]
  have enrolling : greeted.operations (.enroll connection) =
      (entrance.server.exchange.run (entrance.server.opening identity)).enrolling identity
        connection := by
    rw [operations, waitsGreeted]
    rfl
  have enrolls : greeted.step (.enroll connection) =
      { entrance with server := entrance.server.accept identity } := by
    have others : greeted.arrivals.filter (fun other => other.connection ≠ connection) =
        entrance.arrivals := by
      simpa [greeted, second] using apart
    rw [step_enroll waitsGreeted rfl, Server.accept_eq usable, others]
    rfl
  constructor
  · calc
      entrance.step (.happen (.accept identity)) = greeted.step (.enroll connection) :=
        enrolls.symm
      _ = entrance.run moves := by
        rw [← greets, ← arrives]
        rfl
  · have traced : entrance.trace moves =
        entrance.operations (.arrive identity) ++ (opened.operations (.greet connection) ++
          (greeted.operations (.enroll connection) ++ [])) := by
      rw [← greets, ← arrives]
      rfl
    rw [traced, arriving, greeting, enrolling, operations, Server.operations, if_neg usable]
    simp [Server.opening, connection]

end Entrance

end Switchboard
