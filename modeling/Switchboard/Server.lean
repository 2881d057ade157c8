import Switchboard.Exchange.Inbox
import Switchboard.Exchange.Dispatch
import Switchboard.Http
import Switchboard.Network.Host

/-!
# Servers and their sessions

A server starts when its address can be bound, its lines of waiting requests
are not too long, and its routes do not conflict.

A session is one WebSocket. When it is accepted its greeting is queued before
its connection is registered, so nothing can come before the greeting. From
then on its reader hands every message to the exchange, and its writer sends
what is queued, one frame at a time. When either side ends, the connection is
taken out of the exchange, and the writer sends what is left before it closes
the socket.

Between frames a writer sends pings. They are left out, since they neither come
from a mailbox nor go into one. Where a ping fails the session ends, as it does
where a frame cannot be sent: its socket is gone.
-/

namespace Switchboard

/-- A message on a WebSocket. -/
inductive Message
  | text (text : String)
  | binary (bytes : Bytes)
  | ping
  | close
  deriving DecidableEq, Repr

namespace Message

/-- A frame goes out as text if it is one. -/
def ofFrame (frame : Bytes) : Message :=
  match Text.ofUtf8? frame with
  | some content => text content
  | none => binary frame

/-- The frame that comes in with a message. -/
def frame? : Message → Option Bytes
  | text content => some (Text.utf8 content)
  | binary bytes => some bytes
  | ping | close => none

end Message

/-- How far a session has come. -/
inductive Phase
  | active
  /-- The reader has ended, and the writer sends what is left. -/
  | draining
  | over
  deriving DecidableEq, Repr

/-- One WebSocket. -/
structure Session where
  identity : Identity
  connection : Connection
  phase : Phase := .active
  /-- What the client has been sent, oldest first. -/
  sent : List Message := []
  deriving DecidableEq, Repr

/-- A running server. -/
structure Server where
  settings : Settings := {}
  router : Http.Router := {}
  exchange : Exchange := {}
  sessions : List Session := []

/-- Why a server does not start. -/
inductive StartError
  | unbindable (address : Network.SocketAddress)
  /-- The lines of waiting requests are longer than can be counted. -/
  | linesTooLong
  | pattern (error : Http.PatternError)
  deriving DecidableEq, Repr

/-- What can happen at a server. -/
inductive Happening
  /-- A WebSocket is accepted under a new identity. -/
  | accept (identity : Identity)
  /-- A message comes in. -/
  | message (connection : Connection) (message : Message)
  /-- The socket of a session is gone, or takes no frame and no ping any more. -/
  | hangUp (connection : Connection)
  /-- The writer of a session sends the next frame, if there is one. -/
  | write (connection : Connection)
  | broadcast (frame : Bytes)
  | deliver (identity : Identity) (frame : Bytes)
  | unregister (identity : Identity)
  deriving DecidableEq, Repr

namespace Server

/-- A server without sessions. -/
def start (settings : Settings) (arrangement : Arrangement := .byName) :
    Except StartError Server :=
  if Inbox.lengthLimit < settings.hubCapacity then
    .error .linesTooLong
  else
    match Http.Router.ofSettings settings with
    | .error error => .error (.pattern error)
    | .ok router =>
        .ok
          { settings
            router
            exchange :=
              { vocabulary := settings.vocabulary, queueCapacity := settings.queueCapacity,
                arrangement } }

/-- A server without sessions, which listens at its address. -/
def bind (host : Network.Host) (settings : Settings) : Except StartError Server :=
  if host.canBind settings.listen then
    start settings
  else
    .error (.unbindable settings.listen)

/-- The session of a connection. -/
def session? (server : Server) (connection : Connection) : Option Session :=
  server.sessions.find? fun session => session.connection = connection

/-- Replace the session of a connection. -/
def putSession (server : Server) (session : Session) : Server :=
  { server with
    sessions := server.sessions.map fun other =>
      if other.connection = session.connection then session else other }

/-- The greeting by which a client learns its identity. -/
def greeting (server : Server) (identity : Identity) : Notice :=
  server.exchange.meNotice identity

/-- Accept a WebSocket. Nothing is kept of it if its queue is too long to be
set up, or if it cannot be registered. -/
def accept (server : Server) (identity : Identity) : Server :=
  if Inbox.lengthLimit < server.exchange.queueCapacity then
    server
  else
    let mailbox := Mailbox.ofCapacity server.exchange.queueCapacity
    let (connection, opened) := server.exchange.openMailbox mailbox
    let greeted := match opened.enqueue connection (server.greeting identity).frame with
      | .ok next => next
      | .error _ => opened
    match greeted.register identity connection with
    | (.ok (), exchange) =>
        let session : Session := { identity, connection }
        { server with exchange, sessions := server.sessions ++ [session] }
    | (.error _, exchange) =>
        { server with exchange := exchange.modifyMailbox connection Mailbox.abandon }

/-- End the reader of a session and take its connection out of the exchange. -/
def tearDown (server : Server) (session : Session) (phase : Phase) : Server :=
  let exchange := match session.phase with
    | .active => (server.exchange.disconnect session.identity).2
    | .draining | .over => server.exchange
  { server with exchange }.putSession { session with phase }

/-- Hand a message to the exchange. A message that is too long ends the
session, and so does a closing one. -/
def receive (server : Server) (session : Session) (message : Message) : Server :=
  match session.phase with
  | .draining | .over => server
  | .active =>
      match message, message.frame? with
      | .close, _ => server.tearDown session .draining
      | _, none => server
      | _, some frame =>
          if server.settings.maxMessageSize < frame.length then
            server.tearDown session .draining
          else
            { server with exchange := server.exchange.handle session.identity frame }

/-- Send the next queued frame. At the end of the queue the socket is closed. -/
def write (server : Server) (session : Session) : Server :=
  if session.phase = .over then
    server
  else
    match server.exchange.mailboxes[session.connection]? with
    | none => server
    | some mailbox =>
        match mailbox.receive with
        | (.frame frame, rest) =>
            let exchange := server.exchange.modifyMailbox session.connection fun _ => rest
            { server with exchange }.putSession
              { session with sent := session.sent ++ [Message.ofFrame frame] }
        | (.pending, _) => server
        | (.ended, _) =>
            server.tearDown { session with sent := session.sent ++ [Message.close] } .over

/-- Let something happen. -/
def step (server : Server) : Happening → Server
  | .accept identity => server.accept identity
  | .message connection message =>
      match server.session? connection with
      | none => server
      | some session => server.receive session message
  | .hangUp connection =>
      match server.session? connection with
      | none => server
      | some session =>
          let ended := server.tearDown session .over
          { ended with exchange := ended.exchange.modifyMailbox connection Mailbox.abandon }
  | .write connection =>
      match server.session? connection with
      | none => server
      | some session => server.write session
  | .broadcast frame => { server with exchange := (server.exchange.broadcast frame none).2 }
  | .deliver identity frame =>
      { server with exchange := (server.exchange.deliver identity frame).2 }
  | .unregister identity =>
      { server with exchange := (server.exchange.unregister identity).2 }

/-- The server after a list of happenings. -/
def run (server : Server) (happenings : List Happening) : Server :=
  happenings.foldl step server

/-- Let every writer send all that is queued. -/
def flush (server : Server) : Server :=
  server.run <| server.sessions.flatMap fun session =>
    let queued := (server.exchange.mailboxes[session.connection]?).elim 0 fun mailbox =>
      mailbox.queued.size
    List.replicate (queued + 1) (.write session.connection)

/-- The notice that a server sends to everybody before it stops. -/
def farewell : Notice :=
  .error ⟨"server"⟩ "relay shutting down"

/-- Open a WebSocket under a path. A refusal names the status of the answer,
unless nothing was reached that could answer. -/
def openSocket (server : Server) (host : Network.Host) (path : String) (identity : Identity) :
    Except (Option Nat) Server :=
  if host.isConnected then
    let headers :=
      [("connection", "Upgrade"), ("upgrade", "websocket"), ("sec-websocket-version", "13"),
        ("sec-websocket-key", "")]
    match Http.route server.router server.exchange { target := path, headers } with
    | .response answer => .error (some answer.status)
    | .upgrade => .ok (server.accept identity)
  else
    .error none

end Server

end Switchboard
