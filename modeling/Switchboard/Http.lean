import Switchboard.Exchange
import Switchboard.Http.Router
import Switchboard.Http.Target

/-!
# The HTTP side of a server

A server has three routes: one upgrades to a WebSocket, one says that the
server is alive, and one says whether it is ready and what it is doing. Only
the method `GET` is answered, and `HEAD` like it but without a body.
-/

namespace Switchboard.Http

/-- A request. -/
structure Request where
  method : String := "GET"
  target : String
  headers : List (String × String) := []
  deriving DecidableEq, Repr

/-- The state of a server, in numbers. -/
structure Summary where
  connections : Nat
  rooms : Nat
  events : Tally
  deriving DecidableEq, Repr

/-- What is sent back. -/
inductive Body
  | empty
  | text (text : String)
  /-- The server is alive. -/
  | alive
  /-- Whether the server is ready, and what it is doing. -/
  | readiness (running : Bool) (summary : Summary)
  deriving DecidableEq, Repr

/-- An answer. -/
structure Response where
  status : Nat
  body : Body := .empty
  deriving DecidableEq, Repr

/-- What a request leads to. -/
inductive Outcome
  | response (response : Response)
  /-- The connection becomes a WebSocket. -/
  | upgrade
  deriving DecidableEq, Repr

namespace Request

/-- The path of a request. -/
def path (request : Request) : String :=
  Target.path request.target

/-- The value of a header. Names of headers are compared without case. -/
def header? (request : Request) (name : String) : Option String :=
  (request.headers.find? fun header => header.1.map Char.toLower = name).map Prod.snd

/-- Whether a header has a value, compared without case. -/
def headerIs (request : Request) (name value : String) : Bool :=
  (request.header? name).any fun given => given.map Char.toLower = value

/-- Whether some characters contain others in a row. -/
def occursIn (wanted : List Char) : List Char → Bool
  | [] => wanted.isEmpty
  | character :: rest => wanted.isPrefixOf (character :: rest) || occursIn wanted rest

/-- Whether the value of a header contains a text, compared without case. -/
def headerContains (request : Request) (name value : String) : Bool :=
  (request.header? name).any fun given =>
    occursIn value.toList (given.map Char.toLower).toList

end Request

/-- A refusal of a WebSocket. -/
def refusal (status : Nat) (reason : String) : Outcome :=
  .response { status, body := .text reason }

/-- The handshake of a WebSocket. -/
def handshake (request : Request) : Outcome :=
  if request.method ≠ "GET" then
    refusal 405 "Request method must be `GET`"
  else if ¬ request.headerContains "connection" "upgrade" then
    refusal 400 "Connection header did not include 'upgrade'"
  else if ¬ request.headerIs "upgrade" "websocket" then
    refusal 400 "`Upgrade` header did not include 'websocket'"
  else if ¬ request.headerIs "sec-websocket-version" "13" then
    refusal 400 "`Sec-WebSocket-Version` header did not include '13'"
  else if (request.header? "sec-websocket-key").isNone then
    refusal 400 "`Sec-WebSocket-Key` header missing"
  else
    .upgrade

/-- The state of an exchange, in numbers. -/
def summary (exchange : Exchange) : Summary where
  connections := exchange.directory.size
  rooms := exchange.rooms.count
  events := exchange.tally

/-- What a route answers. -/
def outcome (exchange : Exchange) (request : Request) : Route → Outcome
  | .websocket => handshake request
  | .liveness => .response { status := 200, body := .alive }
  | .readiness =>
      .response
        { status := if exchange.running then 200 else 503
          body := .readiness exchange.running (summary exchange) }

/-- The answer without its body. -/
def Outcome.withoutBody : Outcome → Outcome
  | response answer => response { answer with body := .empty }
  | upgrade => upgrade

/-- What a request leads to whose route is known. -/
def serve (exchange : Exchange) (request : Request) (route : Route) : Outcome :=
  if request.method = "GET" then
    outcome exchange request route
  else if request.method = "HEAD" then
    (outcome exchange request route).withoutBody
  else
    .response { status := 405 }

/-- What a request leads to. -/
def route (router : Router) (exchange : Exchange) (request : Request) : Outcome :=
  match router.find? request.path with
  | none => .response { status := 404 }
  | some found => serve exchange request found

/-- The answer to a request on a connection that cannot become a WebSocket. -/
def respond (router : Router) (exchange : Exchange) (request : Request) : Response :=
  match route router exchange request with
  | .response answer => answer
  | .upgrade =>
      { status := 426
        body := .text
          "WebSocket request couldn't be upgraded since no upgrade state was present" }

end Switchboard.Http
