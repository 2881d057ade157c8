import Switchboard.Settings

/-!
# Choices on the command line

Every choice has a flag. Most can also be made by an environment variable,
and most have a standard value. Whether a value can be read is checked when
it is given, and what it means is read off later.
-/

namespace Switchboard.CommandLine

open Switchboard.Text

/-- What can be chosen on the command line. -/
inductive Choice
  | host
  | port
  | listen
  | shutdownTimeout
  | websocketPath
  | maxMessageSize
  | pingInterval
  | queueCapacity
  | hubCapacity
  | livenessPath
  | readinessPath
  | label (verb : Verb)
  | url
  | logLevel
  | logFormat
  deriving DecidableEq, Repr

/-- The tasks of the program. -/
inductive Task
  | serve
  | client
  deriving DecidableEq, Repr

namespace Task

/-- The word for a task. -/
def word : Task → String
  | serve => "serve"
  | client => "client"

/-- The task that a word stands for. -/
def ofWord? (word : String) : Option Task :=
  [serve, client].find? fun task => task.word = word

end Task

namespace Choice

/-- The word for a verb in the flag of its label. -/
def verbWord (verb : Verb) : String :=
  Vocabulary.standard.label verb

/-- The flag, without its dashes. -/
def flag : Choice → String
  | host => "host"
  | port => "port"
  | listen => "listen"
  | shutdownTimeout => "shutdown-timeout"
  | websocketPath => "websocket-path"
  | maxMessageSize => "max-message-size"
  | pingInterval => "ping-interval"
  | queueCapacity => "queue-capacity"
  | hubCapacity => "hub-capacity"
  | livenessPath => "liveness-path"
  | readinessPath => "readiness-path"
  | label verb => "type-" ++ verbWord verb
  | url => "url"
  | logLevel => "log-level"
  | logFormat => "log-format"

/-- The environment variable for the label of a verb. -/
def labelVariable : Verb → String
  | .broadcast => "PROTOCOL_TYPE_BROADCAST"
  | .join => "PROTOCOL_TYPE_JOIN"
  | .leave => "PROTOCOL_TYPE_LEAVE"
  | .offer => "PROTOCOL_TYPE_OFFER"
  | .answer => "PROTOCOL_TYPE_ANSWER"
  | .iceCandidate => "PROTOCOL_TYPE_ICE_CANDIDATE"
  | .list => "PROTOCOL_TYPE_LIST"
  | .me => "PROTOCOL_TYPE_ME"

/-- The environment variable, if there is one. -/
def environmentName? : Choice → Option String
  | host => some "SERVER_HOST"
  | port => some "SERVER_PORT"
  | listen => some "SERVER_LISTEN"
  | shutdownTimeout => some "SERVER_SHUTDOWN_TIMEOUT"
  | websocketPath => some "WEBSOCKET_PATH"
  | maxMessageSize => some "WEBSOCKET_MAX_MESSAGE_SIZE"
  | pingInterval => some "WEBSOCKET_PING_INTERVAL"
  | queueCapacity => some "RELAY_QUEUE_CAPACITY"
  | hubCapacity => some "RELAY_HUB_CAPACITY"
  | livenessPath => some "MONITORING_LIVENESS_PATH"
  | readinessPath => some "MONITORING_READINESS_PATH"
  | label verb => some (labelVariable verb)
  | url => none
  | logLevel => some "LOGGING_LEVEL"
  | logFormat => some "LOGGING_FORMAT"

/-- The choices that every task and the program itself accept. -/
def general : List Choice :=
  [logLevel, logFormat]

/-- The choices of a server. -/
def serving : List Choice :=
  [host, port, listen, shutdownTimeout, websocketPath, maxMessageSize, pingInterval,
    queueCapacity, hubCapacity, livenessPath, readinessPath] ++ Verb.all.map label

/-- The choices of a task, in the order in which variables are looked at. -/
def ofTask : Task → List Choice
  | .serve => serving ++ general
  | .client => url :: general

/-- All choices. -/
def all : List Choice :=
  serving ++ url :: general

end Choice

/-- How log lines are written. -/
inductive LogFormat
  | text
  | json
  deriving DecidableEq, Repr

namespace LogFormat

/-- The word for a format. -/
def word : LogFormat → String
  | text => "text"
  | json => "json"

/-- The format that a word stands for. -/
def ofWord? (word : String) : Option LogFormat :=
  [text, json].find? fun format => format.word = word

end LogFormat

/-- The values given for choices: at most one for each. -/
abbrev Assignment := Choice → Option String

namespace Assignment

/-- Read the value of a choice, or take the standard one. -/
def read {α : Type} (assignment : Assignment) (choice : Choice) (read? : String → Option α)
    (standard : α) : α :=
  ((assignment choice).bind read?).getD standard

/-- The text given for a choice, or the standard one. -/
def text (assignment : Assignment) (choice : Choice) (standard : String) : String :=
  (assignment choice).getD standard

end Assignment

/-- A port number. -/
def readPort? (text : String) : Option UInt16 :=
  ((Numeral.readSigned? 63 text).filter (· < 65536)).map UInt16.ofNat

/-- A count, or a number of seconds. -/
def readCount? (text : String) : Option Nat :=
  Numeral.readUnsigned? 64 text

/-- What is wrong with a value. -/
inductive ValueError
  /-- The value is none of the words that are accepted. -/
  | notAccepted
  /-- The value has not the form that is required. -/
  | unreadable
  deriving DecidableEq, Repr

namespace Choice

/-- Check the value given for a choice. -/
def check (choice : Choice) (value : String) : Except ValueError Unit :=
  let readable := match choice with
    | host => (Network.Address.read? value).isSome
    | port => (readPort? value).isSome
    | listen => (Network.SocketAddress.read? value).isSome
    | shutdownTimeout | maxMessageSize | pingInterval | queueCapacity | hubCapacity =>
        (readCount? value).isSome
    | websocketPath | livenessPath | readinessPath | label _ | url | logLevel | logFormat => true
  if choice = logFormat ∧ LogFormat.ofWord? value = none then
    .error .notAccepted
  else if readable then
    .ok ()
  else
    .error .unreadable

end Choice

/-- The settings that an assignment chooses. A socket address wins over host
and port. -/
def Assignment.settings (assignment : Assignment) : Settings :=
  let standard : Settings := {}
  let seconds (choice : Choice) : Duration := .ofSeconds (assignment.read choice readCount? 30)
  let host := assignment.read .host Network.Address.read? standard.listen.address
  let port := assignment.read .port readPort? standard.listen.port
  { listen := assignment.read .listen Network.SocketAddress.read? { address := host, port }
    shutdownTimeout := seconds .shutdownTimeout
    websocketPath := assignment.text .websocketPath standard.websocketPath
    maxMessageSize := assignment.read .maxMessageSize readCount? standard.maxMessageSize
    pingInterval := seconds .pingInterval
    livenessPath := assignment.text .livenessPath standard.livenessPath
    readinessPath := assignment.text .readinessPath standard.readinessPath
    queueCapacity := assignment.read .queueCapacity readCount? standard.queueCapacity
    hubCapacity := assignment.read .hubCapacity readCount? standard.hubCapacity
    vocabulary :=
      { label verb := assignment.text (.label verb) (Vocabulary.standard.label verb) } }

/-- How and what is logged. -/
structure Logging where
  level : String
  format : LogFormat
  deriving DecidableEq, Repr

/-- The logging that an assignment chooses. -/
def Assignment.logging (assignment : Assignment) : Logging where
  level := assignment.text .logLevel "info"
  format := assignment.read .logFormat LogFormat.ofWord? .text

/-- The server that a client connects to. -/
def Assignment.serverUrl (assignment : Assignment) : String :=
  assignment.text .url "ws://127.0.0.1:8080/ws"

end Switchboard.CommandLine
