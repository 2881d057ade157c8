import Switchboard.Network.Address
import Switchboard.Vocabulary

/-!
# Settings

What can be chosen for a server. Settings are usable when no quantity that
has to be positive is zero, every path begins with a slash, and the vocabulary
gives every verb a label of its own. The first of these rules that is broken
is reported.
-/

namespace Switchboard

open Switchboard.Network

/-- The quantities that have to be positive, in the order of the check. -/
inductive Quantity
  | queueCapacity
  | hubCapacity
  | maxMessageSize
  | pingInterval
  deriving DecidableEq, Repr

namespace Quantity

/-- The name of a quantity in messages. -/
def name : Quantity → String
  | queueCapacity => "queue capacity"
  | hubCapacity => "hub capacity"
  | maxMessageSize => "max message size"
  | pingInterval => "ping interval"

end Quantity

/-- The paths under which a server answers, in the order of the check. -/
inductive Route
  | websocket
  | liveness
  | readiness
  deriving DecidableEq, Repr

namespace Route

/-- The name of a path in messages. -/
def name : Route → String
  | websocket => "websocket path"
  | liveness => "liveness path"
  | readiness => "readiness path"

end Route

/-- Why settings are unusable. -/
inductive SettingsError
  | zero (quantity : Quantity)
  | relativePath (route : Route) (path : String)
  | unusableVocabulary
  deriving DecidableEq, Repr

namespace SettingsError

/-- The wording of the error. -/
def message : SettingsError → String
  | zero quantity => quantity.name ++ " must be greater than zero"
  | relativePath route path => route.name ++ " must start with '/', got '" ++ path ++ "'"
  | unusableVocabulary => "message type strings must be non-empty and distinct"

end SettingsError

/-- A stretch of time, in nanoseconds. -/
abbrev Duration := Nat

/-- A number of seconds. -/
def Duration.ofSeconds (seconds : Nat) : Duration :=
  seconds * 1000000000

/-- The choices for a server. -/
structure Settings where
  listen : SocketAddress := { address := .octets 0 0 0 0, port := 8080 }
  shutdownTimeout : Duration := .ofSeconds 30
  websocketPath : String := "/ws"
  maxMessageSize : Nat := 1048576
  pingInterval : Duration := .ofSeconds 30
  livenessPath : String := "/health/live"
  readinessPath : String := "/health/ready"
  queueCapacity : Nat := 256
  hubCapacity : Nat := 1024
  vocabulary : Vocabulary := .standard

namespace Settings

/-- The value of a quantity. -/
def quantity (settings : Settings) : Quantity → Nat
  | .queueCapacity => settings.queueCapacity
  | .hubCapacity => settings.hubCapacity
  | .maxMessageSize => settings.maxMessageSize
  | .pingInterval => settings.pingInterval

/-- The path of a route. -/
def path (settings : Settings) : Route → String
  | .websocket => settings.websocketPath
  | .liveness => settings.livenessPath
  | .readiness => settings.readinessPath

/-- The first quantity that is zero. -/
def zeroQuantity? (settings : Settings) : Option Quantity :=
  [Quantity.queueCapacity, .hubCapacity, .maxMessageSize, .pingInterval].find? fun quantity =>
    settings.quantity quantity = 0

/-- The first path that does not begin with a slash. -/
def relativeRoute? (settings : Settings) : Option Route :=
  [Route.websocket, .liveness, .readiness].find? fun route =>
    (settings.path route).toList.head? ≠ some '/'

/-- Usable settings are returned as they are. -/
def validate (settings : Settings) : Except SettingsError Settings :=
  match settings.zeroQuantity? with
  | some quantity => .error (.zero quantity)
  | none =>
      match settings.relativeRoute? with
      | some route => .error (.relativePath route (settings.path route))
      | none =>
          if settings.vocabulary.isUsable then
            .ok settings
          else
            .error .unusableVocabulary

end Settings

end Switchboard
