import Switchboard.Server
import Switchboard.Proofs.Exchange.Step
import Switchboard.Proofs.Http.Router

/-!
# How a server starts

A server starts when its lines of waiting requests are not too long and its
router can be made. Where no path has markers in it, a router can be made when
all paths differ and begin with a slash, and then each of them leads to its own
route.
-/

namespace Switchboard

/-- The lengths of lines and the paths of some settings are such that a server can
start. -/
structure Settings.IsStartable (settings : Settings) : Prop where
  hubCapacity : settings.hubCapacity ≤ Inbox.lengthLimit
  plain : ∀ route, Http.IsPlain (settings.path route)
  absolute : ∀ route, (settings.path route).toList.head? = some '/'
  distinct : Function.Injective settings.path

namespace Server

variable {settings : Settings} {arrangement : Arrangement} {server : Server}

theorem start_eq_ok_iff :
    start settings arrangement = .ok server ↔ settings.hubCapacity ≤ Inbox.lengthLimit ∧
      ∃ router, Http.Router.ofSettings settings = .ok router ∧
        server =
          { settings
            router
            exchange := .start settings.vocabulary settings.queueCapacity arrangement } := by
  rw [start]
  split
  · rename_i tooLong
    simp [Nat.not_le.mpr tooLong]
  · rename_i usable
    cases made : Http.Router.ofSettings settings with
    | error => simp
    | ok router => simp [Nat.not_lt.mp usable, Exchange.start, eq_comm]

/-- The server with some settings, whose paths have no markers in them. -/
def plain (settings : Settings) (arrangement : Arrangement := .byName) : Server where
  settings := settings
  router := { table := Http.Router.plainTable settings [.websocket, .liveness, .readiness] }
  exchange := .start settings.vocabulary settings.queueCapacity arrangement

theorem start_eq_plain (startable : settings.IsStartable) :
    start settings arrangement = .ok (plain settings arrangement) :=
  start_eq_ok_iff.mpr ⟨startable.hubCapacity, _,
    Http.Router.ofSettings_eq_ok startable.plain startable.absolute startable.distinct, rfl⟩

theorem find?_plain (distinct : Function.Injective settings.path) (route : Route) :
    (plain settings).router.find? (settings.path route) = some route := by
  apply Http.Router.find?_path distinct
  cases route <;> decide

end Server

/-- The usual paths are different, and there are no markers in them. -/
theorem Settings.isStartable_of_path_eq {settings : Settings}
    (usual : settings.path = Settings.path {})
    (hubCapacity : settings.hubCapacity ≤ Inbox.lengthLimit) : settings.IsStartable where
  hubCapacity := hubCapacity
  plain := by
    rw [usual]
    intro route
    rw [Http.IsPlain]
    cases route <;> decide +kernel
  absolute := by
    rw [usual]
    intro route
    cases route <;> decide
  distinct := by
    rw [usual]
    intro first second same
    cases first <;> cases second <;> first | rfl | exact absurd same (by decide)

end Switchboard
