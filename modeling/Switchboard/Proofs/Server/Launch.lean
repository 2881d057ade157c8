import Switchboard.Proofs.Http
import Switchboard.Proofs.Server.Sessions
import Switchboard.Proofs.Settings

/-!
# Where valid settings lead

The check of settings looks at each of them by itself. It keeps quantities from
being zero, but not from being too large, and it does not compare paths. So a
server with valid settings starts only if its lines are not too long and its
paths differ, and it accepts WebSockets only if their queues are not too long.
Where no path has markers in it, nothing else is in the way, and requests for a
path are served by its own route unless a query or a fragment begins in it.
-/

namespace Switchboard

namespace Server

variable {arrangement : Arrangement} {server : Server} {identity : Identity}

/-- A queue is set up for a WebSocket unless it is too long. -/
theorem size_lt_accept_iff :
    server.exchange.mailboxes.size < (server.accept identity).exchange.mailboxes.size ↔
      server.exchange.queueCapacity ≤ Inbox.lengthLimit := by
  constructor
  · intro opened
    by_contra tooLong
    rw [accept, if_pos (Nat.lt_of_not_le tooLong)] at opened
    exact Nat.lt_irrefl _ opened
  · intro usable
    let mailbox := Mailbox.ofCapacity server.exchange.queueCapacity
    let greeting : Operation :=
      .enqueue server.exchange.mailboxes.size (server.greeting identity).frame
    have opened : (server.exchange.openMailbox mailbox).2.mailboxes.size =
        server.exchange.mailboxes.size + 1 :=
      Array.size_push _
    have greeted : server.exchange.run (server.opening identity) =
        (server.exchange.openMailbox mailbox).2.run [greeting] :=
      rfl
    rw [accept_eq (Nat.not_lt.mpr usable), exchange_enroll]
    dsimp only
    rw [greeted]
    calc
      server.exchange.mailboxes.size < (server.exchange.openMailbox mailbox).2.mailboxes.size := by
        rw [opened]
        exact Nat.lt_succ_self _
      _ ≤ ((server.exchange.openMailbox mailbox).2.run [greeting]).mailboxes.size :=
        Exchange.size_mailboxes_run _ _
      _ ≤ _ := Exchange.size_mailboxes_run _ _

/-- Nothing that happens at a server changes the capacity of its queues. -/
theorem queueCapacity_run {settings : Settings}
    (started : start settings arrangement = .ok server) (happenings : List Happening) :
    (server.run happenings).exchange.queueCapacity = settings.queueCapacity := by
  have tended := (Entrance.Tended.of_started started).run (happenings.map .happen)
  have setUp := tended.setUp.2
  rwa [Entrance.run_happen] at setUp

end Server

/-- Valid settings are positive where they have to be, and all their paths begin
with a slash. A server starts with them only if its lines are not too long and
its paths differ, and sets up queues for WebSockets exactly if these are not too
long, whatever happens. If the paths have no markers in them, a server whose
lines are not too long and whose paths differ does start, and requests for a path
in which no query or fragment begins are served by its own route. -/
theorem valid_settings_start {settings valid : Settings}
    (accepted : settings.validate = .ok valid) (arrangement : Arrangement) :
    (valid = settings ∧ (∀ quantity, 0 < valid.quantity quantity) ∧
        ∀ route, (valid.path route).toList.head? = some '/') ∧
      (∀ server, Server.start valid arrangement = .ok server →
        valid.hubCapacity ≤ Inbox.lengthLimit ∧ Function.Injective valid.path ∧
          ∀ happenings identity,
            (server.run happenings).exchange.mailboxes.size <
                ((server.run happenings).accept identity).exchange.mailboxes.size ↔
              valid.queueCapacity ≤ Inbox.lengthLimit) ∧
      ((∀ route, Http.IsPlain (valid.path route)) → valid.hubCapacity ≤ Inbox.lengthLimit →
        Function.Injective valid.path →
          ∃ server, Server.start valid arrangement = .ok server ∧
            ∀ route, (valid.path route).toList.any Http.Target.endsPath = false →
              ∀ exchange request, Http.Request.IsFor request (valid.path route) →
                Http.route server.router exchange request =
                  Http.serve exchange request route) := by
  obtain ⟨rfl, positive, absolute, _⟩ := Settings.validate_eq_ok_iff.mp accepted
  refine ⟨⟨rfl, positive, absolute⟩, ?_, ?_⟩
  · intro server started
    obtain ⟨short, router, made, _⟩ := Server.start_eq_ok_iff.mp started
    refine ⟨short, Http.Router.path_injective_of_ofSettings made, fun happenings identity => ?_⟩
    rw [Server.size_lt_accept_iff, Server.queueCapacity_run started]
  · intro plain short distinct
    have startable : valid.IsStartable := ⟨short, plain, absolute, distinct⟩
    refine ⟨_, Server.start_eq_plain startable, fun route whole exchange request isFor => ?_⟩
    exact Http.route_eq_serve isFor (absolute route) whole (Server.find?_plain distinct route)
      exchange

/-- With the usual settings a server starts, and says that it is alive to whoever
asks for the path of that route. -/
theorem valid_settings_start_usual :
    let settings : Settings := {}
    let request : Http.Request := { target := "/health/live?verbose" }
    settings.validate = .ok settings ∧ request.IsFor (settings.path .liveness) ∧
      ∃ server, Server.start settings = .ok server ∧
        (∀ exchange, Http.route server.router exchange request =
          .response { status := 200, body := .alive }) ∧
        ∀ identity, 0 < ((server.run []).accept identity).exchange.mailboxes.size := by
  intro settings request
  have accepted : settings.validate = .ok settings :=
    Settings.validate_eq_self (by decide) (by decide) (by decide)
  have startable : settings.IsStartable := Settings.isStartable_of_path_eq rfl (by decide)
  have isFor : request.IsFor (settings.path .liveness) :=
    ⟨"?verbose", by rw [Http.Target.IsBehindPath]; decide, by decide⟩
  have whole : (settings.path .liveness).toList.any Http.Target.endsPath = false := by decide
  obtain ⟨_, opens, starts⟩ := valid_settings_start accepted .byName
  obtain ⟨server, started, served⟩ :=
    starts startable.plain startable.hubCapacity startable.distinct
  refine ⟨accepted, isFor, server, started, fun exchange => ?_, fun identity => ?_⟩
  · rw [served .liveness whole exchange request isFor, Http.serve, if_pos rfl]
    rfl
  · have opened := ((opens server started).2.2 [] identity).mpr (by decide)
    exact Nat.lt_of_le_of_lt (Nat.zero_le _) opened

/-- Settings are valid although two of their paths are the same, or although a
line or a queue is longer than can be set up. No server starts with the first
two, and a server that starts with the third accepts nobody. -/
theorem valid_settings_fail :
    let twice : Settings := { livenessPath := "/ws" }
    let crowded : Settings := { hubCapacity := Inbox.lengthLimit + 1 }
    let roomy : Settings := { queueCapacity := Inbox.lengthLimit + 1 }
    (twice.validate = .ok twice ∧ ∀ server, Server.start twice ≠ .ok server) ∧
      (crowded.validate = .ok crowded ∧ ∀ server, Server.start crowded ≠ .ok server) ∧
      roomy.validate = .ok roomy ∧
        ∃ server, Server.start roomy = .ok server ∧
          ∀ identity, server.accept identity = server := by
  intro twice crowded roomy
  refine ⟨⟨?_, ?_⟩, ⟨?_, ?_⟩, ?_, Server.plain roomy, ?_, ?_⟩
  · exact Settings.validate_eq_self (by decide) (by decide) (by decide)
  · intro server started
    obtain ⟨_, _, made, _⟩ := Server.start_eq_ok_iff.mp started
    have shared : twice.path .websocket = twice.path .liveness := rfl
    have same := Http.Router.path_injective_of_ofSettings made shared
    contradiction
  · exact Settings.validate_eq_self (by decide) (by decide) (by decide)
  · intro server started
    exact Nat.not_succ_le_self _ (Server.start_eq_ok_iff.mp started).1
  · exact Settings.validate_eq_self (by decide) (by decide) (by decide)
  · exact Server.start_eq_plain (Settings.isStartable_of_path_eq rfl (by decide))
  · exact fun _ => if_pos (Nat.lt_succ_self _)

end Switchboard
