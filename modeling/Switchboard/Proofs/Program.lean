import Switchboard.Program
import Switchboard.Proofs.CommandLine.Origin
import Switchboard.Proofs.Settings

/-!
# Settings follow choices

Settings are composed, field by field, of what the choices yield: each field has
a choice of its own, and the eight labels have one each. A server is asked for
with the settings composed if they pass the check, and otherwise the broken rule
is reported, whatever the order of the flags is.
-/

namespace Switchboard

open CommandLine Network

variable {environment : Environment} {chosen : List (Choice × String)}

attribute [ext] Vocabulary Settings Logging

/-! ## Composition -/

/-- Every setting is what its own choice yields. Without a socket address, address
and port of the host make one. -/
structure Settings.IsComposed (settings : Settings) (environment : Environment)
    (chosen : List (Choice × String)) : Prop where
  listen : ∃ address port,
    Yields environment chosen .host Address.read? (.octets 0 0 0 0) address ∧
      Yields environment chosen .port readPort? 8080 port ∧
      Yields environment chosen .listen SocketAddress.read? { address, port } settings.listen
  shutdownTimeout : YieldsSeconds environment chosen .shutdownTimeout 30 settings.shutdownTimeout
  websocketPath : Yields environment chosen .websocketPath some "/ws" settings.websocketPath
  maxMessageSize :
    Yields environment chosen .maxMessageSize readCount? 1048576 settings.maxMessageSize
  pingInterval : YieldsSeconds environment chosen .pingInterval 30 settings.pingInterval
  livenessPath : Yields environment chosen .livenessPath some "/health/live" settings.livenessPath
  readinessPath :
    Yields environment chosen .readinessPath some "/health/ready" settings.readinessPath
  queueCapacity : Yields environment chosen .queueCapacity readCount? 256 settings.queueCapacity
  hubCapacity : Yields environment chosen .hubCapacity readCount? 1024 settings.hubCapacity
  label : ∀ verb, Yields environment chosen (.label verb) some (Vocabulary.standard.label verb)
    (settings.vocabulary.label verb)

/-- What is logged, and how, is what the two choices for it yield. -/
structure CommandLine.Logging.IsComposed (logging : Logging) (environment : Environment)
    (chosen : List (Choice × String)) : Prop where
  level : Yields environment chosen .logLevel some "info" logging.level
  format : Yields environment chosen .logFormat LogFormat.ofWord? .text logging.format

theorem Settings.IsComposed.unique {first second : Settings} (once : (chosen.map Prod.fst).Nodup)
    (isFirst : first.IsComposed environment chosen)
    (isSecond : second.IsComposed environment chosen) : first = second := by
  have sameListen : first.listen = second.listen := by
    obtain ⟨address, port, isAddress, isPort, isListen⟩ := isFirst.listen
    obtain ⟨otherAddress, otherPort, isAddressToo, isPortToo, isListenToo⟩ := isSecond.listen
    cases isAddress.unique once isAddressToo
    cases isPort.unique once isPortToo
    exact isListen.unique once isListenToo
  have sameVocabulary : first.vocabulary = second.vocabulary :=
    Vocabulary.ext (funext fun verb => (isFirst.label verb).unique once (isSecond.label verb))
  apply Settings.ext sameListen
  · exact isFirst.shutdownTimeout.unique once isSecond.shutdownTimeout
  · exact isFirst.websocketPath.unique once isSecond.websocketPath
  · exact isFirst.maxMessageSize.unique once isSecond.maxMessageSize
  · exact isFirst.pingInterval.unique once isSecond.pingInterval
  · exact isFirst.livenessPath.unique once isSecond.livenessPath
  · exact isFirst.readinessPath.unique once isSecond.readinessPath
  · exact isFirst.queueCapacity.unique once isSecond.queueCapacity
  · exact isFirst.hubCapacity.unique once isSecond.hubCapacity
  · exact sameVocabulary

theorem CommandLine.Logging.IsComposed.unique {first second : Logging}
    (once : (chosen.map Prod.fst).Nodup) (isFirst : first.IsComposed environment chosen)
    (isSecond : second.IsComposed environment chosen) : first = second := by
  apply Logging.ext
  · exact isFirst.level.unique once isSecond.level
  · exact isFirst.format.unique once isSecond.format

namespace CommandLine

theorem isComposed_settings (accepts : Task.serve.Accepts environment chosen) :
    (assignment environment chosen.reverse []).settings.IsComposed environment chosen where
  listen := ⟨_, _, yields_read accepts (by decide) Choice.isReadBy_host,
    yields_read accepts (by decide) Choice.isReadBy_port,
    yields_read accepts (by decide) Choice.isReadBy_listen⟩
  shutdownTimeout := ⟨_, yields_number accepts (by decide) (by decide), rfl⟩
  websocketPath := yields_text accepts (by decide)
  maxMessageSize := yields_number accepts (by decide) (by decide)
  pingInterval := ⟨_, yields_number accepts (by decide) (by decide), rfl⟩
  livenessPath := yields_text accepts (by decide)
  readinessPath := yields_text accepts (by decide)
  queueCapacity := yields_number accepts (by decide) (by decide)
  hubCapacity := yields_number accepts (by decide) (by decide)
  label verb := yields_text accepts (by simp [Choice.ofTask, Choice.serving, Verb.mem_all])

theorem isComposed_logging (accepts : Task.serve.Accepts environment chosen) :
    (assignment environment chosen.reverse []).logging.IsComposed environment chosen where
  level := yields_text accepts (by decide)
  format := yields_read accepts (by decide) Choice.isReadBy_logFormat

end CommandLine

/-! ## Invocations -/

namespace Program

theorem invocation_line (accepts : Task.serve.Accepts environment chosen) :
    let assignment := assignment environment chosen.reverse []
    invocation environment (Task.serve.line chosen) =
      (assignment.settings.validate.map (.serve assignment.logging)).mapError .settings := by
  intro assignment
  rw [invocation, read_line accepts]
  dsimp only
  cases assignment.settings.validate <;> rfl

/-- No two choices share a flag or a variable, and there is one way to compose
settings of what the choices yield. Whatever the order of the flags is, the
settings composed are checked: if they are usable a server is asked for, and
otherwise the error is reported. -/
theorem settings_follow_choices (accepts : Task.serve.Accepts environment chosen) :
    (Function.Injective Choice.flag ∧ Function.Injective Choice.environmentName?) ∧
      (∃! settings : Settings, settings.IsComposed environment chosen) ∧
      (∃! logging : Logging, logging.IsComposed environment chosen) ∧
      ∀ (settings : Settings) (logging : Logging), settings.IsComposed environment chosen →
        logging.IsComposed environment chosen → ∀ order : List (Choice × String),
          order.Perm chosen → invocation environment (Task.serve.line order) =
            (settings.validate.map (.serve logging)).mapError .settings := by
  have once := accepts.once
  have composed := isComposed_settings accepts
  have logged := isComposed_logging accepts
  refine ⟨⟨Choice.flag_injective, Choice.environmentName?_injective⟩,
    ⟨_, composed, fun other isOther => isOther.unique once composed⟩,
    ⟨_, logged, fun other isOther => isOther.unique once logged⟩, ?_⟩
  intro settings logging isSettings isLogging order reordered
  rw [invocation_line (accepts.perm reordered), assignment_of_perm once reordered,
    isSettings.unique once composed, isLogging.unique once logged]

/-- The port comes from a variable, the label of candidates from a flag, and the
timeout from its flag although there is a variable for it. -/
theorem settings_follow_choices_mixed :
    let environment : Environment := fun name =>
      [("SERVER_PORT", "9000"), ("SERVER_SHUTDOWN_TIMEOUT", "7")].lookup name
    let chosen := [(Choice.shutdownTimeout, "5"), (.label .iceCandidate, "a=b")]
    let settings : Settings :=
      { listen := { address := .octets 0 0 0 0, port := 9000 }
        shutdownTimeout := .ofSeconds 5
        vocabulary :=
          { label verb := if verb = .iceCandidate then "a=b" else Vocabulary.standard.label verb } }
    Task.serve.Accepts environment chosen ∧ settings.IsComposed environment chosen ∧
      invocation environment ["serve", "--shutdown-timeout=5", "--type-ice-candidate=a=b"] =
        .ok (.serve ⟨"info", .text⟩ settings) ∧
      invocation environment ["serve", "--type-ice-candidate=a=b", "--shutdown-timeout=5"] =
        .ok (.serve ⟨"info", .text⟩ settings) := by
  intro environment chosen settings
  have accepts : Task.serve.Accepts environment chosen := by
    constructor
    · decide
    · decide
    · decide +kernel
    · decide +kernel
  have isSettings : settings.IsComposed environment chosen := by
    have same : (assignment environment chosen.reverse []).settings = settings := by
      apply Settings.ext
      case vocabulary =>
        apply Vocabulary.ext
        funext verb
        cases verb <;> decide +kernel
      all_goals decide +kernel
    exact same ▸ isComposed_settings accepts
  have isLogging : Logging.IsComposed ⟨"info", .text⟩ environment chosen := by
    have same : (assignment environment chosen.reverse []).logging = ⟨"info", .text⟩ := by
      decide +kernel
    exact same ▸ isComposed_logging accepts
  have valid : settings.validate = .ok settings :=
    Settings.validate_eq_self (by decide) (by decide) (by decide)
  have invoked :=
    (settings_follow_choices accepts).2.2.2 settings _ isSettings isLogging
  rw [valid] at invoked
  exact ⟨accepts, isSettings, invoked chosen (.refl chosen), invoked _ (.swap _ _ [])⟩

end Program

end Switchboard
