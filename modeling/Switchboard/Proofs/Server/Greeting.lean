import Switchboard.Proofs.Notice
import Switchboard.Proofs.Server.Sessions

/-!
# The greeting comes first

A greeting is queued before anybody can know of the connection, and a mailbox
has room for one frame at least. So whatever happens while WebSockets are being
accepted, the first frame that a client gets is its greeting. All others follow
in the order in which they were queued, and when the client asks for its name
later on, it is told the same one.
-/

namespace Switchboard

open Exchange Text

/-- The text of a notice goes out as text. -/
theorem Message.ofFrame_frame (notice : Notice) : ofFrame notice.frame = .text notice.text := by
  rw [ofFrame, Notice.frame, ofUtf8?_utf8]

variable {arrangement : Arrangement} {origin : Exchange} {session : Session}
  {operations : List Operation}

/-- What a session has been sent are the first frames that were queued for it,
with the end of the socket at most behind them. -/
theorem Session.Follows.exists_sent_eq (follows : session.Follows origin operations) :
    ∃ frames closing, frames <+: accepted session.connection origin operations ∧
      session.sent = frames.map Message.ofFrame ++ closing ∧
      (closing = [] ∨ closing = [.close]) := by
  obtain ⟨closing, sent, closed⟩ := follows.told
  exact ⟨_, closing, follows.inOrder, sent, closed.imp_right And.left⟩

/-- Whatever a session has been sent begins with its greeting. -/
theorem Session.Follows.head?_sent (follows : session.Follows origin operations)
    (some : session.sent ≠ []) :
    session.sent.head? = Option.some (.text (origin.meNotice session.identity).text) := by
  obtain ⟨closing, sent, closed⟩ := follows.told
  obtain ⟨later, first⟩ := follows.greeted
  have beginning := follows.inOrder
  rw [first] at beginning
  cases all : taken session.connection origin operations with
  | nil =>
      rw [all] at sent closed
      rcases closed with rfl | ⟨_, _, frames⟩
      · exact absurd sent some
      · contradiction
  | cons frame rest =>
      rw [all, List.cons_prefix_cons] at beginning
      rw [sent, all, beginning.1, List.map_cons, List.cons_append, List.head?_cons,
        Message.ofFrame_frame]

/-- Let a server be started, and let anything be done at it, in any order. Every
client whose connection was registered stays registered under its identity, and
nobody else has its connection, until its mailbox is closed. The first frame
that is queued for it, and so the first that it is sent, is its greeting. What
it has been sent are the frames that were queued for it, in the same order, and
the end of the socket comes behind them. Whenever it asks for its name, it is
answered by the greeting again. -/
theorem greeting_comes_first {settings : Settings} {server : Server}
    (started : Server.start settings arrangement = .ok server) (moves : List Move)
    (listed : session ∈ (Entrance.run { server } moves).server.sessions) :
    let operations := Entrance.trace { server } moves
    let exchange := (Entrance.run { server } moves).server.exchange
    let greeting := server.greeting session.identity
    let queued := accepted session.connection server.exchange operations
    exchange = server.exchange.run operations ∧
      exchange.Keeps session.identity session.connection ∧
      (∀ known, exchange.directory.find? known = some session.connection →
        known = session.identity) ∧
      (Notice.read? greeting.frame = some greeting ∧
        greeting.event = settings.vocabulary.label .me ∧ greeting.sender = session.identity) ∧
      (∃ later, queued = greeting.frame :: later) ∧
      (session.sent ≠ [] → session.sent.head? = some (.text greeting.text)) ∧
      (∃ frames closing, frames <+: queued ∧
        session.sent = frames.map Message.ofFrame ++ closing ∧
        (closing = [] ∨ closing = [.close])) ∧
      ∀ before sender inbound after, operations = before ++ .handle sender inbound :: after →
        Command.read settings.vocabulary sender inbound = .ok .me →
        ∀ frame ∈ (server.exchange.run before).acceptedBy session.connection
          (.handle sender inbound), sender = session.identity ∧ frame = greeting.frame := by
  intro operations exchange greeting queued
  let origin := start settings.vocabulary settings.queueCapacity arrangement
  have tended := (Entrance.Tended.of_started started).run moves
  obtain ⟨_, router, _, rfl⟩ := Server.start_eq_ok_iff.mp started
  have follows := tended.sessions session listed
  have reads : Notice.read? greeting.frame = some greeting :=
    Notice.read?_frame (Notice.isTransmissible_of_payload_eq_none rfl)
  have only {part : List Operation} {known : Identity} (within : part ⊆ operations)
      (found : (origin.run part).directory.find? known = some session.connection) :
      known = session.identity := by
    rcases request_of_find?_run found with early | asked
    · rw [find?_start] at early
      contradiction
    · exact eq_of_brought tended.fresh follows.enrolled (within asked)
  have same : exchange = origin.run operations := tended.exchange
  refine ⟨same, same ▸ follows.kept, ?_, ⟨reads, rfl, rfl⟩, follows.greeted, follows.head?_sent,
    follows.exists_sent_eq, ?_⟩
  · intro known found
    rw [same] at found
    exact only (List.Subset.refl _) found
  · intro before sender inbound after split read frame accepted
    have setUp := setUp_run origin before
    have readThen : Command.read (origin.run before).vocabulary sender inbound = .ok .me := by
      rw [setUp.1]
      exact read
    obtain ⟨found, rfl⟩ := eq_meNotice_of_mem_acceptedBy readThen accepted
    have within : before ⊆ operations := by
      rw [split]
      exact List.subset_append_left _ _
    cases only within found
    refine ⟨rfl, ?_⟩
    rw [meNotice, setUp.1]
    rfl

/-- Bob arrives while others are sent broadcasts. Nobody has room for more than
one frame, so Alice is removed before she has read her greeting. Bob asks for
his name, and gets another broadcast. -/
def rush : List Move :=
  [.happen (.accept ⟨"alice"⟩), .arrive ⟨"bob"⟩, .happen (.broadcast [1]), .greet 1,
    .happen (.broadcast [2]), .enroll 1, .happen (.write 1),
    .happen (.message 1 (.text "[\"me\"]")), .happen (.write 1), .happen (.write 0),
    .happen (.write 0), .happen (.broadcast [255]), .happen (.write 1)]

theorem greeting_comes_first_rush :
    let settings : Settings := { queueCapacity := 1 }
    let server := Server.plain settings
    let before := (Entrance.trace { server } rush).take 9
    Server.start settings = .ok server ∧
      ∃ session ∈ (Entrance.run { server } rush).server.sessions,
        session.identity = ⟨"bob"⟩ ∧ session.sent.length = 3 ∧
        session.sent.head? = some (.text (server.greeting ⟨"bob"⟩).text) ∧
        (server.exchange.run before).acceptedBy 1 (.handle ⟨"bob"⟩ (utf8 "[\"me\"]")) =
          [(server.greeting ⟨"bob"⟩).frame] := by
  intro settings server before
  have started : Server.start settings = .ok server :=
    Server.start_eq_plain (Settings.isStartable_of_path_eq rfl (by decide))
  have present : ∃ session ∈ (Entrance.run { server } rush).server.sessions,
      session.identity = ⟨"bob"⟩ ∧ session.connection = 1 ∧ session.sent.length = 3 := by
    decide +kernel
  obtain ⟨session, listed, named, connected, three⟩ := present
  obtain ⟨_, _, _, _, _, first, _, replies⟩ := greeting_comes_first started rush listed
  have some : session.sent ≠ [] := by
    rw [← List.length_pos_iff, three]
    decide
  have split : Entrance.trace { server } rush = before ++
      .handle ⟨"bob"⟩ (utf8 "[\"me\"]") :: (Entrance.trace { server } rush).drop 10 := by
    decide +kernel
  have single : ((server.exchange.run before).acceptedBy 1
      (.handle ⟨"bob"⟩ (utf8 "[\"me\"]"))).length = 1 := by
    decide +kernel
  obtain ⟨frame, only⟩ := List.length_eq_one_iff.mp single
  have told := replies _ _ _ _ split (by decide +kernel) frame (by rw [connected, only]; simp)
  rw [named] at first told
  exact ⟨started, session, listed, named, three, first some, by rw [only, told.2]⟩

end Switchboard
