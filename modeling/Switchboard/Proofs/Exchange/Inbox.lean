import Mathlib.Data.List.Perm.Basic
import Switchboard.Exchange.Inbox

/-!
# Requests are served in turn

Requests that wait together are served as if they had been made one after the
other: first the registrations, then the removals, then all that delivers
frames. Within a line nothing changes places, so how the lines are
interleaved makes no difference, neither to the exchange nor to any answer.
-/

namespace Switchboard

/-- The lines in which requests wait. -/
inductive Line
  | registrations
  | removals
  | deliveries
  deriving DecidableEq, Repr

namespace Line

variable {α β : Type}

/-- The elements that belong to one line. -/
def select (lineOf : α → Line) (line : Line) (elements : List α) : List α :=
  elements.filter fun element => lineOf element = line

/-- The elements line by line. -/
def sort (lineOf : α → Line) (elements : List α) : List α :=
  select lineOf .registrations elements ++ select lineOf .removals elements ++
    select lineOf .deliveries elements

theorem select_map (change : α → β) (lineOf : β → Line) (line : Line) (elements : List α) :
    select lineOf line (elements.map change) =
      (select (lineOf ∘ change) line elements).map change :=
  List.filter_map

theorem sort_map (change : α → β) (lineOf : β → Line) (elements : List α) :
    sort lineOf (elements.map change) = (sort (lineOf ∘ change) elements).map change := by
  simp only [sort, select_map, List.map_append]

theorem select_select (lineOf : α → Line) (line other : Line) (elements : List α) :
    select lineOf line (select lineOf other elements) =
      if line = other then select lineOf line elements else [] := by
  rw [select, select, List.filter_filter]
  split
  · rename_i same
    simp [select, same]
  · rename_i apart
    rw [List.filter_eq_nil_iff]
    rintro element - both
    obtain ⟨here, there⟩ : lineOf element = line ∧ lineOf element = other := by
      simpa using both
    exact apart (here.symm.trans there)

/-- Each line keeps its order. -/
theorem select_sort (lineOf : α → Line) (line : Line) (elements : List α) :
    select lineOf line (sort lineOf elements) = select lineOf line elements := by
  have split : ∀ first second : List α, select lineOf line (first ++ second) =
      select lineOf line first ++ select lineOf line second := fun _ _ => List.filter_append ..
  rw [sort, split, split, select_select, select_select, select_select]
  cases line <;> simp

/-- Every element belongs to exactly one line. -/
theorem perm_sort (lineOf : α → Line) (elements : List α) :
    (sort lineOf elements).Perm elements := by
  induction elements with
  | nil => exact .refl _
  | cons element rest ih =>
      have front : (sort lineOf (element :: rest)).Perm (element :: sort lineOf rest) := by
        rw [sort, sort]
        cases belongs : lineOf element with
        | registrations => simp [select, belongs]
        | removals => simp [select, belongs]
        | deliveries => simp [select, belongs, -List.append_assoc]
      exact front.trans (ih.cons element)

end Line

namespace Request

/-- The line in which a request waits. -/
def line : Request → Line
  | register _ _ => .registrations
  | unregister _ => .removals
  | deliver _ _ | broadcast _ _ => .deliveries

/-- Requests in the order in which they are served when they wait together. -/
def inTurn (requests : List Request) : List Request :=
  Line.sort line requests

/-- The requests of one line with their responses. -/
def answered (requests : List Request) (responses : List Response) (line : Line) :
    List (Request × Response) :=
  Line.select (fun answered => answered.1.line) line (requests.zip responses)

end Request

/-! ## The lines of an inbox -/

namespace Inbox

variable {inbox rest : Inbox} {ticket : Ticket}

/-- The line in which a numbered request waits. -/
def lineOf (ticket : Ticket) : Line :=
  ticket.2.line

/-- The waiting requests in the order in which they are served. -/
def inTurn (inbox : Inbox) : List Ticket :=
  inbox.registrations ++ inbox.removals ++ inbox.deliveries

theorem inTurn_of_next?_eq_none (exhausted : inbox.next? = none) : inbox.inTurn = [] := by
  unfold next? at exhausted
  split at exhausted
  all_goals first | contradiction | rfl

theorem inTurn_of_next? (taken : inbox.next? = some (ticket, rest)) :
    inbox.inTurn = ticket :: rest.inTurn := by
  unfold next? at taken
  split at taken <;> cases taken <;> rfl

/-- Every request goes to the end of its line. -/
theorem foldl_push (tickets : List Ticket) (inbox : Inbox) :
    tickets.foldl push inbox =
      { registrations := inbox.registrations ++ Line.select lineOf .registrations tickets
        removals := inbox.removals ++ Line.select lineOf .removals tickets
        deliveries := inbox.deliveries ++ Line.select lineOf .deliveries tickets } := by
  induction tickets generalizing inbox with
  | nil => simp [Line.select]
  | cons ticket rest ih =>
      rw [List.foldl_cons, ih]
      rcases ticket with ⟨number, request⟩
      cases request <;> simp [push, Line.select, lineOf, Request.line]

/-- The requests with the numbers by which their answers are found. -/
def numbered (requests : List Request) : List Ticket :=
  requests.zipIdx.map Prod.swap

theorem map_snd_numbered (requests : List Request) :
    (numbered requests).map Prod.snd = requests := by
  simp [numbered, Function.comp_def]

theorem map_fst_numbered (requests : List Request) :
    (numbered requests).map Prod.fst = List.range requests.length := by
  simp [numbered, Function.comp_def, List.range_eq_range']

theorem inTurn_ofRequests (requests : List Request) :
    (ofRequests requests).inTurn = Line.sort lineOf (numbered requests) := by
  rw [ofRequests, foldl_push]
  rfl

theorem map_snd_inTurn (requests : List Request) :
    (ofRequests requests).inTurn.map Prod.snd = Request.inTurn requests := by
  have sorted := Line.sort_map Prod.snd Request.line (numbered requests)
  rw [map_snd_numbered] at sorted
  rw [inTurn_ofRequests, Request.inTurn, sorted]
  rfl

theorem perm_map_fst_inTurn (requests : List Request) :
    ((ofRequests requests).inTurn.map Prod.fst).Perm (List.range requests.length) := by
  rw [inTurn_ofRequests, ← map_fst_numbered]
  exact (Line.perm_sort lineOf _).map Prod.fst

end Inbox

/-! ## One request after the other -/

namespace Exchange

/-- Serve requests one after the other. -/
def serveEach (exchange : Exchange) : List Request → List Response × Exchange
  | [] => ([], exchange)
  | request :: rest =>
      let (response, next) := exchange.serve request
      let (responses, last) := next.serveEach rest
      (response :: responses, last)

theorem length_serveEach (exchange : Exchange) (requests : List Request) :
    (exchange.serveEach requests).1.length = requests.length := by
  induction requests generalizing exchange with
  | nil => rfl
  | cons request rest ih => simp [serveEach, ih]

theorem serveAll_of_next?_eq_none {exchange : Exchange} {inbox : Inbox}
    (exhausted : inbox.next? = none) : exchange.serveAll inbox = ([], exchange) := by
  rw [serveAll]
  split
  · rfl
  · rename_i taken
    rw [exhausted] at taken
    contradiction

theorem serveAll_of_next? {exchange : Exchange} {inbox rest : Inbox} {ticket : Ticket}
    (taken : inbox.next? = some (ticket, rest)) :
    exchange.serveAll inbox =
      ((ticket.1, (exchange.serve ticket.2).1) ::
          ((exchange.serve ticket.2).2.serveAll rest).1,
        ((exchange.serve ticket.2).2.serveAll rest).2) := by
  rw [serveAll]
  split
  · rename_i exhausted
    rw [taken] at exhausted
    contradiction
  · rename_i again
    cases taken.symm.trans again
    rfl

/-- Waiting requests are served in turn. -/
theorem serveAll_eq (exchange : Exchange) (inbox : Inbox) :
    exchange.serveAll inbox =
      ((inbox.inTurn.map Prod.fst).zip (exchange.serveEach (inbox.inTurn.map Prod.snd)).1,
        (exchange.serveEach (inbox.inTurn.map Prod.snd)).2) := by
  induction exchange, inbox using serveAll.induct with
  | case1 exchange inbox exhausted =>
      rw [serveAll_of_next?_eq_none exhausted, Inbox.inTurn_of_next?_eq_none exhausted]
      rfl
  | case2 exchange inbox number request rest taken response next served responses last later ih =>
      rw [serveAll_of_next? taken, Inbox.inTurn_of_next? taken, served, ih]
      simp [serveEach, served]

theorem serveAll_ofRequests (exchange : Exchange) (requests : List Request) :
    exchange.serveAll (.ofRequests requests) =
      (((Inbox.ofRequests requests).inTurn.map Prod.fst).zip
          (exchange.serveEach (Request.inTurn requests)).1,
        (exchange.serveEach (Request.inTurn requests)).2) := by
  rw [serveAll_eq, Inbox.map_snd_inTurn]

theorem length_serveEach_inTurn (exchange : Exchange) (requests : List Request) :
    (exchange.serveEach (Request.inTurn requests)).1.length =
      ((Inbox.ofRequests requests).inTurn.map Prod.fst).length := by
  rw [length_serveEach, ← Inbox.map_snd_inTurn, List.length_map, List.length_map]

/-! ## Answers -/

/-- No request is answered twice, and none is left without an answer. -/
theorem perm_map_fst_serveAll (exchange : Exchange) (requests : List Request) :
    ((exchange.serveAll (.ofRequests requests)).1.map Prod.fst).Perm
      (List.range requests.length) := by
  have complete := length_serveEach_inTurn exchange requests
  rw [serveAll_ofRequests, List.map_fst_zip (Nat.le_of_eq complete.symm)]
  exact Inbox.perm_map_fst_inTurn requests

/-- Answers that are looked up by number are found as long as no number is
used twice. -/
theorem exists_answer_of_zip {numbers : List Nat} {responses : List Response}
    (distinct : numbers.Nodup) (complete : responses.length = numbers.length) :
    ∃ answer : Nat → Response, responses = numbers.map answer ∧
      ∀ number ∈ numbers, (numbers.zip responses).lookup number = some (answer number) := by
  induction numbers generalizing responses with
  | nil => exact ⟨fun _ => .done (.ok ()), List.length_eq_zero_iff.mp complete, by simp⟩
  | cons number rest ih =>
      obtain ⟨response, others, rfl⟩ := List.exists_cons_of_length_eq_add_one complete
      rw [List.nodup_cons] at distinct
      obtain ⟨answer, listed, found⟩ := ih distinct.2 (Nat.succ.inj complete)
      have apart : ∀ other ∈ rest, other ≠ number := by
        rintro other isRest rfl
        exact distinct.1 isRest
      have unchanged : ∀ other ∈ rest,
          Function.update answer number response other = answer other :=
        fun other isRest => Function.update_of_ne (apart other isRest) _ _
      refine ⟨Function.update answer number response, ?_, ?_⟩
      · rw [List.map_cons, Function.update_self, List.map_congr_left unchanged, ← listed]
      · rw [List.forall_mem_cons]
        constructor
        · simp
        · intro other isRest
          have differ : (other == number) = false := beq_false_of_ne (apart other isRest)
          rw [List.zip_cons_cons, List.lookup_cons, differ, unchanged other isRest]
          exact found other isRest

/-- Each request has one answer, whether the answers are listed in the order of
the requests or in the order of their turns. -/
theorem exists_answer (exchange : Exchange) (requests : List Request) :
    ∃ answer : Nat → Response,
      (exchange.serveBatch requests).1 = (List.range requests.length).map answer ∧
        (exchange.serveEach (Request.inTurn requests)).1 =
          ((Inbox.ofRequests requests).inTurn.map Prod.fst).map answer := by
  have numbers := Inbox.perm_map_fst_inTurn requests
  obtain ⟨answer, listed, found⟩ := exists_answer_of_zip
    (numbers.nodup_iff.mpr List.nodup_range) (length_serveEach_inTurn exchange requests)
  refine ⟨answer, ?_, listed⟩
  have each : ∀ number ∈ List.range requests.length,
      (exchange.serveAll (.ofRequests requests)).1.lookup number = some (answer number) := by
    intro number inside
    rw [serveAll_ofRequests]
    exact found number (numbers.mem_iff.mpr inside)
  rw [serveBatch]
  dsimp only
  rw [List.filterMap_congr each, List.filterMap_eq_map']

theorem serveBatch_snd (exchange : Exchange) (requests : List Request) :
    (exchange.serveBatch requests).2 = (exchange.serveEach (Request.inTurn requests)).2 := by
  rw [serveBatch, serveAll_ofRequests]

theorem length_serveBatch (exchange : Exchange) (requests : List Request) :
    (exchange.serveBatch requests).1.length = requests.length := by
  obtain ⟨answer, batched, _⟩ := exchange.exists_answer requests
  rw [batched, List.length_map, List.length_range]

/-- The requests of a line are answered as in turn. -/
theorem answered_serveBatch (exchange : Exchange) (requests : List Request) (line : Line) :
    Request.answered requests (exchange.serveBatch requests).1 line =
      Request.answered (Request.inTurn requests)
        (exchange.serveEach (Request.inTurn requests)).1 line := by
  obtain ⟨answer, batched, served⟩ := exchange.exists_answer requests
  have asked : requests.zip (exchange.serveBatch requests).1 =
      (Inbox.numbered requests).map fun ticket => (ticket.2, answer ticket.1) := by
    rw [batched, ← Inbox.map_fst_numbered, List.map_map]
    nth_rewrite 1 [← Inbox.map_snd_numbered requests]
    exact List.zip_map'
  have inTurn : (Request.inTurn requests).zip (exchange.serveEach (Request.inTurn requests)).1 =
      (Line.sort Inbox.lineOf (Inbox.numbered requests)).map fun ticket =>
        (ticket.2, answer ticket.1) := by
    rw [served, ← Inbox.map_snd_inTurn, List.map_map, Inbox.inTurn_ofRequests]
    exact List.zip_map'
  have same := Line.select_sort Inbox.lineOf line (Inbox.numbered requests)
  rw [Request.answered, Request.answered, asked, inTurn, Line.select_map, Line.select_map]
  exact congrArg _ same.symm

/-- Requests that wait together are served in turn, one after the other, and
each is answered once. As long as every line keeps its order, another order of
the requests changes neither the outcome nor the answers. -/
theorem serveBatch_in_turn (exchange : Exchange) (requests : List Request) :
    let batch := exchange.serveBatch requests
    let served := exchange.serveEach (Request.inTurn requests)
    ((exchange.serveAll (.ofRequests requests)).1.map Prod.fst).Perm
        (List.range requests.length) ∧
      batch.1.length = requests.length ∧
      batch.2 = served.2 ∧
      (∀ line, Request.answered requests batch.1 line =
        Request.answered (Request.inTurn requests) served.1 line) ∧
      ∀ others : List Request,
        (∀ line, Line.select Request.line line others = Line.select Request.line line requests) →
        (exchange.serveBatch others).2 = batch.2 ∧
          ∀ line, Request.answered others (exchange.serveBatch others).1 line =
            Request.answered requests batch.1 line := by
  intro batch served
  refine ⟨exchange.perm_map_fst_serveAll requests, exchange.length_serveBatch requests,
    exchange.serveBatch_snd requests, exchange.answered_serveBatch requests, ?_⟩
  intro others sameLines
  have sameTurns : Request.inTurn others = Request.inTurn requests := by
    simp only [Request.inTurn, Line.sort, sameLines]
  constructor
  · rw [serveBatch_snd, sameTurns]
    exact (exchange.serveBatch_snd requests).symm
  · intro line
    rw [answered_serveBatch, sameTurns]
    exact (exchange.answered_serveBatch requests line).symm

/-- Two frames for Alice, who is only registered behind the first of them, and
a registration of Bob that is undone at once. Sorting the lines first changes
nothing. -/
theorem serveBatch_in_turn_twoFrames :
    let exchange : Exchange := { mailboxes := #[.ofCapacity 1, .ofCapacity 1] }
    let requests : List Request :=
      [.deliver ⟨"alice"⟩ (Text.utf8 "one"), .unregister ⟨"bob"⟩, .register ⟨"alice"⟩ 0,
        .broadcast (Text.utf8 "two") none, .register ⟨"bob"⟩ 1]
    let others : List Request :=
      [.register ⟨"alice"⟩ 0, .register ⟨"bob"⟩ 1, .unregister ⟨"bob"⟩,
        .deliver ⟨"alice"⟩ (Text.utf8 "one"), .broadcast (Text.utf8 "two") none]
    (∀ line, Line.select Request.line line others = Line.select Request.line line requests) ∧
      (exchange.serveBatch others).2 = (exchange.serveBatch requests).2 ∧
      (exchange.serveBatch requests).2.log.toList =
        [.connected ⟨"alice"⟩, .connected ⟨"bob"⟩, .disconnected ⟨"bob"⟩ .requested,
          .messageDropped ⟨"alice"⟩, .disconnected ⟨"alice"⟩ .slowConsumer] := by
  intro exchange requests others
  have sameLines : ∀ line,
      Line.select Request.line line others = Line.select Request.line line requests := by
    intro line
    cases line <;> decide +kernel
  obtain ⟨_, _, _, _, reordered⟩ := exchange.serveBatch_in_turn requests
  exact ⟨sameLines, (reordered others sameLines).1, by decide +kernel⟩

end Exchange

end Switchboard
