import Switchboard.Proofs.CommandLine

/-!
# Where the value of a choice comes from

A choice yields what is read from its own flag, else what is read from its own
variable, else a standard value. On well-formed command lines this is one value
for every choice, and the same one in whatever order the flags are given.
-/

namespace Switchboard.CommandLine

open Network

variable {task : Task} {environment : Environment} {chosen order : List (Choice × String)}
  {choice : Choice} {text : String} {α : Type} {read? : String → Option α} {standard value : α}

/-- The value of a choice is read from the text of its flag, or else from that of
its variable, or else it is the standard one. -/
inductive Yields (environment : Environment) (chosen : List (Choice × String)) (choice : Choice)
    (read? : String → Option α) (standard : α) : α → Prop
  | flag {text : String} {value : α} (made : (choice, text) ∈ chosen)
      (read : read? text = some value) : Yields environment chosen choice read? standard value
  | preset {name text : String} {value : α} (unmade : ∀ text, (choice, text) ∉ chosen)
      (named : choice.environmentName? = some name) (set : environment name = some text)
      (read : read? text = some value) : Yields environment chosen choice read? standard value
  | standard (unmade : ∀ text, (choice, text) ∉ chosen)
      (unset : ∀ name, choice.environmentName? = some name → environment name = none) :
      Yields environment chosen choice read? standard standard

/-- The value of a choice is a number of seconds. -/
def YieldsSeconds (environment : Environment) (chosen : List (Choice × String)) (choice : Choice)
    (standard : Nat) (duration : Duration) : Prop :=
  ∃ seconds, Yields environment chosen choice readCount? standard seconds ∧
    duration = .ofSeconds seconds

/-! ## The text that counts -/

theorem assignment_of_made (once : (chosen.map Prod.fst).Nodup)
    (made : (choice, text) ∈ chosen) :
    assignment environment chosen.reverse [] choice = some text := by
  have reversed : (chosen.reverse.map Prod.fst).Nodup :=
    (chosen.reverse_perm.map Prod.fst).nodup_iff.mpr once
  have found : chosen.reverse.lookup choice = some text :=
    (lookup_eq_some_iff reversed).mpr (List.mem_reverse.mpr made)
  simp [assignment, found]

theorem assignment_of_unmade (unmade : ∀ text, (choice, text) ∉ chosen) :
    assignment environment chosen.reverse [] choice = environment.value? choice := by
  have nothing : chosen.reverse.lookup choice = none :=
    lookup_eq_none_iff.mpr fun text made => unmade text (List.mem_reverse.mp made)
  simp [assignment, nothing]

/-- The order of the flags does not matter. -/
theorem assignment_of_perm (once : (chosen.map Prod.fst).Nodup) (reordered : order.Perm chosen) :
    assignment environment order.reverse [] = assignment environment chosen.reverse [] := by
  have onceToo : (order.map Prod.fst).Nodup := (reordered.map Prod.fst).nodup_iff.mpr once
  funext choice
  by_cases isMade : ∃ text, (choice, text) ∈ chosen
  · obtain ⟨text, made⟩ := isMade
    rw [assignment_of_made once made, assignment_of_made onceToo (reordered.mem_iff.mpr made)]
  · have unmade := not_exists.mp isMade
    rw [assignment_of_unmade unmade,
      assignment_of_unmade fun text made => unmade text (reordered.mem_iff.mp made)]

/-! ## Values that pass the check -/

namespace Choice

/-- Whatever passes the check of a choice can be read. -/
def IsReadBy (choice : Choice) (read? : String → Option α) : Prop :=
  ∀ text, choice.check text = .ok () → ∃ value, read? text = some value

theorem isReadBy_of_refused
    (refused : ∀ text, read? text = none → choice.check text ≠ .ok ()) :
    choice.IsReadBy read? := by
  intro text passed
  rw [← Option.ne_none_iff_exists']
  exact fun unreadable => refused text unreadable passed

theorem isReadBy_host : host.IsReadBy Address.read? :=
  isReadBy_of_refused fun text unreadable => by simp [check, unreadable]

theorem isReadBy_port : port.IsReadBy readPort? :=
  isReadBy_of_refused fun text unreadable => by simp [check, unreadable]

theorem isReadBy_listen : listen.IsReadBy SocketAddress.read? :=
  isReadBy_of_refused fun text unreadable => by simp [check, unreadable]

theorem isReadBy_logFormat : logFormat.IsReadBy LogFormat.ofWord? :=
  isReadBy_of_refused fun text unreadable => by simp [check, unreadable]

/-- The choices of counts and of numbers of seconds. -/
def numbers : List Choice :=
  [shutdownTimeout, maxMessageSize, pingInterval, queueCapacity, hubCapacity]

theorem isReadBy_number (isNumber : choice ∈ numbers) : choice.IsReadBy readCount? := by
  apply isReadBy_of_refused
  intro text unreadable
  simp only [numbers, List.mem_cons, List.not_mem_nil, or_false] at isNumber
  rcases isNumber with rfl | rfl | rfl | rfl | rfl <;> simp [check, unreadable]

theorem isReadBy_text (choice : Choice) : choice.IsReadBy some :=
  fun text _ => ⟨text, rfl⟩

end Choice

/-! ## The value that is yielded -/

theorem Yields.read_eq (once : (chosen.map Prod.fst).Nodup)
    (yields : Yields environment chosen choice read? standard value) :
    (assignment environment chosen.reverse []).read choice read? standard = value := by
  cases yields with
  | flag made read => simp [Assignment.read, assignment_of_made once made, read]
  | preset unmade named set read =>
      simp [Assignment.read, assignment_of_unmade unmade, Environment.value?, named, set, read]
  | standard unmade unset =>
      have nothing : environment.value? choice = none := Option.bind_eq_none_iff.mpr unset
      simp [Assignment.read, assignment_of_unmade unmade, nothing]

theorem Yields.unique {other : α} (once : (chosen.map Prod.fst).Nodup)
    (first : Yields environment chosen choice read? standard value)
    (second : Yields environment chosen choice read? standard other) : value = other :=
  (first.read_eq once).symm.trans (second.read_eq once)

theorem YieldsSeconds.unique {standard : Nat} {first second : Duration}
    (once : (chosen.map Prod.fst).Nodup)
    (isFirst : YieldsSeconds environment chosen choice standard first)
    (isSecond : YieldsSeconds environment chosen choice standard second) : first = second := by
  obtain ⟨seconds, yields, rfl⟩ := isFirst
  obtain ⟨others, yieldsToo, rfl⟩ := isSecond
  rw [yields.unique once yieldsToo]

/-- What is read off an assignment never falls back to the standard value although
there is a text: every text that counts has passed the check. -/
theorem yields_read (accepts : task.Accepts environment chosen)
    (listed : choice ∈ Choice.ofTask task) (isRead : choice.IsReadBy read?) :
    Yields environment chosen choice read? standard
      ((assignment environment chosen.reverse []).read choice read? standard) := by
  by_cases isMade : ∃ text, (choice, text) ∈ chosen
  · obtain ⟨text, made⟩ := isMade
    obtain ⟨value, read⟩ := isRead text (accepts.readable _ made)
    simpa [Assignment.read, assignment_of_made accepts.once made, read] using
      Yields.flag made read
  · have unmade := not_exists.mp isMade
    cases found : environment.value? choice with
    | none =>
        simpa [Assignment.read, assignment_of_unmade unmade, found] using
          Yields.standard unmade (Option.bind_eq_none_iff.mp found)
    | some text =>
        obtain ⟨name, named, set⟩ := Option.bind_eq_some_iff.mp found
        obtain ⟨value, read⟩ := isRead text (accepts.preset choice listed text found)
        simpa [Assignment.read, assignment_of_unmade unmade, found, read] using
          Yields.preset unmade named set read

theorem yields_text {standard : String} (accepts : task.Accepts environment chosen)
    (listed : choice ∈ Choice.ofTask task) :
    Yields environment chosen choice some standard
      ((assignment environment chosen.reverse []).text choice standard) := by
  have sameText (assignment : Assignment) :
      assignment.text choice standard = assignment.read choice some standard := by
    simp [Assignment.text, Assignment.read]
  rw [sameText]
  exact yields_read accepts listed choice.isReadBy_text

theorem yields_number {standard : Nat} (accepts : task.Accepts environment chosen)
    (listed : choice ∈ Choice.ofTask task) (isNumber : choice ∈ Choice.numbers) :
    Yields environment chosen choice readCount? standard
      ((assignment environment chosen.reverse []).read choice readCount? standard) :=
  yields_read accepts listed (Choice.isReadBy_number isNumber)

end Switchboard.CommandLine
