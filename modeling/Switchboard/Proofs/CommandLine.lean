import Switchboard.CommandLine.Arguments
import Switchboard.Proofs.Lookup

/-!
# Well-formed command lines

A choice is made by a word that consists of its flag, an equals sign and the
value. A command line is well formed if a task is followed by such words only,
no choice is made twice, and all values can be read, also those of variables.
Then nothing is refused, and every word adds its value to those that are given.
-/

namespace Switchboard.CommandLine

variable {task : Task} {environment : Environment} {chosen order : List (Choice × String)}
  {given : Given} {choice : Choice} {text : String}

/-! ## Flags and variables -/

namespace Choice

theorem mem_all (choice : Choice) : choice ∈ all := by
  cases choice <;> simp [all, serving, general, Verb.mem_all]

theorem injective_of_nodup_map {α : Type} {feature : Choice → α}
    (distinct : (all.map feature).Nodup) : Function.Injective feature := by
  intro first second same
  exact List.inj_on_of_nodup_map distinct first.mem_all second.mem_all same

theorem flag_injective : Function.Injective flag :=
  injective_of_nodup_map (by decide)

theorem environmentName?_injective : Function.Injective environmentName? :=
  injective_of_nodup_map (by decide)

/-- No choice is taken for a request for help or for the version. -/
theorem flag_not_reserved (choice : Choice) : choice.flag ∉ ["help", "version"] := by
  have free : ∀ name ∈ all.map flag, name ∉ ["help", "version"] := by decide
  exact free _ (List.mem_map_of_mem choice.mem_all)

theorem flag_plain (choice : Choice) : '=' ∉ choice.flag.toList := by
  have plain : ∀ name ∈ all.map flag, '=' ∉ name.toList := by decide
  exact plain _ (List.mem_map_of_mem choice.mem_all)

theorem general_subset (task : Task) : general ⊆ ofTask task := by
  cases task <;> simp [ofTask, general]

/-- The word that makes a choice. -/
def word (choice : Choice) (text : String) : String :=
  "--" ++ choice.flag ++ "=" ++ text

end Choice

/-! ## Words -/

theorem Word.ofString_eq_long {word name value : String} {rest : List Char}
    (dashed : word.toList = '-' :: '-' :: rest)
    (named : rest.takeWhile (· ≠ '=') = name.toList)
    (given : rest.dropWhile (· ≠ '=') = '=' :: value.toList) :
    ofString word = .long name (some value) := by
  rw [ofString, dashed]
  cases rest with
  | nil => contradiction
  | cons first others => simp only [named, given, String.ofList_toList]

/-- As there is no equals sign in a flag, the first one of a word ends it. The
value may have others. -/
theorem Word.ofString_word (choice : Choice) (text : String) :
    ofString (choice.word text) = .long choice.flag (some text) := by
  have plain : ∀ character ∈ choice.flag.toList, decide (character ≠ '=') = true := by
    intro character listed
    apply decide_eq_true
    rintro rfl
    exact choice.flag_plain listed
  have dashed : (choice.word text).toList =
      '-' :: '-' :: (choice.flag.toList ++ '=' :: text.toList) := by
    simp [Choice.word]
  apply ofString_eq_long dashed
  · rw [List.takeWhile_append_of_pos plain]
    simp
  · rw [List.dropWhile_append_of_pos plain]
    simp

theorem Side.longFlag?_flag {side : Side} (listed : choice ∈ side.choices) :
    side.longFlag? choice.flag = some (.choose choice) := by
  have free := choice.flag_not_reserved
  simp only [List.mem_cons, List.not_mem_nil, or_false, not_or] at free
  rw [longFlag?, if_neg free.1, if_neg fun both => free.2 both.1,
    find?_eq_some_of_mem Choice.flag_injective listed]
  rfl

theorem Task.ofWord?_word (task : Task) : ofWord? task.word = some task := by
  cases task <;> rfl

/-! ## Reading words -/

theorem Given.accept_eq_ok (fresh : choice ∉ given.map Prod.fst)
    (readable : choice.check text = .ok ()) :
    given.accept choice text = .ok ((choice, text) :: given) := by
  have unmade : given.lookup choice = none :=
    lookup_eq_none_iff.mpr fun text made => fresh (List.mem_map_of_mem made)
  simp [accept, unmade, readable]

theorem readSide_word {rest : List String} (listed : choice ∈ Choice.ofTask task)
    (fresh : choice ∉ given.map Prod.fst) (readable : choice.check text = .ok ()) :
    readSide (.task task) given none false (choice.word text :: rest) =
      readSide (.task task) ((choice, text) :: given) none false rest := by
  have flagged : (Side.task task).longFlag? choice.flag = some (.choose choice) :=
    Side.longFlag?_flag listed
  simp [readSide, Word.ofString_word, flagged, Given.settle, Given.accept_eq_ok fresh readable,
    Except.bind]

/-- Every word is accepted if no choice is made again, be it by two of the words or
by one of them after it was made before. -/
theorem readSide_words (listed : ∀ made ∈ chosen, made.1 ∈ Choice.ofTask task)
    (once : ((chosen ++ given).map Prod.fst).Nodup)
    (readable : ∀ made ∈ chosen, made.1.check made.2 = .ok ()) :
    readSide (.task task) given none false (chosen.map fun made => made.1.word made.2) =
      .ok { given := chosen.reverse ++ given, pending := none, next := none } := by
  induction chosen generalizing given with
  | nil => rfl
  | cons made rest ih =>
      rw [List.forall_mem_cons] at listed readable
      have fresh : made.1 ∉ given.map Prod.fst := by
        intro again
        apply (List.nodup_cons.mp once).1
        simpa using Or.inr (List.mem_map.mp again)
      -- The choice just made joins those that the other words must not make.
      have onceMore : ((rest ++ made :: given).map Prod.fst).Nodup :=
        (List.perm_middle.map Prod.fst).nodup_iff.mpr once
      rw [List.map_cons, readSide_word listed.1 fresh readable.1, ih listed.2 onceMore readable.2]
      simp

theorem readSide_task (task : Task) (words : List String) :
    readSide .program [] none false (task.word :: words) =
      .ok { given := [], pending := none, next := some (task, words) } := by
  have noHelp : task.word ≠ Side.helpWord := by
    cases task <;> decide
  simp [readSide, Pending.isAwaiting, noHelp, Task.ofWord?_word]

theorem Environment.check_eq_ok {choices : List Choice}
    (readable : ∀ choice ∈ choices, ∀ text ∈ environment.value? choice,
      choice.check text = .ok ()) : environment.check given choices = .ok () := by
  induction choices with
  | nil => rfl
  | cons choice rest ih =>
      rw [List.forall_mem_cons] at readable
      have others := ih readable.2
      rw [check]
      by_cases made : (given.lookup choice).isSome = true
      · simp [made, others]
      · cases found : environment.value? choice with
        | none => simp [made, others]
        | some text => simp [made, others, readable.1 text found]

/-! ## Whole command lines -/

namespace Task

/-- A task and the words that make some choices. -/
def line (task : Task) (chosen : List (Choice × String)) : List String :=
  task.word :: chosen.map fun made => made.1.word made.2

/-- Some of the choices of a task are made once each, others are possibly made by
variables, and all values can be read. -/
structure Accepts (task : Task) (environment : Environment) (chosen : List (Choice × String)) :
    Prop where
  listed : ∀ made ∈ chosen, made.1 ∈ Choice.ofTask task
  once : (chosen.map Prod.fst).Nodup
  readable : ∀ made ∈ chosen, made.1.check made.2 = .ok ()
  preset : ∀ choice ∈ Choice.ofTask task, ∀ text ∈ environment.value? choice,
    choice.check text = .ok ()

theorem Accepts.perm (accepts : task.Accepts environment chosen) (reordered : order.Perm chosen) :
    task.Accepts environment order where
  listed made isMade := accepts.listed made (reordered.mem_iff.mp isMade)
  once := (reordered.map Prod.fst).nodup_iff.mpr accepts.once
  readable made isMade := accepts.readable made (reordered.mem_iff.mp isMade)
  preset := accepts.preset

end Task

theorem read_line (accepts : task.Accepts environment chosen) :
    read environment (task.line chosen) =
      .ok (task, assignment environment chosen.reverse []) := by
  have words : readSide (.task task) [] none false (chosen.map fun made => made.1.word made.2) =
      .ok { given := chosen.reverse, pending := none, next := none } := by
    have once : ((chosen ++ []).map Prod.fst).Nodup := by simpa using accepts.once
    simpa using readSide_words accepts.listed once accepts.readable
  have inner : environment.check chosen.reverse (Choice.ofTask task) = .ok () :=
    Environment.check_eq_ok accepts.preset
  -- Variables of general choices are looked at again for the program's side.
  have outer : environment.check [] Choice.general = .ok () :=
    Environment.check_eq_ok fun choice isGeneral =>
      accepts.preset choice (Choice.general_subset task isGeneral)
  rw [read, Task.line, readSide_task]
  simp [bind, Except.bind, words, Given.settle, inner, outer]

end Switchboard.CommandLine
