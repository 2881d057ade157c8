import Switchboard.CommandLine.Choice

/-!
# Reading the command line

The program takes flags, then the word for a task, then the flags of the task.
A value stands in the next word or after an equals sign, and a choice can be
made once on either side of the task. Two dashes end the flags.

The value of a flag is looked at when the next flag is reached, or at the end
of its side. This decides which of several mistakes is reported: a word that
is no flag at all comes before the value in front of it. Values of variables
are looked at after all flags of a side.
-/

namespace Switchboard.CommandLine

/-- Why arguments lead to no task. -/
inductive Halt
  | unknownArgument
  | valueMissing
  | value (error : ValueError)
  | valueSurplus
  | repeated
  | noSuchTask
  | taskMissing
  /-- Neither flags nor a task were given. -/
  | nothingGiven
  | help
  | version
  deriving DecidableEq, Repr

/-- The two sides of the command line. -/
inductive Side
  | program
  | task (which : Task)
  deriving DecidableEq, Repr

namespace Side

/-- The choices that can be made on a side. -/
def choices : Side → List Choice
  | program => Choice.general
  | task which => Choice.ofTask which

/-- What a flag does. -/
inductive Flag
  | choose (choice : Choice)
  | halt (reason : Halt)

/-- The flag with a long name. -/
def longFlag? (side : Side) (name : String) : Option Flag :=
  if name = "help" then
    some (.halt .help)
  else if name = "version" ∧ side = program then
    some (.halt .version)
  else
    (side.choices.find? fun choice => choice.flag = name).map .choose

/-- The flag with a letter. -/
def shortFlag? (side : Side) (letter : Char) : Option Flag :=
  if letter = 'h' then
    some (.halt .help)
  else if letter = 'V' ∧ side = program then
    some (.halt .version)
  else
    none

/-- The word that asks for help about a task. -/
def helpWord : String :=
  "help"

/-- Why a word that is neither a flag nor a value is refused. After the flags
have been ended, a task is known but comes too late. -/
def strayWord (side : Side) (flagsEnded : Bool) (word : String) : Halt :=
  match side with
  | task _ => .unknownArgument
  | program =>
      if flagsEnded ∧ (word = helpWord ∨ (Task.ofWord? word).isSome) then
        .unknownArgument
      else
        .noSuchTask

end Side

/-- The forms of a word. -/
inductive Word
  | endOfFlags
  | long (name : String) (value : Option String)
  | short (letter : Char)
  | plain

namespace Word

/-- The form of a word. A single dash is plain. -/
def ofString (word : String) : Word :=
  match word.toList with
  | ['-', '-'] => endOfFlags
  | '-' :: '-' :: rest =>
      let name := String.ofList (rest.takeWhile (· ≠ '='))
      match rest.dropWhile (· ≠ '=') with
      | [] => long name none
      | _ :: value => long name (some (String.ofList value))
  | '-' :: letter :: _ => short letter
  | _ => plain

end Word

/-- The values given by flags, the latest first. -/
abbrev Given := List (Choice × String)

/-- A choice whose value has not been looked at, or not even been seen. -/
abbrev Pending := Option (Choice × Option String)

/-- A flag has been seen and its value has not. -/
def Pending.isAwaiting : Pending → Bool
  | some (_, none) => true
  | _ => false

namespace Given

/-- Make a choice. -/
def accept (given : Given) (choice : Choice) (value : String) : Except Halt Given :=
  if (given.lookup choice).isSome then
    .error .repeated
  else
    match choice.check value with
    | .ok () => .ok ((choice, value) :: given)
    | .error error => .error (.value error)

/-- Look at a pending value. -/
def settle (given : Given) : Pending → Except Halt Given
  | none => .ok given
  | some (_, none) => .error .valueMissing
  | some (choice, some value) => given.accept choice value

end Given

/-- What has been read of a side: the values, a pending one, and the task with
the words after it. -/
structure Reading where
  given : Given
  pending : Pending
  next : Option (Task × List String)

/-- The answer to a request for help about some words. -/
def helpAbout : List String → Halt
  | [] => .help
  | [word] =>
      if word = Side.helpWord ∨ (Task.ofWord? word).isSome then .help else .noSuchTask
  | _ => .noSuchTask

/-- Read the words of a side. -/
def readSide (side : Side) (given : Given) (pending : Pending) (flagsEnded : Bool) :
    List String → Except Halt Reading
  | [] => .ok { given, pending, next := none }
  | word :: rest =>
      if flagsEnded then
        .error (side.strayWord flagsEnded word)
      else if side = .program ∧ ¬ pending.isAwaiting ∧ word = Side.helpWord then
        .error (helpAbout rest)
      else
        match if side = .program ∧ ¬ pending.isAwaiting then Task.ofWord? word else none with
        | some task => .ok { given, pending, next := some (task, rest) }
        | none =>
            match Word.ofString word with
            | .endOfFlags => readSide side given pending true rest
            | .long name value =>
                match side.longFlag? name, value with
                | none, _ => .error .unknownArgument
                | some (.halt _), some _ => .error .valueSurplus
                | some (.halt reason), none =>
                    (given.settle pending).bind fun _ => .error reason
                | some (.choose choice), some value =>
                    (given.settle pending).bind fun given =>
                      (given.accept choice value).bind fun given =>
                        readSide side given none false rest
                | some (.choose choice), none =>
                    (given.settle pending).bind fun given =>
                      readSide side given (some (choice, none)) false rest
            | .short letter =>
                match side.shortFlag? letter with
                | some (.halt reason) => (given.settle pending).bind fun _ => .error reason
                | _ => .error .unknownArgument
            | .plain =>
                match pending with
                | some (choice, none) =>
                    readSide side given (some (choice, some word)) false rest
                | _ => .error (side.strayWord flagsEnded word)

/-- The values of environment variables. -/
abbrev Environment := String → Option String

namespace Environment

/-- The value of the variable of a choice. -/
def value? (environment : Environment) (choice : Choice) : Option String :=
  choice.environmentName?.bind environment

/-- Look at the variables of the choices that no flag has made. -/
def check (environment : Environment) (given : Given) : List Choice → Except Halt Unit
  | [] => .ok ()
  | choice :: rest =>
      match if (given.lookup choice).isSome then none else environment.value? choice with
      | none => environment.check given rest
      | some value =>
          match choice.check value with
          | .ok () => environment.check given rest
          | .error error => .error (.value error)

end Environment

/-- The values that count: of flags after the task, of flags before it, and of
variables, in this order. -/
def assignment (environment : Environment) (inner outer : Given) : Assignment := fun choice =>
  inner.lookup choice <|> outer.lookup choice <|> environment.value? choice

/-- Read a whole command line. -/
def read (environment : Environment) (arguments : List String) :
    Except Halt (Task × Assignment) := do
  let outer ← readSide .program [] none false arguments
  match outer.next with
  | some (task, rest) =>
      let inner ← readSide (.task task) [] none false rest
      let innerGiven ← inner.given.settle inner.pending
      environment.check innerGiven (Choice.ofTask task)
      let outerGiven ← outer.given.settle outer.pending
      environment.check outerGiven Choice.general
      .ok (task, assignment environment innerGiven outerGiven)
  | none =>
      let given ← outer.given.settle outer.pending
      environment.check given Choice.general
      if given.isEmpty ∧ Choice.general.all fun choice => (environment.value? choice).isNone then
        .error .nothingGiven
      else
        .error .taskMissing

end Switchboard.CommandLine
