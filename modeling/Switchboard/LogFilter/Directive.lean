import Switchboard.LogFilter.Expression

/-!
# Log directives

A directive says which log lines are written. It names a level, or a target
and a level behind an equals sign. Behind the target, or in place of it, a
span may stand in brackets, and in the span a field in braces.

Blanks around a directive are passed over. But the places of its parts, which
are counted in bytes from the first character that is no blank, are looked up
in the whole directive. So behind blanks a directive falls into wrong parts,
and may fall apart within a character.
-/

namespace Switchboard

/-- How important a log line is. -/
inductive LogLevel
  | off
  | error
  | warn
  | info
  | debug
  | trace
  deriving DecidableEq, Repr

namespace LogLevel

/-- All levels, in the order of their numbers. -/
def all : List LogLevel :=
  [off, error, warn, info, debug, trace]

/-- The word for a level. -/
def word : LogLevel → String
  | off => "off"
  | error => "error"
  | warn => "warn"
  | info => "info"
  | debug => "debug"
  | trace => "trace"

/-- The level that a word or a number stands for. Words are read without
case. -/
def read? (text : String) : Option LogLevel :=
  match Text.Numeral.readUnsigned? 64 text with
  | some number => all[number]?
  | none => all.find? fun level => level.word = text.map Char.toLower

end LogLevel

namespace LogFilter

open Text

/-- Why a directive cannot be used. -/
inductive DirectiveError
  | malformed
  | unknownLevel
  | field (error : ExpressionError)
  /-- The directive falls apart within a character. -/
  | torn
  deriving DecidableEq, Repr

/-- The explanation of an error. -/
def DirectiveError.message : DirectiveError → String
  | malformed => "invalid filter directive"
  | unknownLevel =>
      "error parsing level filter: expected one of \"off\", \"error\", \"warn\", \"info\", " ++
        "\"debug\", \"trace\", or a number 0-5"
  | field error => "invalid field filter: " ++ error.message
  | torn => "a part of the directive begins or ends within a character"

/-- A field that a span must have, and the value that is looked for. -/
structure FieldTest where
  name : String
  value : Option String := none
  deriving DecidableEq, Repr

/-- Which log lines are written. -/
structure Directive where
  target : Option String := none
  span : Option String := none
  field : Option FieldTest := none
  level : LogLevel := .trace
  deriving DecidableEq, Repr

namespace FieldTest

/-- Whether some characters are a number, written with or without a point and
an exponent. -/
def isDecimal (characters : List Char) : Bool :=
  let isRun (digits : List Char) : Bool := digits.all Char.isDigit
  let beforeExponent := characters.takeWhile fun character => character ≠ 'e' && character ≠ 'E'
  let whole := beforeExponent.takeWhile (· ≠ '.')
  let fraction := (beforeExponent.drop whole.length).drop 1
  let exponent := match (characters.drop beforeExponent.length).drop 1 with
    | '+' :: digits | '-' :: digits => digits
    | digits => digits
  isRun whole && isRun fraction && isRun exponent && whole ++ fraction ≠ [] &&
    (beforeExponent.length = characters.length || exponent ≠ [])

/-- Whether a text is a number with a plus sign, which would not be an
expression. -/
def isPlusNumber (text : String) : Bool :=
  match text.toList with
  | '+' :: rest =>
      isDecimal rest || ["inf", "infinity", "nan"].contains ((String.ofList rest).map Char.toLower)
  | _ => false

/-- Read a field. Behind an equals sign stands a number or an expression, and
whatever follows another equals sign is ignored. -/
def read (text : String) : Except DirectiveError FieldTest :=
  let name := text.toList.takeWhile (· ≠ '=')
  match text.toList.drop name.length with
  | [] => .ok { name := text }
  | _ :: rest =>
      let value := String.ofList (rest.takeWhile (· ≠ '='))
      match if isPlusNumber value then .ok () else Expression.check value with
      | .error error => .error (.field error)
      | .ok () => .ok { name := String.ofList name, value := some value }

end FieldTest

namespace Directive

/-- Whether no character lies on both sides of a place between bytes. -/
def isBoundary (whole : Bytes) (place : Nat) : Bool :=
  match whole[place]? with
  | none => true
  | some byte => byte < 0x80 || 0xc0 ≤ byte

/-- The part between two places. -/
def part (whole : Bytes) (start stop : Nat) : Except DirectiveError String :=
  match if isBoundary whole start ∧ isBoundary whole stop then
      ofUtf8? ((whole.take stop).drop start)
    else
      none with
  | some text => .ok text
  | none => .error .torn

/-- The number of bytes of some characters. -/
def size (characters : List Char) : Nat :=
  (utf8 (String.ofList characters)).length

/-- Read the level at the end of a directive. No level stands for the widest
one. -/
def readLevel (whole : Bytes) (start : Nat) : Except DirectiveError LogLevel := do
  let text ← part whole start whole.length
  if text = "" then
    return .trace
  else
    match LogLevel.read? text with
    | some level => return level
    | none => throw .unknownLevel

/-- Read what follows a span. -/
def readAfterSpan (whole : Bytes) (directive : Directive) (place : Nat) :
    List Char → Except DirectiveError Directive
  | [] => .ok directive
  | '=' :: _ => (readLevel whole (place + 1)).map ({ directive with level := · })
  | _ => .error .malformed

/-- Read a field and what follows it. -/
def readField (whole : Bytes) (directive : Directive) (place : Nat) (characters : List Char) :
    Except DirectiveError Directive := do
  let inner := characters.takeWhile (· ≠ '\x7d')
  let behind := characters.drop inner.length
  if behind = [] then
    throw .malformed
  else
    let stop := place + size inner
    let text ← part whole place stop
    if text = "" then
      throw .malformed
    else
      let field ← FieldTest.read text
      match behind with
      | _ :: ']' :: rest => readAfterSpan whole { directive with field } (stop + 2) rest
      | _ => throw .malformed

/-- Read a span and what follows it. -/
def readSpan (whole : Bytes) (directive : Directive) (place : Nat) (characters : List Char) :
    Except DirectiveError Directive := do
  let inner := characters.takeWhile fun character => character ≠ ']' && character ≠ '\x7b'
  let stop := place + size inner
  match characters.drop inner.length with
  | ']' :: rest =>
      let span ← part whole place stop
      readAfterSpan whole { directive with span } (stop + 1) rest
  | _ :: rest =>
      let span ← part whole place stop
      readField whole { directive with span := if span = "" then none else some span }
        (stop + 1) rest
  | [] => throw .malformed

/-- Whether a directive can begin with a character, apart from a bracket. -/
def canBeginWith (character : Char) : Bool :=
  isAlphanumeric character || ['-', ':', '_'].contains character

/-- Read a directive. -/
def read (text : String) : Except DirectiveError Directive := do
  let whole := utf8 text
  match (trimEnd text).toList.dropWhile isWhiteSpace with
  | [] => throw .malformed
  | '[' :: rest => readSpan whole {} 1 rest
  | first :: rest =>
      let head := (first :: rest).takeWhile fun character => character ≠ '=' && character ≠ '['
      let stop := size head
      if ¬ canBeginWith first then
        throw .malformed
      else
        match (first :: rest).drop head.length with
        | [] =>
            match LogLevel.read? text with
            | some level => return { level }
            | none => return { target := some text }
        | '=' :: _ =>
            let target ← part whole 0 stop
            let level ← readLevel whole (stop + 1)
            return { target := some target, level }
        | _ :: rest =>
            let target ← part whole 0 stop
            readSpan whole { target := some target } (stop + 1) rest

end Directive

end LogFilter

end Switchboard
