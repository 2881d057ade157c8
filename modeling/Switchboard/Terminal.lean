import Switchboard.Json.Literal
import Switchboard.Notice
import Switchboard.Text.Ascii
import Switchboard.Text.Blank

/-!
# The terminal client

Lines typed at the terminal go out as frames: a line that begins with a brace
as it is, and any other as a broadcast of its text. Blanks at the end of a
line do not count, lines of blanks are skipped, and one word ends the client.
Whatever the server sends is printed, a line for each message.
-/

namespace Switchboard.Terminal

open Switchboard.Text

/-- The word that ends the client. -/
def quitWord : String :=
  "/quit"

/-- The frame by which a text is broadcast. -/
def broadcastText (line : String) : String :=
  Notice.writtenObject
    [("payload", Json.quoted line), ("type", Json.quoted (Vocabulary.standard.label .broadcast))]

/-- The frame that a line goes out as. -/
def outgoing (line : String) : String :=
  if line.toList.head? = some '\x7b' then line else broadcastText line

/-- What a line asks for. -/
inductive Entry
  | skip
  | quit
  | send (frame : String)
  deriving DecidableEq, Repr

namespace Entry

/-- Read a line. -/
def ofLine (line : String) : Entry :=
  let trimmed := trimEnd line
  if trimmed = "" then
    skip
  else if trimmed.map Char.toLower = quitWord then
    quit
  else
    send (outgoing trimmed)

end Entry

/-- How the client ends. -/
inductive Ending
  | orderly
  | failed (reason : String)
  deriving DecidableEq, Repr

/-- The state of a client. -/
structure Client where
  /-- What has been typed since the last line feed. -/
  typed : Bytes := []
  /-- The frames that have been sent. -/
  sent : List String := []
  /-- What has been printed. -/
  printed : Bytes := []
  ending : Option Ending := none
  deriving DecidableEq, Repr

/-- What can happen to a client. -/
inductive Happening
  | typed (bytes : Bytes)
  | endOfInput
  | interrupt
  | text (content : Bytes)
  | binary (content : Bytes)
  | ping
  | closedByServer
  | lostServer
  deriving DecidableEq, Repr

namespace Client

/-- Act on a typed line. -/
def enter (client : Client) (line : Bytes) : Client :=
  match client.ending, ofUtf8? line with
  | some _, _ => client
  | none, none =>
      { client with ending := some (.failed "stream did not contain valid UTF-8") }
  | none, some line =>
      match Entry.ofLine line with
      | .skip => client
      | .quit => { client with ending := some .orderly }
      | .send frame => { client with sent := client.sent ++ [frame] }

/-- Take in typed bytes, one after the other. -/
def takeIn (client : Client) : Bytes → Client
  | [] => client
  | byte :: rest =>
      if byte = Ascii.lineFeed then
        takeIn { client.enter client.typed with typed := [] } rest
      else
        takeIn { client with typed := client.typed ++ [byte] } rest

/-- Print a message and a line feed. -/
def print (client : Client) (content : Bytes) : Client :=
  { client with printed := client.printed ++ content ++ [Ascii.lineFeed] }

/-- Let something happen. Nothing happens to a client that has ended. -/
def step (client : Client) (happening : Happening) : Client :=
  if client.ending.isSome then
    client
  else
    match happening with
    | .typed bytes => client.takeIn bytes
    | .endOfInput =>
        let entered := if client.typed = [] then client else client.enter client.typed
        { entered with typed := [], ending := entered.ending <|> some .orderly }
    | .interrupt => { client with ending := some .orderly }
    | .text content => client.print content
    | .binary content => client.print (repaired content)
    | .ping => client
    | .closedByServer => { client with ending := some .orderly }
    | .lostServer => { client with ending := some (.failed "connection to relay failed") }

end Client

end Switchboard.Terminal
