import Switchboard.Command
import Switchboard.CommandLine.Arguments
import Switchboard.CommandLine.Choice
import Switchboard.Directory
import Switchboard.Event
import Switchboard.Exchange
import Switchboard.Exchange.Dispatch
import Switchboard.Exchange.Inbox
import Switchboard.Exchange.Operation
import Switchboard.Http
import Switchboard.Http.Pattern
import Switchboard.Http.Router
import Switchboard.Http.Target
import Switchboard.Identity
import Switchboard.Json.Document
import Switchboard.Json.Literal
import Switchboard.Json.Token
import Switchboard.Json.Value
import Switchboard.LogFilter
import Switchboard.LogFilter.Directive
import Switchboard.LogFilter.Expression
import Switchboard.LogFilter.Expression.Atom
import Switchboard.LogFilter.Expression.Bracket
import Switchboard.LogFilter.Expression.Depth
import Switchboard.LogFilter.Expression.Mode
import Switchboard.Mailbox
import Switchboard.Main
import Switchboard.Network.Address
import Switchboard.Network.Host
import Switchboard.Notice
import Switchboard.Program
import Switchboard.Queue
import Switchboard.Rooms
import Switchboard.Server
import Switchboard.Settings
import Switchboard.Terminal
import Switchboard.Text.Alphanumeric
import Switchboard.Text.Ascii
import Switchboard.Text.Blank
import Switchboard.Text.Numeral
import Switchboard.Text.Utf8
import Switchboard.Vocabulary
import Switchboard.Proofs.Lookup
import Switchboard.Proofs.Vocabulary
import Switchboard.Proofs.Settings
import Switchboard.Proofs.Http.Router
import Switchboard.Proofs.Directory
import Switchboard.Proofs.Exchange.Delivery
import Switchboard.Proofs.Exchange.Calls
import Switchboard.Proofs.Exchange.Step
import Switchboard.Proofs.Exchange.Membership
import Switchboard.Proofs.Exchange.Lifecycle
import Switchboard.Proofs.Exchange.DeliveryLog
import Switchboard.Proofs.Exchange.Eviction
import Switchboard.Proofs.Text.Utf8
import Switchboard.Proofs.Json.Literal
import Switchboard.Proofs.Json.Number
import Switchboard.Proofs.Json.Token
import Switchboard.Proofs.Json.Value
import Switchboard.Proofs.Json.ValueText
import Switchboard.Proofs.Json.Document
import Switchboard.Proofs.Json.Record
import Switchboard.Proofs.Command
import Switchboard.Proofs.Notice.Written
import Switchboard.Proofs.Notice
import Switchboard.Proofs.Exchange.Gains
import Switchboard.Proofs.Exchange.Authorship
import Switchboard.Proofs.Exchange.Relaying
import Switchboard.Proofs.Exchange.Teardown
import Switchboard.Proofs.Rooms.Occupancy
import Switchboard.Proofs.Exchange.Inbox
import Switchboard.Proofs.Command.Edit
import Switchboard.Proofs.Command.Relabelling
import Switchboard.Proofs.Rooms.Lifetime
import Switchboard.Proofs.Exchange.Departure
import Switchboard.Proofs.Exchange.Failure
import Switchboard.Proofs.Exchange.Changes
import Switchboard.Proofs.Exchange.Reach
import Switchboard.Proofs.Exchange.RoomLog
import Switchboard.Proofs.Exchange.Closing
import Switchboard.Proofs.Exchange.Readers
import Switchboard.Proofs.Exchange.Provenance
import Switchboard.Proofs.Exchange.ErrorEvent
import Switchboard.Proofs.Exchange.Mirror
import Switchboard.Proofs.Exchange.Translation
import Switchboard.Proofs.Server.Start
import Switchboard.Proofs.Server.Entrance
import Switchboard.Proofs.Server.Sessions
import Switchboard.Proofs.Server.Greeting
import Switchboard.Proofs.Server.Launch
import Switchboard.Proofs.Rooms.Desertion
import Switchboard.Proofs.Exchange.Slot
import Switchboard.Proofs.Exchange.Order
import Switchboard.Proofs.Exchange.Broadcast
import Switchboard.Proofs.Exchange.Unheard
import Switchboard.Proofs.Exchange.Reply
import Switchboard.Proofs.Settings.Addressing
import Switchboard.Proofs.Mailbox.Conduct
import Switchboard.Proofs.Exchange.Removal
import Switchboard.Proofs.Exchange.Listing
import Switchboard.Proofs.Exchange.Verdict
import Switchboard.Proofs.Exchange.Forwarding
import Switchboard.Proofs.Directory.Registrations
import Switchboard.Proofs.Terminal
import Switchboard.Proofs.CommandLine
import Switchboard.Proofs.CommandLine.Origin
import Switchboard.Proofs.Program
