import ReplLink.CommandLine.Arguments
import ReplLink.CommandLine.Conversation
import ReplLink.CommandLine.Launch
import ReplLink.CommandLine.Line
import ReplLink.CommandLine.Output
import ReplLink.Contexts
import ReplLink.Datum.Atom
import ReplLink.Datum.Basic
import ReplLink.Datum.Json
import ReplLink.Datum.Printer
import ReplLink.Datum.Reader
import ReplLink.Decimal.Binary64
import ReplLink.Decimal.Digits
import ReplLink.Decimal.Layout
import ReplLink.Decimal.Numeral
import ReplLink.Decimal.Rounding
import ReplLink.Decimal.Shortest
import ReplLink.Files
import ReplLink.Keyed
import ReplLink.KnownNames
import ReplLink.Main
import ReplLink.Namespace
import ReplLink.Proofs.CommandLine.Answering
import ReplLink.Proofs.CommandLine.Conversing
import ReplLink.Proofs.CommandLine.Dialogue
import ReplLink.Proofs.CommandLine.Ending
import ReplLink.Proofs.CommandLine.Rendering
import ReplLink.Proofs.CommandLine.Script
import ReplLink.Proofs.CommandLine.Waiting
import ReplLink.Proofs.Contexts.Connects
import ReplLink.Proofs.Contexts.Owners
import ReplLink.Proofs.Contexts.Traffic
import ReplLink.Proofs.Datum.Completion
import ReplLink.Proofs.Datum.Doubles
import ReplLink.Proofs.Datum.Grammar
import ReplLink.Proofs.Datum.Growth
import ReplLink.Proofs.Datum.Printed
import ReplLink.Proofs.Datum.Rereading
import ReplLink.Proofs.Decimal.Characters
import ReplLink.Proofs.Decimal.Numerals
import ReplLink.Proofs.Decimal.Rereading
import ReplLink.Proofs.Decimal.Rounding
import ReplLink.Proofs.Decimal.Shortest
import ReplLink.Proofs.Request.Lines
import ReplLink.Proofs.Request.Pieces
import ReplLink.Proofs.Request.Rereading
import ReplLink.Proofs.Routing.Absence
import ReplLink.Proofs.Routing.Answers
import ReplLink.Proofs.Routing.Ascending
import ReplLink.Proofs.Routing.Charges
import ReplLink.Proofs.Routing.Discharge
import ReplLink.Proofs.Routing.Dismissal
import ReplLink.Proofs.Routing.Fates
import ReplLink.Proofs.Routing.Ledger
import ReplLink.Proofs.Routing.Machine
import ReplLink.Proofs.Routing.Order
import ReplLink.Proofs.Routing.Renumbering
import ReplLink.Proofs.Routing.RequestId
import ReplLink.Proofs.Routing.Resolution
import ReplLink.Proofs.Routing.Rest
import ReplLink.Proofs.Routing.Roster
import ReplLink.Proofs.Routing.Settlement
import ReplLink.Proofs.Routing.Snapshot
import ReplLink.Proofs.Routing.Tasks
import ReplLink.Proofs.Routing.Waiters
import ReplLink.Proofs.Routing.Words
import ReplLink.Proofs.Session.Accounts
import ReplLink.Proofs.Session.Alone
import ReplLink.Proofs.Session.Chronicle
import ReplLink.Proofs.Session.Closing
import ReplLink.Proofs.Session.Correlation
import ReplLink.Proofs.Session.Delivery
import ReplLink.Proofs.Session.Errands
import ReplLink.Proofs.Session.Inert
import ReplLink.Proofs.Session.Moves
import ReplLink.Proofs.Session.NameLists
import ReplLink.Proofs.Session.Observer
import ReplLink.Proofs.Session.Origin
import ReplLink.Proofs.Session.Outstanding
import ReplLink.Proofs.Session.Parting
import ReplLink.Proofs.Session.Recorded
import ReplLink.Proofs.Session.Renumbering
import ReplLink.Proofs.Session.Sending
import ReplLink.Proofs.Session.Shelves
import ReplLink.Proofs.Session.Stages
import ReplLink.Proofs.Session.Transcript
import ReplLink.Proofs.Stream.Chunks
import ReplLink.Proofs.Stream.Decoding
import ReplLink.Proofs.Stream.Rejected
import ReplLink.Proofs.Stream.Rounds
import ReplLink.Proofs.Stream.Scan
import ReplLink.Proofs.Stream.Shapes
import ReplLink.Proofs.Stream.Upkeep
import ReplLink.Proofs.Stream.Wires
import ReplLink.Proofs.Text.ByteOrder
import ReplLink.Proofs.Text.Lossy
import ReplLink.Proofs.Text.Replacing
import ReplLink.Proofs.Text.RoundTrip
import ReplLink.Proofs.Text.Trimming
import ReplLink.Request
import ReplLink.Response
import ReplLink.Routing.Event
import ReplLink.Routing.Job
import ReplLink.Routing.RequestId
import ReplLink.Routing.Roster
import ReplLink.Routing.Router
import ReplLink.Session.Basic
import ReplLink.Session.Calls
import ReplLink.Settings
import ReplLink.Stream.EndScan
import ReplLink.Stream.Inbox
import ReplLink.Text.Ascii
import ReplLink.Text.Blank
import ReplLink.Text.Printable
import ReplLink.Text.Quoted
import ReplLink.Text.Utf8
import ReplLink.Toml.Document
import ReplLink.Toml.Node
import ReplLink.Toml.Scalar
import ReplLink.Toml.Scan
