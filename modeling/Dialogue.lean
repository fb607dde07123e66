import Dialogue.Assistant
import Dialogue.Assistant.Ollama
import Dialogue.Command.Arguments
import Dialogue.Command.Check
import Dialogue.Command.Progress
import Dialogue.Command.Simulation
import Dialogue.Document.Basic
import Dialogue.Document.Decoder
import Dialogue.Document.Error
import Dialogue.Document.Record
import Dialogue.Document.Value
import Dialogue.Files.Tree
import Dialogue.Flow.Basic
import Dialogue.Flow.Decode
import Dialogue.Flow.Encode
import Dialogue.Flow.File
import Dialogue.Flow.Index
import Dialogue.Flow.Schema
import Dialogue.Instant.Basic
import Dialogue.Instant.Rfc3339
import Dialogue.Json.Basic
import Dialogue.Json.Numeral
import Dialogue.Json.Printer
import Dialogue.Json.Reader
import Dialogue.Json.StringToken
import Dialogue.Logging.Filter
import Dialogue.Logging.FlowEvent
import Dialogue.Logging.Setup
import Dialogue.Main
import Dialogue.Message
import Dialogue.Number.Basic
import Dialogue.Number.Shortest
import Dialogue.Proofs.Document.Likeness
import Dialogue.Proofs.Document.Reading
import Dialogue.Proofs.Document.Record
import Dialogue.Proofs.Document.Values
import Dialogue.Proofs.Files.Tree
import Dialogue.Proofs.Flow.Extras
import Dialogue.Proofs.Flow.Folder
import Dialogue.Proofs.Flow.Index
import Dialogue.Proofs.Flow.Reading
import Dialogue.Proofs.Flow.Roundtrip
import Dialogue.Proofs.Instant.Readback
import Dialogue.Proofs.Json.Numeral
import Dialogue.Proofs.Json.Readback
import Dialogue.Proofs.Json.Spacing
import Dialogue.Proofs.Routing.Choice
import Dialogue.Proofs.Routing.Desk
import Dialogue.Proofs.Routing.Faults
import Dialogue.Proofs.Routing.History
import Dialogue.Proofs.Routing.Isolation
import Dialogue.Proofs.Routing.LockTable
import Dialogue.Proofs.Routing.Locks
import Dialogue.Proofs.Routing.Noninterference
import Dialogue.Proofs.Routing.Registry
import Dialogue.Proofs.Routing.Relay
import Dialogue.Proofs.Routing.Route
import Dialogue.Proofs.Routing.Sender
import Dialogue.Proofs.Routing.Serial
import Dialogue.Proofs.Routing.SingleUse
import Dialogue.Proofs.Routing.Stale
import Dialogue.Proofs.Run.Balance
import Dialogue.Proofs.Run.Classification
import Dialogue.Proofs.Run.Course
import Dialogue.Proofs.Run.Cut
import Dialogue.Proofs.Run.Effects
import Dialogue.Proofs.Run.Entry
import Dialogue.Proofs.Run.Faithful
import Dialogue.Proofs.Run.Indifference
import Dialogue.Proofs.Run.Once
import Dialogue.Proofs.Run.OwnLabel
import Dialogue.Proofs.Run.Program
import Dialogue.Proofs.Run.Reach
import Dialogue.Proofs.Run.Requests
import Dialogue.Proofs.Run.Responder
import Dialogue.Proofs.Run.Step
import Dialogue.Proofs.Run.Told
import Dialogue.Proofs.Run.Turn
import Dialogue.Proofs.Run.Wire
import Dialogue.Proofs.Suspension.Key
import Dialogue.Proofs.Suspension.Store
import Dialogue.Proofs.Suspension.Timed
import Dialogue.Proofs.Text.Bytes
import Dialogue.Proofs.Text.Mention
import Dialogue.Proofs.Text.Pattern
import Dialogue.Proofs.Validation.Components
import Dialogue.Proofs.Validation.Cycles
import Dialogue.Proofs.Validation.Digraph
import Dialogue.Proofs.Validation.Issues
import Dialogue.Proofs.Validation.Labels
import Dialogue.Proofs.Validation.Order
import Dialogue.Proofs.Validation.Sound
import Dialogue.Proofs.Validation.Structure
import Dialogue.Routing.Desk
import Dialogue.Routing.Registry
import Dialogue.Routing.Route
import Dialogue.Routing.Shutdown
import Dialogue.Routing.Traffic
import Dialogue.Run.Choice
import Dialogue.Run.Program
import Dialogue.Run.Report
import Dialogue.Run.Step
import Dialogue.Run.Turn
import Dialogue.Run.Walk
import Dialogue.Settings.Dotenv
import Dialogue.Settings.Load
import Dialogue.Settings.Run
import Dialogue.Settings.Source
import Dialogue.Suspension.Basic
import Dialogue.Suspension.Cache
import Dialogue.Suspension.Calls
import Dialogue.Suspension.Store
import Dialogue.Table
import Dialogue.Text.Basic
import Dialogue.Text.CaseTable
import Dialogue.Text.Escaped
import Dialogue.Text.Lowercase
import Dialogue.Text.Mention
import Dialogue.Text.Pattern
import Dialogue.Text.Quoted
import Dialogue.Text.WordChar
import Dialogue.Url.Host
import Dialogue.Url.Parser
import Dialogue.Url.Percent
import Dialogue.Url.Punycode
import Dialogue.Validation.Basic
import Dialogue.Validation.Digraph
import Dialogue.Validation.Issue
import Dialogue.Yaml.Block
import Dialogue.Yaml.Character
import Dialogue.Yaml.Flowing
import Dialogue.Yaml.Gap
import Dialogue.Yaml.Lexer
import Dialogue.Yaml.Node
import Dialogue.Yaml.Printer
import Dialogue.Yaml.Scalar
