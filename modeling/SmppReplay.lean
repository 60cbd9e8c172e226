import SmppReplay.AutoReply.Handles
import SmppReplay.AutoReply.Responder
import SmppReplay.AutoReply.TypeSet
import SmppReplay.Batch.Compile
import SmppReplay.Batch.CompileError
import SmppReplay.Batch.Event
import SmppReplay.Batch.FieldContent
import SmppReplay.Command.Arguments
import SmppReplay.Command.Performance
import SmppReplay.Command.Plan
import SmppReplay.Document.Json.Printer
import SmppReplay.Document.Json.Reader
import SmppReplay.Document.Reading
import SmppReplay.Document.Toml.Quoted
import SmppReplay.Document.Toml.Reader
import SmppReplay.Document.Toml.Scalar
import SmppReplay.Document.Toml.Table
import SmppReplay.Document.Value
import SmppReplay.Document.Yaml.Cursor
import SmppReplay.Document.Yaml.Node
import SmppReplay.Document.Yaml.Scalar
import SmppReplay.Document.Yaml.Token
import SmppReplay.ExecutionError
import SmppReplay.InPlace
import SmppReplay.Main
import SmppReplay.Pdu.Decode
import SmppReplay.Pdu.Encode
import SmppReplay.Pdu.Error
import SmppReplay.Pdu.Field
import SmppReplay.Pdu.FieldMap
import SmppReplay.Pdu.Header
import SmppReplay.Pdu.Layout
import SmppReplay.Pdu.Message
import SmppReplay.Pdu.MessageType
import SmppReplay.Pdu.StatusCode
import SmppReplay.Pdu.Value
import SmppReplay.Proofs.AutoReply.Answers
import SmppReplay.Proofs.AutoReply.Receipts
import SmppReplay.Proofs.AutoReply.Sharing
import SmppReplay.Proofs.AutoReply.Switching
import SmppReplay.Proofs.Batch.Automatic
import SmppReplay.Proofs.Batch.Composition
import SmppReplay.Proofs.Batch.FieldSources
import SmppReplay.Proofs.Batch.Inheritance
import SmppReplay.Proofs.Batch.Literals
import SmppReplay.Proofs.Batch.Malformed
import SmppReplay.Proofs.Batch.Messages
import SmppReplay.Proofs.Batch.Origins
import SmppReplay.Proofs.Batch.Segments
import SmppReplay.Proofs.Batch.Settings
import SmppReplay.Proofs.Batch.ShortMessages
import SmppReplay.Proofs.Batch.Statuses
import SmppReplay.Proofs.Command.Endings
import SmppReplay.Proofs.Faults
import SmppReplay.Proofs.Pdu.FieldMap
import SmppReplay.Proofs.Pdu.Frame
import SmppReplay.Proofs.Pdu.FrameSize
import SmppReplay.Proofs.Pdu.Grammar
import SmppReplay.Proofs.Pdu.OptionalFields
import SmppReplay.Proofs.Pdu.Renumbering
import SmppReplay.Proofs.Pdu.Rereading
import SmppReplay.Proofs.Pdu.RoundTrip
import SmppReplay.Proofs.Pdu.WellFormed
import SmppReplay.Proofs.Pdu.WireForm
import SmppReplay.Proofs.Pdu.Word
import SmppReplay.Proofs.Pdu.Written
import SmppReplay.Proofs.Rehearsal.Runs
import SmppReplay.Proofs.Replay.Aborts
import SmppReplay.Proofs.Replay.Account
import SmppReplay.Proofs.Replay.Connections
import SmppReplay.Proofs.Replay.Course
import SmppReplay.Proofs.Replay.EnabledTypes
import SmppReplay.Proofs.Replay.Entries
import SmppReplay.Proofs.Replay.Independence
import SmppReplay.Proofs.Replay.Ledger
import SmppReplay.Proofs.Replay.Moments
import SmppReplay.Proofs.Replay.Numbering
import SmppReplay.Proofs.Replay.PauseTimes
import SmppReplay.Proofs.Replay.Pauses
import SmppReplay.Proofs.Replay.Precedence
import SmppReplay.Proofs.Replay.Progress
import SmppReplay.Proofs.Replay.Runs
import SmppReplay.Proofs.Replay.Sequence
import SmppReplay.Proofs.Replay.ShownStatuses
import SmppReplay.Proofs.Replay.Tally
import SmppReplay.Proofs.Replay.Turns
import SmppReplay.Proofs.Replay.WireLimits
import SmppReplay.Proofs.Script.Delivery
import SmppReplay.Proofs.Script.Documents
import SmppReplay.Proofs.Script.Nesting
import SmppReplay.Proofs.Script.Spelling
import SmppReplay.Proofs.Text.Lines
import SmppReplay.Proofs.Text.Literal
import SmppReplay.Proofs.Text.Numeral
import SmppReplay.Proofs.Text.Respelling
import SmppReplay.Proofs.Text.Utf8
import SmppReplay.Proofs.Transcript.LineStructure
import SmppReplay.Proofs.Transcript.Outputs
import SmppReplay.Proofs.Transport.Chunking
import SmppReplay.Proofs.Transport.Lifecycle
import SmppReplay.Proofs.Transport.Moves
import SmppReplay.Proofs.Transport.Writing
import SmppReplay.Rehearsal.Peer
import SmppReplay.Rehearsal.Run
import SmppReplay.Replay.Outcome
import SmppReplay.Replay.PauseHandle
import SmppReplay.Replay.ReportText
import SmppReplay.Replay.State
import SmppReplay.Replay.Step
import SmppReplay.Script.Element
import SmppReplay.Script.Error
import SmppReplay.Script.Xml.Attribute
import SmppReplay.Script.Xml.Document
import SmppReplay.Script.Xml.Entity
import SmppReplay.Script.Xml.Token
import SmppReplay.Settings.Basic
import SmppReplay.Settings.Document
import SmppReplay.Settings.Load
import SmppReplay.Text.AsciiCase
import SmppReplay.Text.Blank
import SmppReplay.Text.Decimal
import SmppReplay.Text.Hex
import SmppReplay.Text.Numeral
import SmppReplay.Text.Printable
import SmppReplay.Text.Quoted
import SmppReplay.Text.SystemError
import SmppReplay.Text.Utf8
import SmppReplay.Transcript.Entry
import SmppReplay.Transcript.Log
import SmppReplay.Transport.Connection
import SmppReplay.Transport.ConnectionState
import SmppReplay.Transport.Endpoint
import SmppReplay.Transport.Error
import SmppReplay.Transport.Framing
