import CheckIn.Cbor.Decoder
import CheckIn.Cbor.Encoder
import CheckIn.Cbor.Head
import CheckIn.Cbor.Labelled
import CheckIn.Cbor.Segment
import CheckIn.Cbor.Value
import CheckIn.Coap.Block
import CheckIn.Coap.Code
import CheckIn.Coap.Packet
import CheckIn.Command
import CheckIn.CommandLine
import CheckIn.CommandLine.Parser
import CheckIn.Decimal.Binary
import CheckIn.Decimal.Layout
import CheckIn.Decimal.Shortest
import CheckIn.DotEnv
import CheckIn.Endpoint
import CheckIn.Environment
import CheckIn.Exchange
import CheckIn.Failure
import CheckIn.Files
import CheckIn.Heartbeat.Request
import CheckIn.Heartbeat.Response
import CheckIn.Host
import CheckIn.Json.Cursor
import CheckIn.Json.Number
import CheckIn.Json.Record
import CheckIn.Json.Skip
import CheckIn.Json.Text
import CheckIn.Log.Event
import CheckIn.Log.Filter
import CheckIn.Log.Pattern
import CheckIn.Machine
import CheckIn.Net.Address
import CheckIn.Net.IoFault
import CheckIn.Net.Lookup
import CheckIn.Net.Simulation
import CheckIn.Net.SystemText
import CheckIn.Net.Wire
import CheckIn.Outcome
import CheckIn.Program
import CheckIn.Report
import CheckIn.Settings
import CheckIn.Settings.Loading
import CheckIn.Text.Alphanumeric
import CheckIn.Text.Blank
import CheckIn.Text.ControlSequence
import CheckIn.Text.Fields
import CheckIn.Text.Numeral
import CheckIn.Text.Printable
import CheckIn.Text.Quoted
import CheckIn.Text.Utf8
import CheckIn.Transport.Basic
import CheckIn.Transport.Guard
import CheckIn.Transport.Script
import CheckIn.Udp.Client
import CheckIn.Udp.Session
import CheckIn.Udp.Transfer
import CheckIn.World
import CheckIn.Main
import CheckIn.Proofs.Exchange.History
import CheckIn.Proofs.Exchange.OutcomeLaw
import CheckIn.Proofs.Text.Utf8
import CheckIn.Proofs.Cbor.Grammar
import CheckIn.Proofs.Decimal.Widening
import CheckIn.Proofs.Cbor.Reading
import CheckIn.Proofs.Cbor.Chunks
import CheckIn.Proofs.Cbor.Head
import CheckIn.Proofs.Cbor.Strings
import CheckIn.Proofs.Cbor.Decoding
import CheckIn.Proofs.Cbor.Encoding
import CheckIn.Proofs.Heartbeat.RoundTrip
import CheckIn.Proofs.Heartbeat.Meaning
import CheckIn.Proofs.Net.Simulation
import CheckIn.Proofs.Udp.Exchange
import CheckIn.Proofs.Udp.Steps
import CheckIn.Proofs.Udp.Provenance
import CheckIn.Proofs.Coap.Block
import CheckIn.Proofs.Udp.Progress
import CheckIn.Proofs.Udp.Blockwise
import CheckIn.Proofs.Json.Uniform
import CheckIn.Proofs.Json.Canonical
import CheckIn.Proofs.DotEnv
import CheckIn.Proofs.DotEnv.Nearest
import CheckIn.Proofs.DotEnv.Spelling
import CheckIn.Proofs.Settings.Overlay
import CheckIn.Proofs.Settings.Precedence
import CheckIn.Proofs.Coap.Packet
import CheckIn.Proofs.Udp.Arrivals
import CheckIn.Proofs.Udp.DeliveryModes
import CheckIn.Proofs.Udp.Termination
import CheckIn.Proofs.Udp.Deadlines
import CheckIn.Proofs.Exchange.Relation
import CheckIn.Proofs.Exchange.Joined
import CheckIn.Proofs.Udp.Overdue
import CheckIn.Proofs.Command.Deadlines
import CheckIn.Proofs.Cbor.Extension
import CheckIn.Proofs.Udp.Logging
import CheckIn.Proofs.Program.Contract
import CheckIn.Proofs.Program.Sources
import CheckIn.Proofs.Text.Lines
import CheckIn.Proofs.Report.Lines
import CheckIn.Proofs.Report.Entries
import CheckIn.Proofs.Report.Integers
import CheckIn.Proofs.Udp.Reassembly
import CheckIn.Proofs.Udp.Transmissions
import CheckIn.Proofs.Udp.Transparency
import CheckIn.Proofs.Udp.Told
import CheckIn.Proofs.Program.Shown
import CheckIn.Proofs.Text.Repair
import CheckIn.Proofs.Exchange.Refusal
import CheckIn.Proofs.Text.Fields
import CheckIn.Proofs.Text.Digits
import CheckIn.Proofs.Net.Literal
import CheckIn.Proofs.Endpoint.Literal
import CheckIn.Proofs.Endpoint.Uri
import CheckIn.Proofs.Settings.Overrides
import CheckIn.Proofs.Coap.Options
import CheckIn.Proofs.Udp.Layout
import CheckIn.Proofs.Json.Grammar
import CheckIn.Proofs.Json.Skipping
import CheckIn.Proofs.Json.Scanning
import CheckIn.Proofs.Json.Integers
import CheckIn.Proofs.Json.Names
import CheckIn.Proofs.Json.Objects
import CheckIn.Proofs.Settings.Documents
import CheckIn.Proofs.CommandLine.Numerals
import CheckIn.Proofs.Text.Numerals
import CheckIn.Proofs.CommandLine.Holding
import CheckIn.Proofs.Settings.Numerals
import CheckIn.Proofs.Program.Numerals
import CheckIn.Proofs.Exchange.LogLaw
import CheckIn.Proofs.Text.Quoted
import CheckIn.Proofs.Cbor.Labelled
import CheckIn.Proofs.Report.Descriptions
import CheckIn.Proofs.Exchange.Serving
import CheckIn.Proofs.Udp.Lifetime
import CheckIn.Proofs.CommandLine.Pieces
import CheckIn.Proofs.CommandLine.Interleaving
import CheckIn.Proofs.Cbor.Texts
