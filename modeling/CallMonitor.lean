import CallMonitor.Agent.Basic
import CallMonitor.Agent.Hook
import CallMonitor.Bindings
import CallMonitor.Calendar
import CallMonitor.Call.Record
import CallMonitor.Call.Value
import CallMonitor.Cli.Arguments
import CallMonitor.Cli.Commands
import CallMonitor.Cli.Enclosure
import CallMonitor.Cli.Evaluation
import CallMonitor.Cli.Filter
import CallMonitor.Cli.Help
import CallMonitor.Cli.NoticeLine
import CallMonitor.Cli.Recorder
import CallMonitor.Cli.Report
import CallMonitor.Cli.Rows
import CallMonitor.Cli.Style
import CallMonitor.Cli.Surroundings
import CallMonitor.Client
import CallMonitor.Context
import CallMonitor.Failure
import CallMonitor.Files
import CallMonitor.Json.Scan
import CallMonitor.Json.Value
import CallMonitor.Json.Write
import CallMonitor.Log.Buffer
import CallMonitor.Log.Entry
import CallMonitor.Main
import CallMonitor.Monitor.Action
import CallMonitor.Monitor.Answer
import CallMonitor.Monitor.Command
import CallMonitor.Net.Address
import CallMonitor.Net.Network
import CallMonitor.Notice
import CallMonitor.Policy.Line
import CallMonitor.Policy.Rule
import CallMonitor.Policy.Table
import CallMonitor.Policy.Verdict
import CallMonitor.Server.Handler
import CallMonitor.Server.Loop
import CallMonitor.Server.Start
import CallMonitor.Server.StartError
import CallMonitor.Server.Stop
import CallMonitor.Settings.Basic
import CallMonitor.Settings.Document
import CallMonitor.Settings.Place
import CallMonitor.Text.Blank
import CallMonitor.Text.Hidden
import CallMonitor.Text.Quoted
import CallMonitor.Text.Split
import CallMonitor.Text.Unstyled
import CallMonitor.Text.Utf8
import CallMonitor.Toml.Document
import CallMonitor.Toml.Item
import CallMonitor.Toml.Moment
import CallMonitor.Toml.Number
import CallMonitor.Toml.Quoted
import CallMonitor.Toml.Scan
import CallMonitor.Toml.Value
import CallMonitor.Toml.Write
import CallMonitor.Wire.Body
import CallMonitor.Wire.Frame
import CallMonitor.Wire.Message
import CallMonitor.Proofs.Monitor.Conservation
import CallMonitor.Proofs.Server.Session
import CallMonitor.Proofs.Server.Serving
import CallMonitor.Proofs.Server.Rest
import CallMonitor.Proofs.Json.RoundTrip
import CallMonitor.Proofs.Wire.Rows
import CallMonitor.Proofs.Client.Asking
import CallMonitor.Proofs.Client.Queries
import CallMonitor.Proofs.Policy.Lookup
import CallMonitor.Proofs.Policy.RuleLines
import CallMonitor.Proofs.Text.Lines
import CallMonitor.Proofs.Text.Occurrences
import CallMonitor.Proofs.Text.Digits
import CallMonitor.Proofs.Toml.Numbers
import CallMonitor.Proofs.Toml.Strings
import CallMonitor.Proofs.Toml.Values
import CallMonitor.Proofs.Toml.Documents
import CallMonitor.Proofs.Toml.Bounds
import CallMonitor.Proofs.Net.Addresses
import CallMonitor.Proofs.Files
import CallMonitor.Proofs.Settings.Saving
import CallMonitor.Proofs.Settings.Fields
import CallMonitor.Proofs.Call.Payload
import CallMonitor.Proofs.Call.Words
import CallMonitor.Proofs.Call.Capping
import CallMonitor.Proofs.Log.Tags
import CallMonitor.Proofs.Monitor.Refusal
import CallMonitor.Proofs.Json.Objects
import CallMonitor.Proofs.Json.Spread
import CallMonitor.Proofs.Wire.Messages
import CallMonitor.Proofs.Wire.Stream
import CallMonitor.Proofs.Server.Moves
import CallMonitor.Proofs.Server.Stopping
import CallMonitor.Proofs.Policy.Identities
import CallMonitor.Proofs.Policy.Statements
import CallMonitor.Proofs.Policy.Readers
import CallMonitor.Proofs.Calendar.Dates
import CallMonitor.Proofs.Calendar.Timestamps
import CallMonitor.Proofs.Monitor.Timestamps
import CallMonitor.Proofs.Text.Utf8
import CallMonitor.Proofs.Json.Grammar
import CallMonitor.Proofs.Json.Strings
import CallMonitor.Proofs.Json.Lists
import CallMonitor.Proofs.Wire.Response
import CallMonitor.Proofs.Agent.Recording
import CallMonitor.Proofs.Agent.Interception
import CallMonitor.Proofs.Cli.Evaluations
import CallMonitor.Proofs.Cli.InputLines
import CallMonitor.Proofs.Agent.Threads
import CallMonitor.Proofs.Agent.Alone
import CallMonitor.Proofs.Policy.Methods
import CallMonitor.Proofs.Policy.WrittenRules
import CallMonitor.Proofs.Call.Scanning
import CallMonitor.Proofs.Server.Slot
import CallMonitor.Proofs.Policy.Matching
import CallMonitor.Proofs.Policy.LineEnds
import CallMonitor.Proofs.Server.Starting
import CallMonitor.Proofs.Server.Dismissal
import CallMonitor.Proofs.Agent.Lifecycle
import CallMonitor.Proofs.Settings.Fields
