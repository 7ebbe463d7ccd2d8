import TlaRunner.Analyzer.Decoder
import TlaRunner.Analyzer.Grammar
import TlaRunner.Arguments.BaseName
import TlaRunner.Arguments.Command
import TlaRunner.Arguments.Java
import TlaRunner.Arguments.Quoting
import TlaRunner.Arguments.Tool
import TlaRunner.Checker.Decoder
import TlaRunner.Checker.Pattern
import TlaRunner.Command.Conclusion
import TlaRunner.Command.Fault
import TlaRunner.Command.Request
import TlaRunner.Command.Run
import TlaRunner.Command.Words
import TlaRunner.Console.Cluster
import TlaRunner.Console.Emoji
import TlaRunner.Console.Findings
import TlaRunner.Console.Literal
import TlaRunner.Console.Literal.Call
import TlaRunner.Console.Literal.Expression
import TlaRunner.Console.Literal.Fault
import TlaRunner.Console.Literal.Number
import TlaRunner.Console.Literal.Parameter
import TlaRunner.Console.Literal.Quote
import TlaRunner.Console.Literal.Reading
import TlaRunner.Console.Literal.Rules
import TlaRunner.Console.Literal.Single
import TlaRunner.Console.Literal.Template
import TlaRunner.Console.Literal.Token
import TlaRunner.Console.Marked
import TlaRunner.Console.Markup
import TlaRunner.Console.Message
import TlaRunner.Console.Progress
import TlaRunner.Console.Screen
import TlaRunner.Console.Strip
import TlaRunner.Console.Style
import TlaRunner.Console.Summary
import TlaRunner.Console.Table
import TlaRunner.Console.Width
import TlaRunner.Console.Wrap
import TlaRunner.Decimal.Binary64
import TlaRunner.Decimal.Shortest
import TlaRunner.Diagnostic.Checked
import TlaRunner.Diagnostic.Collection
import TlaRunner.Diagnostic.Record
import TlaRunner.Files.Host
import TlaRunner.Files.Saver
import TlaRunner.Files.Spec
import TlaRunner.Files.Tree
import TlaRunner.Java.Cache
import TlaRunner.Java.Version
import TlaRunner.Main
import TlaRunner.Path
import TlaRunner.Proofs.Analyzer.Decoder
import TlaRunner.Proofs.Analyzer.Finding
import TlaRunner.Proofs.Analyzer.Grammar
import TlaRunner.Proofs.Analyzer.Line
import TlaRunner.Proofs.Analyzer.ParsedFile
import TlaRunner.Proofs.Analyzer.Place
import TlaRunner.Proofs.Analyzer.Wrapping
import TlaRunner.Proofs.Arguments.Archive
import TlaRunner.Proofs.Arguments.Java
import TlaRunner.Proofs.Arguments.Model
import TlaRunner.Proofs.Arguments.Quoting
import TlaRunner.Proofs.Checker.Coverage
import TlaRunner.Proofs.Checker.Depth
import TlaRunner.Proofs.Checker.Dispatch
import TlaRunner.Proofs.Checker.Embedding
import TlaRunner.Proofs.Checker.Fault
import TlaRunner.Proofs.Checker.Growth
import TlaRunner.Proofs.Checker.Location
import TlaRunner.Proofs.Checker.Notice
import TlaRunner.Proofs.Checker.Outcome
import TlaRunner.Proofs.Checker.Statistics
import TlaRunner.Proofs.Checker.Tally
import TlaRunner.Proofs.Checker.ToolBug
import TlaRunner.Proofs.Checker.Verdict
import TlaRunner.Proofs.Command.Preparation
import TlaRunner.Proofs.Console.Markup
import TlaRunner.Proofs.Console.Order
import TlaRunner.Proofs.Console.Report
import TlaRunner.Proofs.Console.Table
import TlaRunner.Proofs.Diagnostic.Collection
import TlaRunner.Proofs.Diagnostic.Index
import TlaRunner.Proofs.Diagnostic.Merge
import TlaRunner.Proofs.Diagnostic.Repetition
import TlaRunner.Proofs.Diagnostic.Shelf
import TlaRunner.Proofs.Files.Resolution
import TlaRunner.Proofs.Files.Saver
import TlaRunner.Proofs.Files.Spec
import TlaRunner.Proofs.Files.Tree
import TlaRunner.Proofs.Protocol.Chunking
import TlaRunner.Proofs.Protocol.Delivery
import TlaRunner.Proofs.Protocol.Fault
import TlaRunner.Proofs.Protocol.Findings
import TlaRunner.Proofs.Protocol.Marker
import TlaRunner.Proofs.Protocol.Matching
import TlaRunner.Proofs.Protocol.Rejection
import TlaRunner.Proofs.Protocol.Splitting
import TlaRunner.Proofs.Protocol.Stripping
import TlaRunner.Proofs.Protocol.Transcript
import TlaRunner.Proofs.Protocol.Truncation
import TlaRunner.Proofs.Protocol.Wrapping
import TlaRunner.Proofs.Report.Replay
import TlaRunner.Proofs.Result
import TlaRunner.Proofs.Settings.Config
import TlaRunner.Proofs.Settings.Precedence
import TlaRunner.Proofs.Settings.Refusal
import TlaRunner.Proofs.Settings.Table
import TlaRunner.Proofs.Supervision.Child
import TlaRunner.Proofs.Supervision.Interrupt
import TlaRunner.Proofs.Text.Count
import TlaRunner.Proofs.Text.Erasure
import TlaRunner.Proofs.Text.Lines
import TlaRunner.Proofs.Text.Numeral
import TlaRunner.Proofs.Text.Replacement
import TlaRunner.Proofs.Text.Scan
import TlaRunner.Proofs.Text.Search
import TlaRunner.Proofs.Text.Utf8
import TlaRunner.Proofs.Text.Within
import TlaRunner.Proofs.Toml.Document
import TlaRunner.Proofs.Toml.Scalar
import TlaRunner.Proofs.Transpiler.Block
import TlaRunner.Proofs.Transpiler.Decoder
import TlaRunner.Proofs.Transpiler.Line
import TlaRunner.Proofs.Transpiler.Place
import TlaRunner.Proofs.Transpiler.Warning
import TlaRunner.Proofs.Workflow.Abandonment
import TlaRunner.Proofs.Workflow.Bench
import TlaRunner.Proofs.Workflow.Debugging
import TlaRunner.Proofs.Workflow.Exclusion
import TlaRunner.Proofs.Workflow.Incident
import TlaRunner.Proofs.Workflow.JavaSearch
import TlaRunner.Proofs.Workflow.LateStop
import TlaRunner.Proofs.Workflow.Moves
import TlaRunner.Proofs.Workflow.Orderly
import TlaRunner.Proofs.Workflow.Output
import TlaRunner.Proofs.Workflow.Parsing
import TlaRunner.Proofs.Workflow.Publication
import TlaRunner.Proofs.Workflow.Recording
import TlaRunner.Proofs.Workflow.Relay
import TlaRunner.Proofs.Workflow.Reporting
import TlaRunner.Proofs.Workflow.Rerun
import TlaRunner.Proofs.Workflow.Saving
import TlaRunner.Proofs.Workflow.Schedule
import TlaRunner.Proofs.Workflow.Slot
import TlaRunner.Proofs.Workflow.Stopping
import TlaRunner.Proofs.Workflow.Task
import TlaRunner.Proofs.Workflow.Territory
import TlaRunner.Proofs.Workflow.Ticket
import TlaRunner.Proofs.Workflow.ToolRun
import TlaRunner.Protocol.Event
import TlaRunner.Protocol.LineSplitter
import TlaRunner.Protocol.Marker
import TlaRunner.Protocol.Plain
import TlaRunner.Protocol.Reading
import TlaRunner.Protocol.Session
import TlaRunner.Report.Check
import TlaRunner.Report.Checked
import TlaRunner.Report.Condition
import TlaRunner.Report.Parse
import TlaRunner.Settings.Config
import TlaRunner.Settings.Draft
import TlaRunner.Settings.Field
import TlaRunner.Settings.Sources
import TlaRunner.Settings.Value
import TlaRunner.Severity
import TlaRunner.Source.Position
import TlaRunner.Supervision.Behavior
import TlaRunner.Supervision.Child
import TlaRunner.Supervision.Exit
import TlaRunner.Supervision.SystemError
import TlaRunner.Text.Basic
import TlaRunner.Text.Blank
import TlaRunner.Text.Case
import TlaRunner.Text.Digit
import TlaRunner.Text.Lines
import TlaRunner.Text.Name
import TlaRunner.Text.Numeral
import TlaRunner.Text.Printable
import TlaRunner.Text.Quoted
import TlaRunner.Text.Scan
import TlaRunner.Text.Utf8
import TlaRunner.Text.Utf8Fault
import TlaRunner.Text.Word
import TlaRunner.Toml.Document
import TlaRunner.Toml.Scalar
import TlaRunner.Tool.Kind
import TlaRunner.Transpiler.Decoder
import TlaRunner.Workflow.Bench
import TlaRunner.Workflow.Failure
import TlaRunner.Workflow.JavaSearch
import TlaRunner.Workflow.Schedule
import TlaRunner.Workflow.Slot
import TlaRunner.Workflow.Task
import TlaRunner.Workflow.ToolRun
