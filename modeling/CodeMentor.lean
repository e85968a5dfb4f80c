import CodeMentor.Analysis.Analyzer
import CodeMentor.Analysis.Gate
import CodeMentor.Analysis.Metrics
import CodeMentor.Analysis.Report
import CodeMentor.Analysis.Result
import CodeMentor.Analysis.Score
import CodeMentor.Analysis.Service
import CodeMentor.Assistant.Prompt
import CodeMentor.Assistant.Service
import CodeMentor.Backend.Address
import CodeMentor.Backend.Client
import CodeMentor.Backend.Config
import CodeMentor.Backend.DomainName
import CodeMentor.Backend.Model
import CodeMentor.Backend.Network
import CodeMentor.Backend.Request
import CodeMentor.Backend.Retry
import CodeMentor.Backend.Stream
import CodeMentor.Backend.Transport
import CodeMentor.Backend.Url
import CodeMentor.CommandLine.Invocation
import CodeMentor.CommandLine.Outcome
import CodeMentor.CommandLine.Scan
import CodeMentor.Dictionary
import CodeMentor.Duration
import CodeMentor.Error
import CodeMentor.FileTree
import CodeMentor.Json.Basic
import CodeMentor.Json.Numeral
import CodeMentor.Json.Parser
import CodeMentor.Json.Printer
import CodeMentor.Json.Record
import CodeMentor.Main
import CodeMentor.Number.Binary64
import CodeMentor.Number.Decimal
import CodeMentor.Proofs.Analysis.Commentary
import CodeMentor.Proofs.Analysis.EntryPoints
import CodeMentor.Proofs.Analysis.GateOrder
import CodeMentor.Proofs.Analysis.Reports
import CodeMentor.Proofs.Analysis.Shown
import CodeMentor.Proofs.Assistant.SampledCode
import CodeMentor.Proofs.Assistant.Traffic
import CodeMentor.Proofs.Backend.Attempts
import CodeMentor.Proofs.Backend.Backoff
import CodeMentor.Proofs.Backend.Configuration
import CodeMentor.Proofs.Backend.Draining
import CodeMentor.Proofs.Backend.Framing
import CodeMentor.Proofs.Backend.Laziness
import CodeMentor.Proofs.Backend.LineDecoding
import CodeMentor.Proofs.Backend.Modes
import CodeMentor.Proofs.Backend.Recheck
import CodeMentor.Proofs.Backend.ReportedErrors
import CodeMentor.Proofs.Backend.Transmission
import CodeMentor.Proofs.CommandLine.Answers
import CodeMentor.Proofs.CommandLine.Environment
import CodeMentor.Proofs.CommandLine.Overrides
import CodeMentor.Proofs.Json.Layout
import CodeMentor.Proofs.Json.Lexemes
import CodeMentor.Proofs.Json.Numerals
import CodeMentor.Proofs.Json.Printing
import CodeMentor.Proofs.Json.Records
import CodeMentor.Proofs.Json.Spelling
import CodeMentor.Proofs.Number.Range
import CodeMentor.Proofs.Results
import CodeMentor.Proofs.RoundTrips
import CodeMentor.Proofs.Server.Arrivals
import CodeMentor.Proofs.Server.Questions
import CodeMentor.Proofs.Source.Announcements
import CodeMentor.Proofs.Source.DecisionCounts
import CodeMentor.Proofs.Source.DecisionPoints
import CodeMentor.Proofs.Source.Expressions
import CodeMentor.Proofs.Source.FilledLines
import CodeMentor.Proofs.Source.FunctionHeads
import CodeMentor.Proofs.Source.ImportLines
import CodeMentor.Proofs.Source.Interludes
import CodeMentor.Proofs.Source.LineScanner
import CodeMentor.Proofs.Source.Matches
import CodeMentor.Proofs.Source.NetNesting
import CodeMentor.Proofs.Source.Occurrences
import CodeMentor.Proofs.Source.WordCounts
import CodeMentor.Proofs.Text.Lossy
import CodeMentor.Proofs.Text.Pieces
import CodeMentor.Proofs.Text.Utf8
import CodeMentor.Server.Endpoint
import CodeMentor.Server.Handler
import CodeMentor.Server.MediaType
import CodeMentor.Server.Uri
import CodeMentor.Source.Advice
import CodeMentor.Source.Complexity
import CodeMentor.Source.Declarations
import CodeMentor.Source.Language
import CodeMentor.Source.LineCount
import CodeMentor.Source.Nesting
import CodeMentor.Source.Pattern
import CodeMentor.Text.Character
import CodeMentor.Text.Composed
import CodeMentor.Text.Percent
import CodeMentor.Text.Pieces
import CodeMentor.Text.Punycode
import CodeMentor.Text.Quoted
import CodeMentor.Text.Unicode.Addition
import CodeMentor.Text.Unicode.Alphabetic
import CodeMentor.Text.Unicode.Composition
import CodeMentor.Text.Unicode.Direction
import CodeMentor.Text.Unicode.Joining
import CodeMentor.Text.Unicode.Mark
import CodeMentor.Text.Unicode.NameMapping
import CodeMentor.Text.Unicode.Number
import CodeMentor.Text.Unicode.Ranges
import CodeMentor.Text.Unicode.Unprintable
import CodeMentor.Text.Utf8
