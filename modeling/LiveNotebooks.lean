import LiveNotebooks.CommandLine
import LiveNotebooks.CommandLine.SocketAddress
import LiveNotebooks.Configuration
import LiveNotebooks.Conversion
import LiveNotebooks.Conversion.Attempt
import LiveNotebooks.Conversion.Error
import LiveNotebooks.Conversion.Output
import LiveNotebooks.Conversion.Retry
import LiveNotebooks.ErrorPage
import LiveNotebooks.Http.Date
import LiveNotebooks.Http.MediaType
import LiveNotebooks.Http.MediaType.Extensions
import LiveNotebooks.Http.Message
import LiveNotebooks.Http.Notebooks
import LiveNotebooks.Http.Range
import LiveNotebooks.Http.RequestId
import LiveNotebooks.Http.Site
import LiveNotebooks.Http.StaticFiles
import LiveNotebooks.Http.Target
import LiveNotebooks.Json.Fault
import LiveNotebooks.Json.Mismatch
import LiveNotebooks.Json.Number
import LiveNotebooks.Json.Printer
import LiveNotebooks.Json.Punctuation
import LiveNotebooks.Json.Reader
import LiveNotebooks.Json.Record
import LiveNotebooks.Json.Skip
import LiveNotebooks.Json.Text
import LiveNotebooks.Json.Value
import LiveNotebooks.Launch
import LiveNotebooks.Log
import LiveNotebooks.Main
import LiveNotebooks.Notebook
import LiveNotebooks.Notebook.Codec
import LiveNotebooks.Number.Double
import LiveNotebooks.Number.Shortest
import LiveNotebooks.Proofs.CommandLine.Acceptance
import LiveNotebooks.Proofs.CommandLine.Sources
import LiveNotebooks.Proofs.Conversion.FencedCode
import LiveNotebooks.Proofs.Conversion.Loading
import LiveNotebooks.Proofs.Conversion.Repetition
import LiveNotebooks.Proofs.Conversion.Waiting
import LiveNotebooks.Proofs.Http.Addresses
import LiveNotebooks.Proofs.Http.Exchange
import LiveNotebooks.Proofs.Http.Policy
import LiveNotebooks.Proofs.Http.ReadBack
import LiveNotebooks.Proofs.Http.Replacement
import LiveNotebooks.Proofs.Http.Writes
import LiveNotebooks.Proofs.Json.Grammar
import LiveNotebooks.Proofs.Json.LeftOut
import LiveNotebooks.Proofs.Json.Literals
import LiveNotebooks.Proofs.Json.Numerals
import LiveNotebooks.Proofs.Json.Objects
import LiveNotebooks.Proofs.Json.Passage
import LiveNotebooks.Proofs.Json.PassedTokens
import LiveNotebooks.Proofs.Json.Reading
import LiveNotebooks.Proofs.Json.Records
import LiveNotebooks.Proofs.Json.Regular
import LiveNotebooks.Proofs.Json.RoundTrip
import LiveNotebooks.Proofs.Json.Shape
import LiveNotebooks.Proofs.Json.Tokens
import LiveNotebooks.Proofs.Notebook.Summaries
import LiveNotebooks.Proofs.Notebook.WireFormat
import LiveNotebooks.Proofs.Number.Shortest
import LiveNotebooks.Proofs.Reload.Authors
import LiveNotebooks.Proofs.Reload.Burst
import LiveNotebooks.Proofs.Reload.Coalescing
import LiveNotebooks.Proofs.Reload.Commits
import LiveNotebooks.Proofs.Reload.Course
import LiveNotebooks.Proofs.Reload.Desk
import LiveNotebooks.Proofs.Reload.Document
import LiveNotebooks.Proofs.Reload.Editing
import LiveNotebooks.Proofs.Reload.Isolation
import LiveNotebooks.Proofs.Reload.Journal
import LiveNotebooks.Proofs.Reload.Machine
import LiveNotebooks.Proofs.Reload.Pending
import LiveNotebooks.Proofs.Reload.Story
import LiveNotebooks.Proofs.Scan.Agreement
import LiveNotebooks.Proofs.Scan.Discipline
import LiveNotebooks.Proofs.Scan.Listing
import LiveNotebooks.Proofs.Scan.Machine
import LiveNotebooks.Proofs.Scan.Order
import LiveNotebooks.Proofs.Scan.Prompt
import LiveNotebooks.Proofs.Scan.Turn
import LiveNotebooks.Proofs.Service.Contents
import LiveNotebooks.Proofs.Service.Documents
import LiveNotebooks.Proofs.Service.Events
import LiveNotebooks.Proofs.Service.Hub
import LiveNotebooks.Proofs.Service.Machine
import LiveNotebooks.Proofs.Service.Startup
import LiveNotebooks.Proofs.Service.WriteBack
import LiveNotebooks.Proofs.Store.Announcements
import LiveNotebooks.Proofs.Store.Bus
import LiveNotebooks.Proofs.Store.Calls
import LiveNotebooks.Proofs.Store.EventLog
import LiveNotebooks.Proofs.Store.LastWriter
import LiveNotebooks.Proofs.Store.Views
import LiveNotebooks.Proofs.System.Files
import LiveNotebooks.Proofs.System.Names
import LiveNotebooks.Proofs.Text.Decoding
import LiveNotebooks.Proofs.Text.Utf8
import LiveNotebooks.Proofs.Time.Calendar
import LiveNotebooks.Proofs.Time.Instants
import LiveNotebooks.Proofs.Watch.EventLoop
import LiveNotebooks.Proofs.Watch.Handling
import LiveNotebooks.Proofs.Watch.Reports
import LiveNotebooks.Rehearsal.Activity
import LiveNotebooks.Rehearsal.Converter
import LiveNotebooks.Rehearsal.Opening
import LiveNotebooks.Rehearsal.Script
import LiveNotebooks.Rehearsal.World
import LiveNotebooks.Reload
import LiveNotebooks.Scan
import LiveNotebooks.Startup
import LiveNotebooks.Store
import LiveNotebooks.Store.Bus
import LiveNotebooks.Store.Event
import LiveNotebooks.System.Error
import LiveNotebooks.System.ExitStatus
import LiveNotebooks.System.Files
import LiveNotebooks.System.Path
import LiveNotebooks.System.Programs
import LiveNotebooks.Text.Blank
import LiveNotebooks.Text.Digits
import LiveNotebooks.Text.Glyph
import LiveNotebooks.Text.Output
import LiveNotebooks.Text.Quoted
import LiveNotebooks.Text.Terminal
import LiveNotebooks.Text.Utf8
import LiveNotebooks.Time.Calendar
import LiveNotebooks.Time.Instant
import LiveNotebooks.Time.Pause
import LiveNotebooks.Time.Span
import LiveNotebooks.Trace
import LiveNotebooks.Watch
