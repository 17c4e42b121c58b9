import QueryFlow.Analysis.Analyzer
import QueryFlow.Analysis.Batch
import QueryFlow.Analysis.Counts
import QueryFlow.Analysis.Report
import QueryFlow.CommandLine
import QueryFlow.Disk.Files
import QueryFlow.Disk.Folder
import QueryFlow.Fault
import QueryFlow.Flow.Component
import QueryFlow.Flow.Digraph
import QueryFlow.Flow.Graph
import QueryFlow.Flow.Phase
import QueryFlow.Intent.Classifier
import QueryFlow.Intent.Context
import QueryFlow.Intent.Predicate
import QueryFlow.Intent.Recognition
import QueryFlow.Json.Document
import QueryFlow.Json.Flaw
import QueryFlow.Json.Scan
import QueryFlow.Log.Cursor
import QueryFlow.Log.Entry
import QueryFlow.Log.History
import QueryFlow.Log.HistoryRow
import QueryFlow.Log.Lines
import QueryFlow.Log.Pattern
import QueryFlow.Log.SlowLog
import QueryFlow.Main
import QueryFlow.NameSet
import QueryFlow.Number.Binary64
import QueryFlow.Number.Decimal
import QueryFlow.Program
import QueryFlow.Proofs.Analysis.Batch
import QueryFlow.Proofs.Analysis.Coherence
import QueryFlow.Proofs.Analysis.Completion
import QueryFlow.Proofs.Analysis.Copied
import QueryFlow.Proofs.Analysis.Counting
import QueryFlow.Proofs.Analysis.Parts
import QueryFlow.Proofs.Analysis.Registration
import QueryFlow.Proofs.Analysis.Retention
import QueryFlow.Proofs.Analysis.Tally
import QueryFlow.Proofs.Disk.Folder
import QueryFlow.Proofs.Flow.Component
import QueryFlow.Proofs.Flow.Consistency
import QueryFlow.Proofs.Flow.Continuation
import QueryFlow.Proofs.Flow.Contribution
import QueryFlow.Proofs.Flow.Cycle
import QueryFlow.Proofs.Flow.Growth
import QueryFlow.Proofs.Flow.Naming
import QueryFlow.Proofs.Flow.Order
import QueryFlow.Proofs.Flow.Partition
import QueryFlow.Proofs.Flow.Rank
import QueryFlow.Proofs.Flow.Reach
import QueryFlow.Proofs.Flow.Renaming
import QueryFlow.Proofs.Flow.Schedule
import QueryFlow.Proofs.Flow.Thinning
import QueryFlow.Proofs.Flow.Walk
import QueryFlow.Proofs.Intent.Endpoint
import QueryFlow.Proofs.Intent.Movement
import QueryFlow.Proofs.Intent.Recognition
import QueryFlow.Proofs.Intent.Refusal
import QueryFlow.Proofs.Intent.WarehouseCopy
import QueryFlow.Proofs.Intent.WarehouseUnload
import QueryFlow.Proofs.Json.Written
import QueryFlow.Proofs.Lists
import QueryFlow.Proofs.Log.Composition
import QueryFlow.Proofs.Log.Damage
import QueryFlow.Proofs.Log.Elapsed
import QueryFlow.Proofs.Log.Form
import QueryFlow.Proofs.Log.History
import QueryFlow.Proofs.Log.HistoryLines
import QueryFlow.Proofs.Log.HistoryRow
import QueryFlow.Proofs.Log.Lines
import QueryFlow.Proofs.Log.Location
import QueryFlow.Proofs.Log.Provenance
import QueryFlow.Proofs.Log.QueryText
import QueryFlow.Proofs.Log.Reading
import QueryFlow.Proofs.Log.Replay
import QueryFlow.Proofs.Log.Scan
import QueryFlow.Proofs.Log.Transcript
import QueryFlow.Proofs.Log.Watched
import QueryFlow.Proofs.Number.Digits
import QueryFlow.Proofs.Number.Sign
import QueryFlow.Proofs.Outcome
import QueryFlow.Proofs.Settings.Saved
import QueryFlow.Proofs.Sql.Place
import QueryFlow.Proofs.Sql.Scope
import QueryFlow.Proofs.Text.Blank
import QueryFlow.Proofs.Text.Comment
import QueryFlow.Proofs.Text.Dissection
import QueryFlow.Proofs.Text.Lowercase
import QueryFlow.Proofs.Text.Matching
import QueryFlow.Proofs.Text.Quoted
import QueryFlow.Proofs.Text.Splice
import QueryFlow.Proofs.Text.Utf8
import QueryFlow.Proofs.Time.Leap
import QueryFlow.Proofs.Time.Line
import QueryFlow.Proofs.Timeline.Bounds
import QueryFlow.Proofs.Timeline.Histogram
import QueryFlow.Proofs.Timeline.Overrun
import QueryFlow.Proofs.Timeline.Placement
import QueryFlow.Proofs.Timeline.Ranking
import QueryFlow.Proofs.Timeline.Resolution
import QueryFlow.Proofs.Toml.Document
import QueryFlow.Proofs.Toml.Number
import QueryFlow.Proofs.Toml.Scan
import QueryFlow.Proofs.Toml.Statement
import QueryFlow.Proofs.Toml.Text
import QueryFlow.Settings.Basic
import QueryFlow.Settings.Text
import QueryFlow.Sql.Dialect
import QueryFlow.Sql.Grammar.Alias
import QueryFlow.Sql.Grammar.Call
import QueryFlow.Sql.Grammar.Change
import QueryFlow.Sql.Grammar.DataType
import QueryFlow.Sql.Grammar.Definition
import QueryFlow.Sql.Grammar.DocumentTable
import QueryFlow.Sql.Grammar.Expression
import QueryFlow.Sql.Grammar.Operator
import QueryFlow.Sql.Grammar.Phrase
import QueryFlow.Sql.Grammar.Privilege
import QueryFlow.Sql.Grammar.Query
import QueryFlow.Sql.Grammar.Routine
import QueryFlow.Sql.Grammar.RowPattern
import QueryFlow.Sql.Grammar.Rules
import QueryFlow.Sql.Grammar.Session
import QueryFlow.Sql.Grammar.Source
import QueryFlow.Sql.Grammar.Statement
import QueryFlow.Sql.Grammar.Upkeep
import QueryFlow.Sql.Keyword
import QueryFlow.Sql.Lexer
import QueryFlow.Sql.Lexer.Text
import QueryFlow.Sql.Parse
import QueryFlow.Sql.Reader
import QueryFlow.Sql.Relations
import QueryFlow.Sql.Syntax
import QueryFlow.Sql.Token
import QueryFlow.Text.Blank
import QueryFlow.Text.Comment
import QueryFlow.Text.Letter
import QueryFlow.Text.Lowercase
import QueryFlow.Text.Matching
import QueryFlow.Text.Quoted
import QueryFlow.Text.Ranges
import QueryFlow.Text.Shown
import QueryFlow.Time.Calendar
import QueryFlow.Time.Instant
import QueryFlow.Time.Stamp
import QueryFlow.Timeline.Interval
import QueryFlow.Timeline.Slice
import QueryFlow.Toml.Document
import QueryFlow.Toml.Number
import QueryFlow.Toml.Scan
import QueryFlow.Toml.Statement
import QueryFlow.Toml.Text
import QueryFlow.Toml.Tree
import QueryFlow.Toml.Value
