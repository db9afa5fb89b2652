import Precis.Decimal.Approximate
import Precis.Decimal.Basic
import Precis.Decimal.Numeral
import Precis.Dispatch.Backoff
import Precis.Dispatch.Basic
import Precis.Dispatch.Provider
import Precis.Dispatch.Request
import Precis.Dispatch.Result
import Precis.Dispatch.Settings
import Precis.Document
import Precis.Failure.Kind
import Precis.Failure.Message
import Precis.Host.Basic
import Precis.Host.Domain
import Precis.Host.Ipv4
import Precis.Host.Ipv6
import Precis.Host.Label
import Precis.Host.Mapping
import Precis.Host.Punycode
import Precis.Item.Basic
import Precis.Item.Persisted
import Precis.Job.Assembly
import Precis.Job.Basic
import Precis.Job.Settlement
import Precis.Job.Writer
import Precis.Json.Basic
import Precis.Json.Quoted
import Precis.Json.Reader
import Precis.Json.Record
import Precis.Main
import Precis.Packing.Batch
import Precis.Packing.Limits
import Precis.Packing.Tokens
import Precis.Packing.Truncation
import Precis.Plan.Basic
import Precis.Plan.CommandLine
import Precis.Problem
import Precis.Rate.Bucket
import Precis.Rate.Destinations
import Precis.Rate.Jitter
import Precis.Rate.Limiter
import Precis.Rate.Tier
import Precis.Retry.Entry
import Precis.Retry.Queue
import Precis.Settings.Basic
import Precis.Settings.Document
import Precis.Settings.Overrides
import Precis.Source.Cursor
import Precis.Source.Memory
import Precis.Source.Pager
import Precis.Source.Paging
import Precis.Table
import Precis.Text.Blank
import Precis.Text.CodePoints
import Precis.Text.CombiningClass
import Precis.Text.Composition
import Precis.Text.Direction
import Precis.Text.Encoding
import Precis.Text.Joining
import Precis.Text.Mark
import Precis.Text.Numeral
import Precis.Text.Pattern
import Precis.Text.WordCharacter
import Precis.Time.Calendar
import Precis.Time.Instant
import Precis.Time.Rfc3339
import Precis.Time.Schedule
import Precis.Time.Span
import Precis.Time.Timestamp
import Precis.Tree
import Precis.Word
import Precis.Yaml.Node
import Precis.Yaml.Place
import Precis.Yaml.Plain
import Precis.Yaml.Printer
import Precis.Yaml.Record
import Precis.Yaml.Scalar
import Precis.Yaml.Token
import Precis.Proofs.Packing.Batches
import Precis.Proofs.Packing.Optimality
import Precis.Proofs.Job.Work
import Precis.Proofs.Json.RoundTrip
import Precis.Proofs.Time.Written
import Precis.Proofs.Json.Fields
import Precis.Proofs.Source.Checkpoint
import Precis.Proofs.Job.Journal
import Precis.Proofs.Job.Settlement
import Precis.Proofs.Source.Order
import Precis.Proofs.Source.Resumption
import Precis.Proofs.Source.Safety
import Precis.Proofs.Job.CrashSafety
import Precis.Proofs.Time.Schedule
import Precis.Proofs.Dispatch.Conservation
import Precis.Proofs.Dispatch.Isolation
import Precis.Proofs.Retry.Queue
import Precis.Proofs.Job.Conservation
import Precis.Proofs.Job.Parts
import Precis.Proofs.Time.Course
import Precis.Proofs.Dispatch.Acts
import Precis.Proofs.Dispatch.Concurrency
import Precis.Proofs.Dispatch.Fleet
import Precis.Proofs.Rate.Exact
import Precis.Proofs.Rate.Traffic
import Precis.Proofs.Rate.Pause
import Precis.Proofs.Rate.Supply
import Precis.Proofs.Json.Restored
import Precis.Proofs.Item.Persisted
import Precis.Proofs.Dispatch.Pauses
import Precis.Proofs.Persistence
import Precis.Proofs.Retry.Due
import Precis.Proofs.Time.Delay
import Precis.Proofs.Retry.Backoff
import Precis.Proofs.Job.Listing
import Precis.Proofs.Host.Spelling
import Precis.Proofs.Rate.Destinations
import Precis.Proofs.Dispatch.Answers
import Precis.Proofs.Job.Outcome
import Precis.Proofs.Job.Completion
import Precis.Proofs.Job.Chunking
import Precis.Proofs.Host.Normal
import Precis.Proofs.Time.Moments
import Precis.Proofs.Dispatch.Retries
import Precis.Proofs.Time.Balance
import Precis.Proofs.Dispatch.Attempts
import Precis.Proofs.Job.Notes
import Precis.Proofs.Packing.Looser
import Precis.Proofs.Rate.Deadline
import Precis.Proofs.Rate.Standing
import Precis.Proofs.Rate.Removal
import Precis.Proofs.Rate.Doubles
import Precis.Proofs.Rate.Progress
import Precis.Proofs.Decimal.Rounding
import Precis.Proofs.Decimal.Doubles
import Precis.Proofs.Decimal.Arithmetic
import Precis.Proofs.Decimal.Operations
import Precis.Proofs.Packing.Counting
import Precis.Proofs.Packing.Sums
import Precis.Proofs.Packing.Cutting
import Precis.Proofs.Packing.Truncation
import Precis.Proofs.Dispatch.Backoff
import Precis.Proofs.Retry.Order
import Precis.Proofs.Json.Indented
import Precis.Proofs.Plan.Lines
import Precis.Proofs.Plan.Coverage
import Precis.Proofs.Failure.Message
import Precis.Overflow
