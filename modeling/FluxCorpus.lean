import FluxCorpus.Bucket.Client
import FluxCorpus.Bucket.Model
import FluxCorpus.CommandLine.Grammar
import FluxCorpus.CommandLine.Scan
import FluxCorpus.CommandLine.Value
import FluxCorpus.Config
import FluxCorpus.Corpus
import FluxCorpus.Environment.Basic
import FluxCorpus.Environment.File
import FluxCorpus.Fault
import FluxCorpus.Files
import FluxCorpus.Flux.Predicate
import FluxCorpus.Flux.Script
import FluxCorpus.Generator
import FluxCorpus.Http.Dialogue
import FluxCorpus.Http.Message
import FluxCorpus.Http.Status
import FluxCorpus.Json.Number
import FluxCorpus.Json.Shape
import FluxCorpus.Json.Skip
import FluxCorpus.Json.Token
import FluxCorpus.Json.Writer
import FluxCorpus.LogFilter
import FluxCorpus.LogFilter.Pattern
import FluxCorpus.Process
import FluxCorpus.Program.Arguments
import FluxCorpus.Program.Run
import FluxCorpus.Proofs.Compose
import FluxCorpus.Proofs.Corpus
import FluxCorpus.Proofs.Flux.Reading
import FluxCorpus.Proofs.Json.Writer
import FluxCorpus.Proofs.Random.Bounded
import FluxCorpus.Proofs.Random.Index
import FluxCorpus.Proofs.Random.Recurrence
import FluxCorpus.Proofs.Random.Subset
import FluxCorpus.Proofs.Template.Fault
import FluxCorpus.Proofs.Template.Ranges
import FluxCorpus.Proofs.Template.Success
import FluxCorpus.Proofs.Template.Terms
import FluxCorpus.Proofs.Template.Verdict
import FluxCorpus.Proofs.Text.Decimal
import FluxCorpus.Proofs.Text.Reading
import FluxCorpus.Proofs.Time.Calendar
import FluxCorpus.Proofs.Time.Timestamp
import FluxCorpus.Proofs.Time.Window
import FluxCorpus.Query
import FluxCorpus.QueryType
import FluxCorpus.Random.Bounded
import FluxCorpus.Random.Bytes
import FluxCorpus.Random.Draw
import FluxCorpus.Random.Lagged
import FluxCorpus.Random.Seeding
import FluxCorpus.Random.Subset
import FluxCorpus.Random.Whitening
import FluxCorpus.Representable
import FluxCorpus.Template.Database
import FluxCorpus.Template.Devops
import FluxCorpus.Template.Iot
import FluxCorpus.Text.Aligned
import FluxCorpus.Text.Alphanumeric
import FluxCorpus.Text.Charset
import FluxCorpus.Text.Composition
import FluxCorpus.Text.Composition.Table
import FluxCorpus.Text.Decimal
import FluxCorpus.Text.Direction
import FluxCorpus.Text.Extending
import FluxCorpus.Text.Folding
import FluxCorpus.Text.Folding.Table
import FluxCorpus.Text.Hexadecimal
import FluxCorpus.Text.Joining
import FluxCorpus.Text.Mark
import FluxCorpus.Text.Percent
import FluxCorpus.Text.Pieces
import FluxCorpus.Text.Punycode
import FluxCorpus.Text.Quoted
import FluxCorpus.Text.Ranges
import FluxCorpus.Text.Rows
import FluxCorpus.Text.Unprintable
import FluxCorpus.Text.Utf8
import FluxCorpus.Time.Calendar
import FluxCorpus.Time.Duration
import FluxCorpus.Time.Instant
import FluxCorpus.Time.Interval
import FluxCorpus.Url.Address
import FluxCorpus.Url.Basic
import FluxCorpus.Url.Host
import FluxCorpus.Url.Label
import FluxCorpus.Url.Parse
import FluxCorpus.Workload.Metric
import FluxCorpus.Workload.Tag
import FluxCorpus.Workload.UseCase
import FluxCorpus.Main
import FluxCorpus.Proofs.Random.Seeding
import FluxCorpus.Proofs.Random.Selection
import FluxCorpus.Proofs.Random.Stream
import FluxCorpus.Proofs.Template.Record
import FluxCorpus.Proofs.Template.Sampling
import FluxCorpus.Proofs.Json.Reading
import FluxCorpus.Proofs.Corpus.Framing
import FluxCorpus.Proofs.Template.Breach
import FluxCorpus.Proofs.Config
import FluxCorpus.Proofs.Bucket.Removal
import FluxCorpus.Proofs.Bucket.Model
import FluxCorpus.Proofs.Random.Unbiased
import FluxCorpus.Proofs.Time.Placement
import FluxCorpus.Proofs.Corpus.Independence
import FluxCorpus.Proofs.Random.Progress
import FluxCorpus.Proofs.Template.Sessions
import FluxCorpus.Proofs.Time.Duration
import FluxCorpus.Proofs.Time.Order
import FluxCorpus.Proofs.CommandLine.Scan
import FluxCorpus.Proofs.Config.Options
import FluxCorpus.Proofs.Config.Timestamps
import FluxCorpus.Proofs.Time.Instant
import FluxCorpus.Proofs.Random.Bytes
import FluxCorpus.Proofs.Flux.Disjunction
import FluxCorpus.Proofs.Random.ClosedForm
import FluxCorpus.Proofs.Config.Sources
import FluxCorpus.Json.Bytes
import FluxCorpus.Proofs.Json.Bytes
import FluxCorpus.Proofs.CommandLine.Value
import FluxCorpus.Proofs.Program.Run
