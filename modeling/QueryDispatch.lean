import QueryDispatch.Cache.Lookup
import QueryDispatch.Cache.MaxAge
import QueryDispatch.Calendar.Date
import QueryDispatch.Calendar.Instant
import QueryDispatch.Calendar.Pattern
import QueryDispatch.Config
import QueryDispatch.Data.Assoc
import QueryDispatch.Data.Result
import QueryDispatch.Data.Source
import QueryDispatch.Data.Table
import QueryDispatch.Data.TableSchema
import QueryDispatch.Digest.Sha256
import QueryDispatch.Digest.Sha512
import QueryDispatch.Dispatch.Board
import QueryDispatch.Dispatch.Completion
import QueryDispatch.Dispatch.Error
import QueryDispatch.Encoding.Armor
import QueryDispatch.Encoding.Base64
import QueryDispatch.Encoding.Certificate
import QueryDispatch.Encoding.Der
import QueryDispatch.Encoding.PrivateKey
import QueryDispatch.Encoding.PublicKey
import QueryDispatch.Fingerprint
import QueryDispatch.Job.Basic
import QueryDispatch.Job.Metrics
import QueryDispatch.Json.Basic
import QueryDispatch.Json.Printer
import QueryDispatch.Json.Reader
import QueryDispatch.Json.Wire
import QueryDispatch.Net.Address
import QueryDispatch.Net.DomainName
import QueryDispatch.Net.NameCharacter
import QueryDispatch.Net.Punycode
import QueryDispatch.Number.Curve
import QueryDispatch.Number.Double
import QueryDispatch.Number.Edwards
import QueryDispatch.Number.Modular
import QueryDispatch.Number.Numeral
import QueryDispatch.Number.Shortest
import QueryDispatch.Parameter.Binding
import QueryDispatch.Parameter.Definition
import QueryDispatch.Parameter.Query
import QueryDispatch.Runner.Basic
import QueryDispatch.Runner.Builtin
import QueryDispatch.Runner.Certificate
import QueryDispatch.Runner.Error
import QueryDispatch.Runner.Options
import QueryDispatch.Runner.Pool
import QueryDispatch.Runner.Registry
import QueryDispatch.Service.Basic
import QueryDispatch.Service.Request
import QueryDispatch.Service.Schedule
import QueryDispatch.Sql.RowLimit
import QueryDispatch.Store.Basic
import QueryDispatch.Store.Dropdown
import QueryDispatch.Template
import QueryDispatch.Text.Blank
import QueryDispatch.Text.CharacterKind
import QueryDispatch.Text.Composition
import QueryDispatch.Text.FormData
import QueryDispatch.Text.RunTable
import QueryDispatch.Text.Slice
import QueryDispatch.Text.Utf8
import QueryDispatch.TimeSeries.Bounds
import QueryDispatch.TimeSeries.Duration
import QueryDispatch.TimeSeries.QueryText
import QueryDispatch.TimeSeries.Samples
import QueryDispatch.TimeSeries.Server
import QueryDispatch.Uuid
import QueryDispatch.Warehouse.Connector
import QueryDispatch.Warehouse.LoginKey
import QueryDispatch.Warehouse.NativeType
import QueryDispatch.Warehouse.Protocol
import QueryDispatch.Warehouse.ResultSet
import QueryDispatch.Warehouse.Session
import QueryDispatch.Proofs.Job.Moves
import QueryDispatch.Proofs.Board.Forms
import QueryDispatch.Proofs.Board.Tables
import QueryDispatch.Proofs.Board.Places
import QueryDispatch.Proofs.Board.Invariant
import QueryDispatch.Proofs.Board.Closing
import QueryDispatch.Proofs.Service.Runs
import QueryDispatch.Proofs.Service.Enabled
import QueryDispatch.Proofs.Service.SingleFlight
import QueryDispatch.Proofs.Service.Storing
import QueryDispatch.Proofs.Service.StoredResults
import QueryDispatch.Proofs.Service.Answers
import QueryDispatch.Proofs.Service.LatestResult
import QueryDispatch.Proofs.Service.Cancellation
import QueryDispatch.Proofs.Service.CreatedJobs
import QueryDispatch.Proofs.Service.Snapshots
import QueryDispatch.Proofs.Board.Tally
import QueryDispatch.Proofs.Service.Calls
import QueryDispatch.Proofs.Service.Counting
import QueryDispatch.Proofs.Board.Standing
import QueryDispatch.Proofs.Service.Starts
import QueryDispatch.Proofs.Cache.Fingerprints
import QueryDispatch.Proofs.Service.Decisions
import QueryDispatch.Proofs.Service.ComputedOnce
import QueryDispatch.Proofs.Store.Insertions
import QueryDispatch.Proofs.Cache.Freshness
import QueryDispatch.Proofs.Service.Preparing
import QueryDispatch.Proofs.Service.Recording
import QueryDispatch.Proofs.Json.Entries
import QueryDispatch.Proofs.Parameter.Checks
import QueryDispatch.Proofs.Parameter.Histories
import QueryDispatch.Proofs.Parameter.Safety
import QueryDispatch.Proofs.Service.Restricted
import QueryDispatch.Proofs.Text.Utf8
import QueryDispatch.Proofs.Text.Pieces
import QueryDispatch.Proofs.Text.FormData
import QueryDispatch.Proofs.TimeSeries.WrittenBounds
import QueryDispatch.Proofs.Runner.Settings
import QueryDispatch.Proofs.Store.Dropdowns
import QueryDispatch.Proofs.Warehouse.Exchanges
import QueryDispatch.Proofs.Warehouse.Commands
import QueryDispatch.Proofs.Warehouse.Parts
import QueryDispatch.Proofs.Warehouse.Conversation
import QueryDispatch.Proofs.Parameter.Placeholders
import QueryDispatch.Proofs.Calendar.WrittenOrder
import QueryDispatch.Proofs.Parameter.DateRanges
import QueryDispatch.Proofs.Json.WireForms
import QueryDispatch.Proofs.Calendar.WrittenInstants
import QueryDispatch.Proofs.Data.Identifiers
import QueryDispatch.Proofs.Data.RoundTrips
import QueryDispatch.Proofs.Number.Intervals
import QueryDispatch.Proofs.Number.ShortestDigits
import QueryDispatch.Proofs.Number.WrittenDoubles
import QueryDispatch.Proofs.Json.NumberTexts
import QueryDispatch.Proofs.Json.Texts
import QueryDispatch.Proofs.Json.Agreement
import QueryDispatch.Proofs.Runner.Sharing
import QueryDispatch.Proofs.Number.Rounding
import QueryDispatch.Proofs.Json.ReadValues
import QueryDispatch.Proofs.Parameter.Splits
import QueryDispatch.Proofs.Number.NumeralGrammar
import QueryDispatch.Proofs.Text.Trimming
import QueryDispatch.Proofs.Parameter.Numbers
import QueryDispatch.Proofs.Calendar.WrittenDates
import QueryDispatch.Proofs.Parameter.BoundTexts
import QueryDispatch.Proofs.Text.Words
import QueryDispatch.Proofs.Sql.Statements
import QueryDispatch.Proofs.Sql.Keywords
import QueryDispatch.Proofs.TimeSeries.Durations
import QueryDispatch.Proofs.TimeSeries.DurationArithmetic
import QueryDispatch.Proofs.TimeSeries.RelativeBounds
import QueryDispatch.Proofs.TimeSeries.ResolvedParameters
import QueryDispatch.Proofs.TimeSeries.SampleRows
import QueryDispatch.Proofs.Warehouse.Columns
import QueryDispatch.Proofs.Warehouse.Draining
import QueryDispatch.Proofs.Warehouse.CutTables
import QueryDispatch.Proofs.Warehouse.KeyedRows
import QueryDispatch.Proofs.Number.WholeParts
import QueryDispatch.Proofs.Warehouse.IntegerCells
import QueryDispatch.Proofs.Text.Slices
import QueryDispatch.Proofs.Warehouse.Positions
import QueryDispatch.Proofs.Cache.WireAges
import QueryDispatch.Proofs.Runner.Registrations
import QueryDispatch.Proofs.Warehouse.DocumentedForms
import QueryDispatch.Proofs.Warehouse.WrittenTimes
import QueryDispatch.Proofs.Cache.ExactAges
import QueryDispatch.Proofs.Warehouse.CatalogTables
import QueryDispatch.Proofs.TimeSeries.MetricNames
import QueryDispatch.Proofs.Service.ScheduledRuns
