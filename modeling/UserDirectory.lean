import UserDirectory.Command.Basic
import UserDirectory.Command.Launch
import UserDirectory.Command.Line
import UserDirectory.Command.Report
import UserDirectory.Configuration.Basic
import UserDirectory.Configuration.Dotenv
import UserDirectory.Configuration.Load
import UserDirectory.Configuration.LogFilter
import UserDirectory.Configuration.Path
import UserDirectory.Configuration.Reading
import UserDirectory.Configuration.Setting
import UserDirectory.Configuration.Toml.Document
import UserDirectory.Configuration.Toml.Node
import UserDirectory.Configuration.Toml.Scalar
import UserDirectory.Configuration.Toml.Strings
import UserDirectory.Configuration.Tree
import UserDirectory.Configuration.Variable
import UserDirectory.Database.Address
import UserDirectory.Database.Connection
import UserDirectory.Database.Exchange
import UserDirectory.Database.Percent
import UserDirectory.Database.Target
import UserDirectory.Database.Url
import UserDirectory.Database.UserStore
import UserDirectory.Failure
import UserDirectory.Json.Basic
import UserDirectory.Json.Printer
import UserDirectory.Main
import UserDirectory.Migration.Basic
import UserDirectory.Migration.Run
import UserDirectory.Password.Argon2
import UserDirectory.Password.Blake2b
import UserDirectory.Password.Cost
import UserDirectory.Password.Digest
import UserDirectory.Password.Hasher
import UserDirectory.Password.Words
import UserDirectory.Proofs.Command.Faithful
import UserDirectory.Proofs.Command.Line
import UserDirectory.Proofs.Command.Report
import UserDirectory.Proofs.Command.Secrecy
import UserDirectory.Proofs.Command.Written
import UserDirectory.Proofs.Configuration.DistinctNames
import UserDirectory.Proofs.Configuration.Layers
import UserDirectory.Proofs.Configuration.Places
import UserDirectory.Proofs.Configuration.Reading
import UserDirectory.Proofs.Configuration.Tree
import UserDirectory.Proofs.Database.Exchange
import UserDirectory.Proofs.Database.Schema
import UserDirectory.Proofs.Database.Sending
import UserDirectory.Proofs.Database.Steps
import UserDirectory.Proofs.Except
import UserDirectory.Proofs.Keyed
import UserDirectory.Proofs.Migration.Ledger
import UserDirectory.Proofs.Migration.Progress
import UserDirectory.Proofs.Migration.Recovery
import UserDirectory.Proofs.Migration.Rehearsal
import UserDirectory.Proofs.Migration.Reversal
import UserDirectory.Proofs.Password.OutputLength
import UserDirectory.Proofs.Password.Spelling
import UserDirectory.Proofs.Password.Verification
import UserDirectory.Proofs.Service.Admission
import UserDirectory.Proofs.Service.Agreement
import UserDirectory.Proofs.Service.Amendment
import UserDirectory.Proofs.Service.BatchDeletion
import UserDirectory.Proofs.Service.Blind
import UserDirectory.Proofs.Service.Calls
import UserDirectory.Proofs.Service.Checks
import UserDirectory.Proofs.Service.Creation
import UserDirectory.Proofs.Service.CreationRange
import UserDirectory.Proofs.Service.Credentials
import UserDirectory.Proofs.Service.Decision
import UserDirectory.Proofs.Service.Effect
import UserDirectory.Proofs.Service.Failing
import UserDirectory.Proofs.Service.Faulty
import UserDirectory.Proofs.Service.Fitting
import UserDirectory.Proofs.Service.Guarded
import UserDirectory.Proofs.Service.Interference
import UserDirectory.Proofs.Service.Interleaving
import UserDirectory.Proofs.Service.Invisible
import UserDirectory.Proofs.Service.Listing
import UserDirectory.Proofs.Service.Parallel
import UserDirectory.Proofs.Service.Refusal
import UserDirectory.Proofs.Service.Run
import UserDirectory.Proofs.Service.Serial
import UserDirectory.Proofs.Service.Session
import UserDirectory.Proofs.Service.Trace
import UserDirectory.Proofs.Service.Validation
import UserDirectory.Proofs.Service.WriteOnce
import UserDirectory.Proofs.Sql.Assignments
import UserDirectory.Proofs.Sql.Binding
import UserDirectory.Proofs.Sql.Decoding
import UserDirectory.Proofs.Sql.Fitting
import UserDirectory.Proofs.Sql.Like
import UserDirectory.Proofs.Sql.Listing
import UserDirectory.Proofs.Sql.Literal
import UserDirectory.Proofs.Sql.Marks
import UserDirectory.Proofs.Sql.Paging
import UserDirectory.Proofs.Sql.PartialUpdate
import UserDirectory.Proofs.Sql.Peer
import UserDirectory.Proofs.Sql.Places
import UserDirectory.Proofs.Sql.RoundTrip
import UserDirectory.Proofs.Sql.Selection
import UserDirectory.Proofs.Sql.Served
import UserDirectory.Proofs.Sql.Shape
import UserDirectory.Proofs.Sql.Template
import UserDirectory.Proofs.Sql.Uniqueness
import UserDirectory.Proofs.Statistics.Aggregate
import UserDirectory.Proofs.Statistics.Census
import UserDirectory.Proofs.Statistics.Count
import UserDirectory.Proofs.Statistics.Interleaved
import UserDirectory.Proofs.Statistics.Listed
import UserDirectory.Proofs.Store.Alike
import UserDirectory.Proofs.Store.Change
import UserDirectory.Proofs.Store.Conflict
import UserDirectory.Proofs.Store.Consistency
import UserDirectory.Proofs.Store.Crowd
import UserDirectory.Proofs.Store.Frame
import UserDirectory.Proofs.Store.Lookup
import UserDirectory.Proofs.Store.Order
import UserDirectory.Proofs.Store.Pages
import UserDirectory.Proofs.Store.Rows
import UserDirectory.Proofs.Store.Timestamps
import UserDirectory.Proofs.Store.Veiled
import UserDirectory.Proofs.Text.Base64
import UserDirectory.Proofs.Text.ByteOrder
import UserDirectory.Proofs.Text.Decimal
import UserDirectory.Proofs.Text.Fields
import UserDirectory.Proofs.Time.Boundary
import UserDirectory.Proofs.Time.Calendar
import UserDirectory.Proofs.Time.DateText
import UserDirectory.Proofs.Time.InstantText
import UserDirectory.Proofs.Time.LocalDate
import UserDirectory.Proofs.Time.Windows
import UserDirectory.Proofs.User.Email
import UserDirectory.Proofs.User.Length
import UserDirectory.Proofs.User.Mobile
import UserDirectory.Proofs.User.Patch
import UserDirectory.Proofs.User.Record
import UserDirectory.Service.CreationRange
import UserDirectory.Service.Event
import UserDirectory.Service.Operation
import UserDirectory.Service.Platform
import UserDirectory.Service.Program
import UserDirectory.Service.Request
import UserDirectory.Sql.Column
import UserDirectory.Sql.Condition
import UserDirectory.Sql.Fetched
import UserDirectory.Sql.Like
import UserDirectory.Sql.Schema
import UserDirectory.Sql.Statement
import UserDirectory.Sql.Table
import UserDirectory.Sql.Template
import UserDirectory.Store.Basic
import UserDirectory.Store.Call
import UserDirectory.Store.Memory
import UserDirectory.Store.Supplies
import UserDirectory.Text.Base64
import UserDirectory.Text.Blank
import UserDirectory.Text.Decimal
import UserDirectory.Text.Digit
import UserDirectory.Text.Fields
import UserDirectory.Text.Floating
import UserDirectory.Text.Letter
import UserDirectory.Text.Ranges
import UserDirectory.Text.Substring
import UserDirectory.Text.Utf8
import UserDirectory.Time.Boundary
import UserDirectory.Time.Date
import UserDirectory.Time.DateText
import UserDirectory.Time.Instant
import UserDirectory.Time.InstantText
import UserDirectory.Time.Microsecond
import UserDirectory.Time.Offset
import UserDirectory.User.Basic
import UserDirectory.User.Email
import UserDirectory.User.Filter
import UserDirectory.User.Id
import UserDirectory.User.Mobile
import UserDirectory.User.Page
import UserDirectory.User.Patch
import UserDirectory.User.RandomId
import UserDirectory.User.Record
import UserDirectory.User.Rule
import UserDirectory.User.Statistics
import UserDirectory.User.Tally
