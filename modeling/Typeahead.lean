import Typeahead.Catalog.Feed
import Typeahead.Catalog.Location
import Typeahead.Catalog.Pass
import Typeahead.Catalog.Row
import Typeahead.Catalog.Source
import Typeahead.Client
import Typeahead.Command.Custody
import Typeahead.Command.Line
import Typeahead.Command.Options
import Typeahead.Command.Run
import Typeahead.Config.Load
import Typeahead.Config.Problem
import Typeahead.Config.Raw
import Typeahead.Config.Reading
import Typeahead.Config.Settings
import Typeahead.Config.Sources
import Typeahead.Config.StoreChoice
import Typeahead.Decimal.Binary64
import Typeahead.Decimal.Literal
import Typeahead.Decimal.Shortest
import Typeahead.Files.Path
import Typeahead.Files.Tree
import Typeahead.Index.Build
import Typeahead.Index.Expansion
import Typeahead.Index.Lookup
import Typeahead.Index.Writer
import Typeahead.Json.Display
import Typeahead.Json.Encoding
import Typeahead.Json.Printer
import Typeahead.Json.Reader
import Typeahead.Json.Value
import Typeahead.Main
import Typeahead.Notice
import Typeahead.Proofs.Catalog.Failures
import Typeahead.Proofs.Catalog.Interrupted
import Typeahead.Proofs.Catalog.Names
import Typeahead.Proofs.Catalog.Passes
import Typeahead.Proofs.Catalog.Recut
import Typeahead.Proofs.Catalog.Rendered
import Typeahead.Proofs.Catalog.Rows
import Typeahead.Proofs.Catalog.Sources
import Typeahead.Proofs.Catalog.Yield
import Typeahead.Proofs.Command.Building
import Typeahead.Proofs.Command.Configuration
import Typeahead.Proofs.Command.Custody
import Typeahead.Proofs.Command.Reporting
import Typeahead.Proofs.Config.File
import Typeahead.Proofs.Config.Precedence
import Typeahead.Proofs.Config.Values
import Typeahead.Proofs.Index.Books
import Typeahead.Proofs.Index.Counters
import Typeahead.Proofs.Index.Cuts
import Typeahead.Proofs.Index.Effects
import Typeahead.Proofs.Index.Endings
import Typeahead.Proofs.Index.Faults
import Typeahead.Proofs.Index.Growth
import Typeahead.Proofs.Index.History
import Typeahead.Proofs.Index.Indexed
import Typeahead.Proofs.Index.Keys
import Typeahead.Proofs.Index.Moves
import Typeahead.Proofs.Index.Observed
import Typeahead.Proofs.Index.Outcome
import Typeahead.Proofs.Index.Progress
import Typeahead.Proofs.Index.Queue
import Typeahead.Proofs.Index.Suggestions
import Typeahead.Proofs.Index.Trace
import Typeahead.Proofs.Json.Containers
import Typeahead.Proofs.Json.Grammar
import Typeahead.Proofs.Json.Numbers
import Typeahead.Proofs.Json.Reading
import Typeahead.Proofs.Json.Strings
import Typeahead.Proofs.Json.Writing
import Typeahead.Proofs.Results
import Typeahead.Proofs.Schedule.Exclusion
import Typeahead.Proofs.Schedule.Logbook
import Typeahead.Proofs.Schedule.Recording
import Typeahead.Proofs.Schedule.Single
import Typeahead.Proofs.Schedule.Stepping
import Typeahead.Proofs.Schedule.Stopping
import Typeahead.Proofs.Schedule.Strides
import Typeahead.Proofs.Schedule.Ticks
import Typeahead.Proofs.Schedule.Timetable
import Typeahead.Proofs.Service.Answers
import Typeahead.Proofs.Service.Delivery
import Typeahead.Proofs.Store.Backed
import Typeahead.Proofs.Store.Content
import Typeahead.Proofs.Store.Flush
import Typeahead.Proofs.Store.Mirror
import Typeahead.Proofs.Store.Queueing
import Typeahead.Proofs.Store.RankList
import Typeahead.Proofs.Store.Ranking
import Typeahead.Proofs.Text.ByteOrder
import Typeahead.Proofs.Text.Cutting
import Typeahead.Proofs.Text.Decoding
import Typeahead.Proofs.Text.LineEnds
import Typeahead.Proofs.Text.Trimming
import Typeahead.Proofs.Text.WellFormed
import Typeahead.Proofs.Web.Addresses
import Typeahead.Proofs.Web.Paths
import Typeahead.Proofs.Web.Percent
import Typeahead.Proofs.Web.Redirects
import Typeahead.Proofs.Web.Spelling
import Typeahead.Schedule.Indexer
import Typeahead.Schedule.Instant
import Typeahead.Schedule.Status
import Typeahead.Schedule.Supervisor
import Typeahead.Schedule.Task
import Typeahead.Schedule.Ticker
import Typeahead.Service.Life
import Typeahead.Service.Response
import Typeahead.Service.Route
import Typeahead.Store.Addition
import Typeahead.Store.Faulty
import Typeahead.Store.Memory
import Typeahead.Store.Ranked
import Typeahead.Store.Server
import Typeahead.Store.ServerAddress
import Typeahead.Text.Base64
import Typeahead.Text.Blank
import Typeahead.Text.Digit
import Typeahead.Text.Lines
import Typeahead.Text.Quoted
import Typeahead.Text.Unprintable
import Typeahead.Text.Utf8
import Typeahead.Web.Address
import Typeahead.Web.Body
import Typeahead.Web.Host
import Typeahead.Web.Network
import Typeahead.Web.Percent
import Typeahead.Web.Status
import Typeahead.Yaml.Cursor
import Typeahead.Yaml.Document
import Typeahead.Yaml.Node
import Typeahead.Yaml.Scalar
import Typeahead.Yaml.ScalarText
import Typeahead.Yaml.Token
