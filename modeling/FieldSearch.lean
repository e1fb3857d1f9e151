import FieldSearch.Cli.Arguments
import FieldSearch.Cli.Error
import FieldSearch.Cli.Folder
import FieldSearch.Cli.Options
import FieldSearch.Cli.Path
import FieldSearch.Cli.Program
import FieldSearch.Database.Access
import FieldSearch.Database.Advice
import FieldSearch.Database.Basic
import FieldSearch.Database.Catalog
import FieldSearch.Database.Cell
import FieldSearch.Database.Codec
import FieldSearch.Database.Fault
import FieldSearch.Database.Inventory
import FieldSearch.Database.JsonTable
import FieldSearch.Database.KeySample
import FieldSearch.Database.Knowledge
import FieldSearch.Database.Layout
import FieldSearch.Database.LooseJson.Basic
import FieldSearch.Database.LooseJson.Path
import FieldSearch.Database.LooseJson.Reader
import FieldSearch.Database.NameOrder
import FieldSearch.Database.Page
import FieldSearch.Database.PageTree
import FieldSearch.Database.Payload
import FieldSearch.Database.RowBytes
import FieldSearch.Database.Selection
import FieldSearch.Database.Setting
import FieldSearch.Database.SettingList
import FieldSearch.Database.Statistics
import FieldSearch.Database.SystemTable
import FieldSearch.Database.Table
import FieldSearch.Database.TokenTable
import FieldSearch.Database.Usage
import FieldSearch.Json.Basic
import FieldSearch.Json.Decoder
import FieldSearch.Json.Fault
import FieldSearch.Json.Printer
import FieldSearch.Json.Reader
import FieldSearch.Json.Scan
import FieldSearch.KeyMap
import FieldSearch.Logged
import FieldSearch.Main
import FieldSearch.Number.Binary64
import FieldSearch.Number.Decimal
import FieldSearch.Number.Digits
import FieldSearch.Number.DoubleDouble
import FieldSearch.Number.Numeral
import FieldSearch.Number.Power
import FieldSearch.Number.Scaled
import FieldSearch.Postgres.Address
import FieldSearch.Postgres.ConnectionString
import FieldSearch.Postgres.Options
import FieldSearch.Query.Error
import FieldSearch.Query.Modifier
import FieldSearch.Query.Page
import FieldSearch.Query.Resolver
import FieldSearch.Query.Select
import FieldSearch.Record
import FieldSearch.RecordId
import FieldSearch.Schema.Basic
import FieldSearch.Schema.Codec
import FieldSearch.Schema.Column
import FieldSearch.Schema.Error
import FieldSearch.Schema.Statements
import FieldSearch.Search.Backend
import FieldSearch.Search.Compiler
import FieldSearch.Search.Config
import FieldSearch.Search.Error
import FieldSearch.Search.FieldSet
import FieldSearch.Search.Predicate
import FieldSearch.Search.Render
import FieldSearch.Search.Sorting
import FieldSearch.Search.Strategy
import FieldSearch.Search.TermSet
import FieldSearch.Sql.Dialect
import FieldSearch.Sql.Rendering
import FieldSearch.Sql.Template
import FieldSearch.Store.Basic
import FieldSearch.Store.Error
import FieldSearch.Store.Location
import FieldSearch.Store.Pool
import FieldSearch.Store.Statement
import FieldSearch.Text.Alphanumeric
import FieldSearch.Text.Blank
import FieldSearch.Text.Cased
import FieldSearch.Text.Identifier
import FieldSearch.Text.Like
import FieldSearch.Text.Lowercase
import FieldSearch.Text.PercentCode
import FieldSearch.Text.Printable
import FieldSearch.Text.Quoted
import FieldSearch.Text.Ranges
import FieldSearch.Text.Split
import FieldSearch.Text.Utf8
import FieldSearch.Text.Words
import FieldSearch.Proofs.Sql.Pieces
import FieldSearch.Proofs.Search.Predicate
import FieldSearch.Proofs.Search.Sought
import FieldSearch.Proofs.Search.NormalForm
import FieldSearch.Proofs.Search.Building
import FieldSearch.Proofs.Sql.Grammar
import FieldSearch.Proofs.Sql.Listed
import FieldSearch.Proofs.Sql.Separation
import FieldSearch.Proofs.Database.Cell
import FieldSearch.Proofs.Database.Selection
import FieldSearch.Proofs.Query.Blindness
import FieldSearch.Proofs.Query.Listing
import FieldSearch.Proofs.Query.Verbatim
import FieldSearch.Proofs.Query.Confinement
import FieldSearch.Proofs.Query.Paging
import FieldSearch.Proofs.Query.Causes
import FieldSearch.Proofs.Query.Ranking
import FieldSearch.Proofs.Query.Containment
import FieldSearch.Proofs.Search.Agreement
import FieldSearch.Proofs.Schema.Validation
import FieldSearch.Proofs.Schema.Statements
import FieldSearch.Proofs.Store.Opening
import FieldSearch.Proofs.Store.Records
import FieldSearch.Proofs.Store.Keys
import FieldSearch.Proofs.Cli.Startup
import FieldSearch.Proofs.Text.Words
import FieldSearch.Proofs.Text.Pattern
import FieldSearch.Proofs.Sql.Names
import FieldSearch.Proofs.Sql.Change
import FieldSearch.Proofs.Query.Equivalence
import FieldSearch.Proofs.Query.Tail
import FieldSearch.Proofs.Schema.Codec
import FieldSearch.Proofs.Postgres.Url
import FieldSearch.Proofs.Query.Addressing
import FieldSearch.Proofs.Query.Interchange
