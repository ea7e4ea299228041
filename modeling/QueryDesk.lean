import QueryDesk.Call
import QueryDesk.Datum.Basic
import QueryDesk.Datum.Key
import QueryDesk.Datum.Printed
import QueryDesk.Desk.Opening
import QueryDesk.Desk.Session
import QueryDesk.Digest.Sha256
import QueryDesk.Engine.Basic
import QueryDesk.Failure
import QueryDesk.Form.Checked
import QueryDesk.Form.Reader
import QueryDesk.Grammar.Bracket
import QueryDesk.Grammar.Call
import QueryDesk.Grammar.Clause
import QueryDesk.Grammar.Creation
import QueryDesk.Grammar.DataType
import QueryDesk.Grammar.Definition
import QueryDesk.Grammar.Expression
import QueryDesk.Grammar.Keyword
import QueryDesk.Grammar.Lexer
import QueryDesk.Grammar.Modification
import QueryDesk.Grammar.Name
import QueryDesk.Grammar.Node
import QueryDesk.Grammar.Ordering
import QueryDesk.Grammar.Parse
import QueryDesk.Grammar.Pivot
import QueryDesk.Grammar.Primary
import QueryDesk.Grammar.Property
import QueryDesk.Grammar.Query
import QueryDesk.Grammar.Rule
import QueryDesk.Grammar.Session
import QueryDesk.Grammar.Signature
import QueryDesk.Grammar.SpecialCall
import QueryDesk.Grammar.Statement
import QueryDesk.Grammar.Table
import QueryDesk.Grammar.Token
import QueryDesk.Grammar.Window
import QueryDesk.Grid.Basic
import QueryDesk.Guard.Policy
import QueryDesk.Line.Basic
import QueryDesk.Line.Settle
import QueryDesk.Number.Binary64
import QueryDesk.Number.Decimal
import QueryDesk.Number.Numeral
import QueryDesk.Number.Shortest
import QueryDesk.Number.Whole
import QueryDesk.OrderedMap
import QueryDesk.Plan.Analysis
import QueryDesk.Plan.Basic
import QueryDesk.Plan.Catalog
import QueryDesk.Plan.Descent
import QueryDesk.Plan.Order
import QueryDesk.Proofs.Datum.Printed
import QueryDesk.Proofs.Datum.Written
import QueryDesk.Proofs.Desk.Closing
import QueryDesk.Proofs.Desk.Delivery
import QueryDesk.Proofs.Desk.Exclusion
import QueryDesk.Proofs.Desk.Isolation
import QueryDesk.Proofs.Desk.Permitted
import QueryDesk.Proofs.Desk.Portable
import QueryDesk.Proofs.Desk.Transparency
import QueryDesk.Proofs.Engine.Reading
import QueryDesk.Proofs.Engine.Supply
import QueryDesk.Proofs.Form.Passing
import QueryDesk.Proofs.Grammar.Parser
import QueryDesk.Proofs.Grammar.Quoted
import QueryDesk.Proofs.Grid.Normal
import QueryDesk.Proofs.Grid.Origin
import QueryDesk.Proofs.Grid.Portable
import QueryDesk.Proofs.Grid.Rebuilt
import QueryDesk.Proofs.Grid.Record
import QueryDesk.Proofs.Grid.Shaped
import QueryDesk.Proofs.Grid.Shapes
import QueryDesk.Proofs.Guard.Counted
import QueryDesk.Proofs.Guard.Forbidden
import QueryDesk.Proofs.Guard.Keyword
import QueryDesk.Proofs.Guard.Mention
import QueryDesk.Proofs.Guard.Single
import QueryDesk.Proofs.Guard.Strict
import QueryDesk.Proofs.Line.Blocks
import QueryDesk.Proofs.Line.Errand
import QueryDesk.Proofs.Line.Events
import QueryDesk.Proofs.Line.Exclusion
import QueryDesk.Proofs.Line.Move
import QueryDesk.Proofs.Line.Orderly
import QueryDesk.Proofs.Line.Sending
import QueryDesk.Proofs.Line.Settled
import QueryDesk.Proofs.Number.Shortest
import QueryDesk.Proofs.OrderedMap
import QueryDesk.Proofs.Outcome
import QueryDesk.Proofs.Plan.Bounded
import QueryDesk.Proofs.Plan.Contract
import QueryDesk.Proofs.Plan.Correlated
import QueryDesk.Proofs.Plan.Every
import QueryDesk.Proofs.Plan.Faithful
import QueryDesk.Proofs.Plan.Introspection
import QueryDesk.Proofs.Plan.Lasting
import QueryDesk.Proofs.Plan.Ordered
import QueryDesk.Proofs.Plan.Paged
import QueryDesk.Proofs.Plan.Payload
import QueryDesk.Proofs.Plan.Permitted
import QueryDesk.Proofs.Plan.Remembered
import QueryDesk.Proofs.Plan.Showing
import QueryDesk.Proofs.Plan.Streamed
import QueryDesk.Proofs.Plan.Strict
import QueryDesk.Proofs.Plan.Summarized
import QueryDesk.Proofs.Plan.Upfront
import QueryDesk.Proofs.Snapshot.Border
import QueryDesk.Proofs.Snapshot.Dealing
import QueryDesk.Proofs.Snapshot.Distinct
import QueryDesk.Proofs.Snapshot.History
import QueryDesk.Proofs.Snapshot.Key
import QueryDesk.Proofs.Snapshot.Ledger
import QueryDesk.Proofs.Snapshot.Store
import QueryDesk.Proofs.Sql.Accepted
import QueryDesk.Proofs.Sql.Compiled
import QueryDesk.Proofs.Sql.Injection
import QueryDesk.Proofs.Sql.Inquiry
import QueryDesk.Proofs.Sql.Name
import QueryDesk.Proofs.Sql.Neat
import QueryDesk.Proofs.Sql.Reading
import QueryDesk.Proofs.Sql.Standing
import QueryDesk.Proofs.Sql.Wording
import QueryDesk.Proofs.Text.Basic
import QueryDesk.Proofs.Text.Padded
import QueryDesk.Proofs.Text.Quoted
import QueryDesk.Proofs.Text.Utf8
import QueryDesk.Proofs.Time.Calendar
import QueryDesk.Proofs.Time.Instant
import QueryDesk.Proofs.Time.Written
import QueryDesk.Refusal
import QueryDesk.Report
import QueryDesk.Request.Basic
import QueryDesk.Request.Loose
import QueryDesk.Settings.Basic
import QueryDesk.Settings.Dotenv
import QueryDesk.Snapshot.Session
import QueryDesk.Snapshot.Store
import QueryDesk.Sql.Aggregate
import QueryDesk.Sql.Basic
import QueryDesk.Sql.Table
import QueryDesk.Text.Basic
import QueryDesk.Text.Quoted
import QueryDesk.Text.Utf8
import QueryDesk.Time.Calendar
import QueryDesk.Time.Instant
import QueryDesk.Time.Moment
