import FluentQuery.Action
import FluentQuery.Adapter.Basic
import FluentQuery.Adapter.Connect
import FluentQuery.Adapter.Driver
import FluentQuery.Adapter.Engine
import FluentQuery.Adapter.Execute
import FluentQuery.Adapter.Options
import FluentQuery.Adapter.Path
import FluentQuery.Adapter.Placeholder
import FluentQuery.Adapter.Registry
import FluentQuery.Adapter.Script
import FluentQuery.Calendar.Date
import FluentQuery.Calendar.DateTime
import FluentQuery.Clause.Basic
import FluentQuery.Clause.Fit
import FluentQuery.Convert.Instant
import FluentQuery.Convert.Scalar
import FluentQuery.Error.Builder
import FluentQuery.Error.Failure
import FluentQuery.Log.Record
import FluentQuery.Log.Threshold
import FluentQuery.Number.Binary64
import FluentQuery.Number.Decimal
import FluentQuery.Number.FloatText
import FluentQuery.Number.Integer
import FluentQuery.Number.Shortest
import FluentQuery.Page.Arithmetic
import FluentQuery.Page.Basic
import FluentQuery.Query.Basic
import FluentQuery.Query.Terminal
import FluentQuery.Row.Decode
import FluentQuery.Schema.Basic
import FluentQuery.Schema.Issue
import FluentQuery.Schema.Validate
import FluentQuery.Session.Operation
import FluentQuery.Session.Run
import FluentQuery.Settings.EnvFile
import FluentQuery.Settings.Environment
import FluentQuery.Settings.Load
import FluentQuery.Sql.Call
import FluentQuery.Sql.Call.Arity
import FluentQuery.Sql.Call.Special
import FluentQuery.Sql.Change
import FluentQuery.Sql.Clause
import FluentQuery.Sql.Definition
import FluentQuery.Sql.Dialect
import FluentQuery.Sql.Grammar
import FluentQuery.Sql.Grouping
import FluentQuery.Sql.Interval
import FluentQuery.Sql.Join
import FluentQuery.Sql.Lexical
import FluentQuery.Sql.Name
import FluentQuery.Sql.Node
import FluentQuery.Sql.Operand
import FluentQuery.Sql.Operator
import FluentQuery.Sql.Pivot
import FluentQuery.Sql.Query
import FluentQuery.Sql.Shape
import FluentQuery.Sql.Statement
import FluentQuery.Sql.Table
import FluentQuery.Sql.Token
import FluentQuery.Sql.Token.Lexer
import FluentQuery.Sql.Token.Quoted
import FluentQuery.Sql.TypeName
import FluentQuery.Sql.Vocabulary
import FluentQuery.Sql.Window
import FluentQuery.Statement.Compile
import FluentQuery.Statement.Render
import FluentQuery.Text.Blank
import FluentQuery.Text.Digit
import FluentQuery.Text.Encoding
import FluentQuery.Text.LetterCase
import FluentQuery.Text.Printable
import FluentQuery.Text.Quoted
import FluentQuery.Text.Ranges
import FluentQuery.Text.Word
import FluentQuery.Value.Basic
import FluentQuery.Value.Printed
import FluentQuery.Proofs.Action.Pair
import FluentQuery.Proofs.Action.Run
import FluentQuery.Proofs.Adapter.Answered
import FluentQuery.Proofs.Adapter.Bisimulation
import FluentQuery.Proofs.Adapter.Calls
import FluentQuery.Proofs.Adapter.Counted
import FluentQuery.Proofs.Adapter.Counterparts
import FluentQuery.Proofs.Adapter.Course
import FluentQuery.Proofs.Adapter.Credentials
import FluentQuery.Proofs.Adapter.Failures
import FluentQuery.Proofs.Adapter.Orderly
import FluentQuery.Proofs.Adapter.Ownership
import FluentQuery.Proofs.Adapter.ReadOnly
import FluentQuery.Proofs.Adapter.Registered
import FluentQuery.Proofs.Adapter.Rollback
import FluentQuery.Proofs.Adapter.Twins
import FluentQuery.Proofs.Adapter.Wrapping
import FluentQuery.Proofs.CustomSql.Bounded
import FluentQuery.Proofs.CustomSql.ClauseOrder
import FluentQuery.Proofs.CustomSql.Rendered
import FluentQuery.Proofs.CustomSql.Restriction
import FluentQuery.Proofs.CustomSql.Verbatim
import FluentQuery.Proofs.Number.Integral
import FluentQuery.Proofs.Number.Numeral
import FluentQuery.Proofs.Paging.Accepted
import FluentQuery.Proofs.Paging.Built
import FluentQuery.Proofs.Paging.Fetched
import FluentQuery.Proofs.Paging.Total
import FluentQuery.Proofs.Paging.Walk
import FluentQuery.Proofs.Placeholder.Formatted
import FluentQuery.Proofs.Placeholder.Literal
import FluentQuery.Proofs.Query.Refusal
import FluentQuery.Proofs.Query.Replay
import FluentQuery.Proofs.Reading.Clause
import FluentQuery.Proofs.Reading.Filter
import FluentQuery.Proofs.Reading.Lexeme
import FluentQuery.Proofs.Reading.Outline
import FluentQuery.Proofs.Row.Decoded
import FluentQuery.Proofs.Row.Folded
import FluentQuery.Proofs.Session.Creation
import FluentQuery.Proofs.Session.Credentials
import FluentQuery.Proofs.Session.Lineage
import FluentQuery.Proofs.Session.Logging
import FluentQuery.Proofs.Session.Operations
import FluentQuery.Proofs.Session.Queries
import FluentQuery.Proofs.Session.Registrations
import FluentQuery.Proofs.Session.Snapshot
import FluentQuery.Proofs.Settings.Reading
import FluentQuery.Proofs.Statement.Announced
import FluentQuery.Proofs.Statement.Announcements
import FluentQuery.Proofs.Statement.Bounds
import FluentQuery.Proofs.Statement.Compiled
import FluentQuery.Proofs.Statement.Counting
import FluentQuery.Proofs.Statement.Headed
import FluentQuery.Proofs.Statement.Placeholders
import FluentQuery.Proofs.Statement.Recovered
import FluentQuery.Proofs.Statement.Values
import FluentQuery.Proofs.Statement.Words
import FluentQuery.Proofs.Terminal.Beside
import FluentQuery.Proofs.Terminal.Conduct
import FluentQuery.Proofs.Terminal.Deletion
import FluentQuery.Proofs.Terminal.Engines
import FluentQuery.Proofs.Terminal.Exchange
import FluentQuery.Proofs.Terminal.Records
import FluentQuery.Proofs.Terminal.Scalar
import FluentQuery.Proofs.Terminal.Sent
import FluentQuery.Proofs.Terminal.Validation
import FluentQuery.Proofs.Terminal.Values
