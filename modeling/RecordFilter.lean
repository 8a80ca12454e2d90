import RecordFilter.Backend
import RecordFilter.Converters
import RecordFilter.Demo
import RecordFilter.Derive
import RecordFilter.Derive.Attribute
import RecordFilter.Derive.Token
import RecordFilter.Derive.Token.Literal
import RecordFilter.Derive.Token.Reader
import RecordFilter.Derive.TypeExpr
import RecordFilter.Description
import RecordFilter.Error
import RecordFilter.Event
import RecordFilter.Json.Basic
import RecordFilter.Json.Number
import RecordFilter.Json.Reader
import RecordFilter.LogSettings
import RecordFilter.Main
import RecordFilter.Number.Binary64
import RecordFilter.Number.Decimal
import RecordFilter.Number.Shortest
import RecordFilter.Operator
import RecordFilter.Outline
import RecordFilter.Predicate
import RecordFilter.Predicate.Condition
import RecordFilter.Proofs.Acceptance
import RecordFilter.Proofs.Compilation
import RecordFilter.Proofs.Compilation.Solid
import RecordFilter.Proofs.Outcome
import RecordFilter.Proofs.Predicate.Meaning
import RecordFilter.Proofs.Time.Pattern
import RecordFilter.Proofs.Unfolding
import RecordFilter.Proofs.WellFormed
import RecordFilter.Record
import RecordFilter.Record.Field
import RecordFilter.Sql.Backend
import RecordFilter.Sql.Config
import RecordFilter.Sql.Config.Document
import RecordFilter.Sql.Config.Options
import RecordFilter.Sql.Quoting
import RecordFilter.Text.Blank
import RecordFilter.Text.CaseMap
import RecordFilter.Text.Cased
import RecordFilter.Text.Identifier
import RecordFilter.Text.Joining
import RecordFilter.Text.Quoted
import RecordFilter.Text.Unassigned
import RecordFilter.Text.Unprintable
import RecordFilter.Text.Words
import RecordFilter.Time.DateTime
import RecordFilter.Time.Pattern
import RecordFilter.Tree
import RecordFilter.Tree.Building
import RecordFilter.Uuid
import RecordFilter.Value
import RecordFilter.Value.Compare
import RecordFilter.Value.Display
import RecordFilter.Value.Tagged
import RecordFilter.Proofs.Sql.Rendering
import RecordFilter.Proofs.Sql.Token
import RecordFilter.Proofs.Sql.Literal
import RecordFilter.Proofs.Sql.Comparison
import RecordFilter.Proofs.Compilation.Gathering
import RecordFilter.Proofs.Sql.Layout
import RecordFilter.Proofs.Blanking
import RecordFilter.Proofs.Sql.Stream
import RecordFilter.Proofs.Sql.Grammar
import RecordFilter.Proofs.Sql.Meaning
import RecordFilter.Proofs.Compilation.Walk
import RecordFilter.Proofs.Compilation.Calls
import RecordFilter.Proofs.Compilation.Identity
import RecordFilter.Proofs.Traversal
import RecordFilter.Proofs.Compilation.Thinning
import RecordFilter.Proofs.Pruning
import RecordFilter.Proofs.Padding
import RecordFilter.Proofs.Unconditional
import RecordFilter.Proofs.Session
import RecordFilter.Proofs.Atomicity
import RecordFilter.Proofs.Reordering
import RecordFilter.Proofs.Elements
import RecordFilter.Proofs.Sql.Like
import RecordFilter.Proofs.Sql.Extent
import RecordFilter.Proofs.Sql.Validation
import RecordFilter.Proofs.Predicate.Monotone
import RecordFilter.Proofs.Wiring
import RecordFilter.Proofs.Wiring.Unused
import RecordFilter.Proofs.Number.Rounding
import RecordFilter.Proofs.Number.Approximation
import RecordFilter.Proofs.Number.StandIn
import RecordFilter.Proofs.Value.Order
import RecordFilter.Proofs.Value.Comparable
import RecordFilter.Proofs.Value.Coherence
import RecordFilter.Proofs.Predicate.Formula
import RecordFilter.Proofs.Cursor
import RecordFilter.Proofs.Predicate.Membership
import RecordFilter.Proofs.Accounting
import RecordFilter.Proofs.Derive.Options
import RecordFilter.Proofs.Derive.Acceptance
import RecordFilter.Proofs.Text.Words
import RecordFilter.Proofs.Derive.Naming
import RecordFilter.Proofs.Sql.Quotation
import RecordFilter.Proofs.Sql.Names
import RecordFilter.Proofs.Number.Interval
import RecordFilter.Proofs.Number.Shortest
import RecordFilter.Proofs.Number.Digits
import RecordFilter.Proofs.Number.Reading
import RecordFilter.Proofs.Number.DecimalText
import RecordFilter.Proofs.Time.Text
import RecordFilter.Proofs.Text.Uuid
import RecordFilter.Proofs.Json.Strings
import RecordFilter.Proofs.Json.Rendering
import RecordFilter.Proofs.Json.Numbers
import RecordFilter.Proofs.Value.Tagged
