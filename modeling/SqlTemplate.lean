import SqlTemplate.Dialect.Inline
import SqlTemplate.Engine
import SqlTemplate.Query
import SqlTemplate.Statement.Placeholder
import SqlTemplate.Text.Shown
import SqlTemplate.Json.Numeral
import SqlTemplate.Json.Token
import SqlTemplate.Json.Tree
import SqlTemplate.Json.Document
import SqlTemplate.Json.Error
import SqlTemplate.Json.Decode
import SqlTemplate.Json.Record
import SqlTemplate.Config.Json
import SqlTemplate.Parameters.Json
import SqlTemplate.Query.Json
import SqlTemplate.Statement.Json
import SqlTemplate.CommandLine
import SqlTemplate.Main
import SqlTemplate.Proofs.Condition.RoundTrip
import SqlTemplate.Proofs.Engine.Cache
import SqlTemplate.Proofs.Engine.Strictness
import SqlTemplate.Proofs.Engine.Placeholders
import SqlTemplate.Proofs.Engine.TestValues
import SqlTemplate.Proofs.Query.Links
import SqlTemplate.Proofs.Query.Meaning
import SqlTemplate.Proofs.Render.Binds
import SqlTemplate.Proofs.Render.InPlace
import SqlTemplate.Proofs.Render.Shape
import SqlTemplate.Proofs.Template.Bracketing
import SqlTemplate.Proofs.Render.Fragments
import SqlTemplate.Proofs.Render.Connectors
import SqlTemplate.Proofs.Render.Invariant
import SqlTemplate.Proofs.Render.Scopes
import SqlTemplate.Proofs.Template.StandingAlone
import SqlTemplate.Proofs.Render.Unrolling
import SqlTemplate.Proofs.Calendar.RoundTrip
import SqlTemplate.Proofs.Json.Printed
import SqlTemplate.Proofs.NameMap
import SqlTemplate.Proofs.Value.RoundTrip
import SqlTemplate.Proofs.Statement.RoundTrip
import SqlTemplate.Proofs.Dialect.Literal
import SqlTemplate.Proofs.Query.Pattern
import SqlTemplate.Proofs.Query.Truth
import SqlTemplate.Proofs.Query.Splitting
import SqlTemplate.Proofs.Condition.Coherence
import SqlTemplate.Proofs.Decimal.Rounding
import SqlTemplate.Proofs.Decimal.Limit
import SqlTemplate.Proofs.Condition.Integers
import SqlTemplate.Proofs.Render.Agenda
import SqlTemplate.Proofs.Render.Depth
import SqlTemplate.Proofs.Dialect.Inlining
import SqlTemplate.Proofs.Engine.Channels
import SqlTemplate.Proofs.Scope
import SqlTemplate.Proofs.Render.Visits
import SqlTemplate.Proofs.Engine.NullBinds
import SqlTemplate.Proofs.Query.Writers
import SqlTemplate.Proofs.Query.Escape
import SqlTemplate.Proofs.Query.Duplicates
import SqlTemplate.Proofs.Query.Columns
import SqlTemplate.Proofs.Query.Scalars
import SqlTemplate.Proofs.Dialect.Counted
import SqlTemplate.Proofs.Dialect.Positions
import SqlTemplate.Proofs.Scope.Resolution
import SqlTemplate.Proofs.Condition.Notation
import SqlTemplate.Proofs.Statement.Regions
import SqlTemplate.Proofs.Render.Forks
import SqlTemplate.Proofs.Template.Extents
import SqlTemplate.Proofs.Value.MemberOrder
