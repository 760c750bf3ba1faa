import FilterQuery.Backend.Basic
import FilterQuery.Backend.Watched
import FilterQuery.Calendar.Date
import FilterQuery.Calendar.Instant
import FilterQuery.Calendar.Reader
import FilterQuery.Calendar.Written
import FilterQuery.Comparison
import FilterQuery.Compiler
import FilterQuery.Config
import FilterQuery.Declaration
import FilterQuery.DottedPath
import FilterQuery.Double.Basic
import FilterQuery.Double.Decimal
import FilterQuery.Double.Scaling
import FilterQuery.Error
import FilterQuery.Execution
import FilterQuery.Input
import FilterQuery.JoinType
import FilterQuery.Journal
import FilterQuery.Json.Basic
import FilterQuery.Json.Decoder
import FilterQuery.Json.Reader
import FilterQuery.Json.Records
import FilterQuery.Log
import FilterQuery.Operation
import FilterQuery.Page
import FilterQuery.Predicate
import FilterQuery.Proofs.Calendar.Civil
import FilterQuery.Proofs.Calendar.Days
import FilterQuery.Proofs.Calendar.Reading
import FilterQuery.Proofs.Compile.Acceptance
import FilterQuery.Proofs.Compile.Alike
import FilterQuery.Proofs.Compile.Blocks
import FilterQuery.Proofs.Compile.Collections
import FilterQuery.Proofs.Compile.Exchanges
import FilterQuery.Proofs.Compile.Failures
import FilterQuery.Proofs.Compile.Fields
import FilterQuery.Proofs.Compile.Ordering
import FilterQuery.Proofs.Compile.Reduced
import FilterQuery.Proofs.Compile.Renumbering
import FilterQuery.Proofs.Compile.Reuse
import FilterQuery.Proofs.Compile.Transcript
import FilterQuery.Proofs.Compile.Typing
import FilterQuery.Proofs.Fetching
import FilterQuery.Proofs.Inheritance
import FilterQuery.Proofs.Json.Ranges
import FilterQuery.Proofs.Json.Texts
import FilterQuery.Proofs.PageNumbers
import FilterQuery.Proofs.Paging
import FilterQuery.Proofs.Path
import FilterQuery.Proofs.Rows.Combining
import FilterQuery.Proofs.Rows.Database
import FilterQuery.Proofs.Rows.Flags
import FilterQuery.Proofs.Rows.Intersection
import FilterQuery.Proofs.Rows.Patterns
import FilterQuery.Proofs.Rows.Ranges
import FilterQuery.Proofs.Rows.Sorting
import FilterQuery.Proofs.Rows.Truth
import FilterQuery.Proofs.Settings
import FilterQuery.Proofs.SortPages
import FilterQuery.Proofs.Sql.Chain
import FilterQuery.Proofs.Sql.First
import FilterQuery.Proofs.Sql.Growth
import FilterQuery.Proofs.Sql.Joins
import FilterQuery.Proofs.Sql.Keys
import FilterQuery.Proofs.Sql.Names
import FilterQuery.Proofs.Sql.Reader
import FilterQuery.Proofs.Sql.Scan
import FilterQuery.Proofs.Sql.Session
import FilterQuery.Proofs.Sql.Statement
import FilterQuery.Proofs.Sql.Tokens
import FilterQuery.Proofs.Sql.Unambiguous
import FilterQuery.Proofs.Text.Case
import FilterQuery.Proofs.Text.Numerals
import FilterQuery.Recorder
import FilterQuery.RelationPath
import FilterQuery.Sample.Person
import FilterQuery.Sort
import FilterQuery.Sql.Constraint
import FilterQuery.Sql.Criteria
import FilterQuery.Sql.Dialect
import FilterQuery.Sql.Identifier
import FilterQuery.Sql.Operand
import FilterQuery.Sql.Relation
import FilterQuery.Sql.Select
import FilterQuery.Text.Blank
import FilterQuery.Text.CaseTable
import FilterQuery.Text.Lowercase
import FilterQuery.Text.Number
import FilterQuery.Text.Split
import FilterQuery.Value
