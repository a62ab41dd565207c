import SqlMapper.Discovery.Database
import SqlMapper.Discovery.FileTree
import SqlMapper.Discovery.Loader
import SqlMapper.Discovery.Module
import SqlMapper.Engine.Connection
import SqlMapper.Engine.Execution
import SqlMapper.Engine.Pagination
import SqlMapper.Engine.Paging
import SqlMapper.Engine.QueryType
import SqlMapper.Entity.Basic
import SqlMapper.Entity.Catalogue
import SqlMapper.Entity.Hydration
import SqlMapper.Error
import SqlMapper.Gateway
import SqlMapper.Log
import SqlMapper.Mapper.Document
import SqlMapper.Mapper.Loading
import SqlMapper.Mapper.Registry
import SqlMapper.Mapper.Statement
import SqlMapper.Number.Binary
import SqlMapper.Number.Numeral
import SqlMapper.Number.Shortest
import SqlMapper.Settings.Basic
import SqlMapper.Settings.EnvFile
import SqlMapper.Settings.Json
import SqlMapper.Sql.Bind
import SqlMapper.Sql.Count
import SqlMapper.Sql.Literal
import SqlMapper.Sql.Normalize
import SqlMapper.Sql.Token
import SqlMapper.Store.Basic
import SqlMapper.Store.Cell
import SqlMapper.Store.Entities
import SqlMapper.Template.Access
import SqlMapper.Template.Args
import SqlMapper.Template.Call
import SqlMapper.Template.Clause
import SqlMapper.Template.Constant
import SqlMapper.Template.Eval
import SqlMapper.Template.Exec
import SqlMapper.Template.ExprParser
import SqlMapper.Template.Filter
import SqlMapper.Template.Folding
import SqlMapper.Template.Frame
import SqlMapper.Template.Lexer
import SqlMapper.Template.Link
import SqlMapper.Template.Mention
import SqlMapper.Template.Program
import SqlMapper.Template.Reader
import SqlMapper.Template.Render
import SqlMapper.Template.Scoping
import SqlMapper.Template.StmtParser
import SqlMapper.Template.Store
import SqlMapper.Template.Test
import SqlMapper.Template.Token
import SqlMapper.Template.Tree
import SqlMapper.Text.Blank
import SqlMapper.Text.Digit
import SqlMapper.Text.Identifier
import SqlMapper.Text.Letters
import SqlMapper.Text.Path
import SqlMapper.Text.Printable
import SqlMapper.Text.Quoted
import SqlMapper.Text.Search
import SqlMapper.Text.Word
import SqlMapper.Validation
import SqlMapper.Value.Arithmetic
import SqlMapper.Value.Basic
import SqlMapper.Value.Comparison
import SqlMapper.Value.Conversion
import SqlMapper.Value.Display
import SqlMapper.Value.Failure
import SqlMapper.Value.Formatting
import SqlMapper.Value.Item
import SqlMapper.Value.Method
import SqlMapper.Value.Sort
import SqlMapper.Xml.Doctype
import SqlMapper.Xml.Encoding
import SqlMapper.Xml.Reader
import SqlMapper.Xml.Scan
import SqlMapper.Xml.Tree
import SqlMapper.Proofs.Registry.Move
import SqlMapper.Proofs.Registry.Invariant
import SqlMapper.Proofs.Registry.SingleFlight
import SqlMapper.Proofs.Registry.LifeCycle
import SqlMapper.Proofs.Registry.Agreement
import SqlMapper.Proofs.Registry.Quiescence
import SqlMapper.Proofs.Registry.Settling
import SqlMapper.Proofs.Registry.WakeUp
import SqlMapper.Proofs.Registry.Isolation
import SqlMapper.Proofs.Registry.Past
import SqlMapper.Proofs.Registry.Recovery
import SqlMapper.Proofs.Sql.Reading
import SqlMapper.Proofs.Sql.OneLine
import SqlMapper.Proofs.Sql.Quotation
import SqlMapper.Proofs.Template.PlainText
import SqlMapper.Proofs.Template.Outline
import SqlMapper.Proofs.Template.Parsing
import SqlMapper.Proofs.Template.Linking
import SqlMapper.Proofs.Template.Rendering
import SqlMapper.Proofs.Template.Injection
import SqlMapper.Proofs.Sql.Keyword
import SqlMapper.Proofs.Sql.CountBoundary
import SqlMapper.Proofs.Engine.Page
import SqlMapper.Proofs.Value.Outcome
import SqlMapper.Proofs.Value.Relaxed
import SqlMapper.Proofs.Value.Sorting
import SqlMapper.Proofs.Template.Compiling
import SqlMapper.Proofs.Template.Fragment
import SqlMapper.Proofs.Template.FragmentConstants
import SqlMapper.Proofs.Template.LinkedParts
import SqlMapper.Proofs.Template.FragmentLinking
import SqlMapper.Proofs.Template.Relaxation
import SqlMapper.Proofs.Template.Strictness
import SqlMapper.Proofs.Template.Leftover
import SqlMapper.Proofs.Template.OneName
import SqlMapper.Proofs.Template.Lookups
import SqlMapper.Proofs.Template.Interface
import SqlMapper.Proofs.Engine.Sending
import SqlMapper.Proofs.Sql.NormalForm
import SqlMapper.Proofs.Sql.Window
import SqlMapper.Proofs.Gateway.Step
import SqlMapper.Proofs.Gateway.Refusal
import SqlMapper.Proofs.Gateway.Exchange
import SqlMapper.Proofs.Gateway.PageProtocol
import SqlMapper.Proofs.Gateway.PageWindow
import SqlMapper.Proofs.Text.Letters
import SqlMapper.Proofs.Xml.Attributes
import SqlMapper.Proofs.Mapper.Folding
import SqlMapper.Proofs.Mapper.Grouping
import SqlMapper.Proofs.Mapper.Statements
import SqlMapper.Proofs.Mapper.Table
import SqlMapper.Proofs.Mapper.Flaws
import SqlMapper.Proofs.Mapper.Documented
import SqlMapper.Proofs.Gateway.Transaction
import SqlMapper.Proofs.Discovery.Exactness
import SqlMapper.Proofs.Sql.Constants
import SqlMapper.Proofs.Store.Constraints
import SqlMapper.Proofs.Store.Runs
import SqlMapper.Proofs.Store.RowByRow
import SqlMapper.Proofs.Sql.LiveBinds
import SqlMapper.Proofs.Sql.CountLayout
import SqlMapper.Proofs.Store.Binding
import SqlMapper.Proofs.Store.Rows
import SqlMapper.Proofs.Store.Selection
import SqlMapper.Proofs.Store.Saving
import SqlMapper.Proofs.Discovery.Execution
import SqlMapper.Proofs.Discovery.Attempts
import SqlMapper.Proofs.Discovery.Repetition
import SqlMapper.Proofs.Discovery.Repair
import SqlMapper.Proofs.Sql.Pattern
import SqlMapper.Proofs.Template.BlockTags
import SqlMapper.Proofs.Template.ClauseText
import SqlMapper.Proofs.Template.GuardedClause
import SqlMapper.Proofs.Template.Composition
import SqlMapper.Proofs.Template.TrailingCommas
import SqlMapper.Proofs.Sql.Binds
import SqlMapper.Proofs.Sql.Integers
import SqlMapper.Proofs.Template.Verbatim
import SqlMapper.Proofs.Mapper.PlainBodies
import SqlMapper.Proofs.Registry.Serving
import SqlMapper.Proofs.Gateway.PlainSql
import SqlMapper.Proofs.Mapper.Children
