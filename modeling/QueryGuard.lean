import QueryGuard.AllowList
import QueryGuard.Audit
import QueryGuard.CommandLine.Arguments
import QueryGuard.CommandLine.LogFilter
import QueryGuard.CommandLine.Run
import QueryGuard.Config
import QueryGuard.Config.Json
import QueryGuard.Dialect
import QueryGuard.Dialect.Features
import QueryGuard.Failure
import QueryGuard.Guard
import QueryGuard.Json.Decoder
import QueryGuard.Json.Number
import QueryGuard.Json.Record
import QueryGuard.Json.Schema
import QueryGuard.Json.Text
import QueryGuard.Json.Value
import QueryGuard.Main
import QueryGuard.NameSet
import QueryGuard.NodeKind
import QueryGuard.Proofs.Classification
import QueryGuard.Proofs.CommonTables
import QueryGuard.Proofs.Composition
import QueryGuard.Proofs.Entered
import QueryGuard.Proofs.EntryPoints
import QueryGuard.Proofs.Listable
import QueryGuard.Proofs.Lowering
import QueryGuard.Proofs.QuotedForm
import QueryGuard.Proofs.References
import QueryGuard.Proofs.Refinement
import QueryGuard.Proofs.Restriction
import QueryGuard.Proofs.SelectInto
import QueryGuard.Proofs.Shape
import QueryGuard.Proofs.Stacks
import QueryGuard.Proofs.Stages
import QueryGuard.Proofs.SyntaxTree
import QueryGuard.Proofs.Walk
import QueryGuard.Proofs.WholeTable
import QueryGuard.Report
import QueryGuard.Report.Json
import QueryGuard.ScriptReader
import QueryGuard.Sql.Grammar
import QueryGuard.Sql.Grammar.Access
import QueryGuard.Sql.Grammar.Alter
import QueryGuard.Sql.Grammar.Block
import QueryGuard.Sql.Grammar.Create
import QueryGuard.Sql.Grammar.DataType
import QueryGuard.Sql.Grammar.Expr
import QueryGuard.Sql.Grammar.From
import QueryGuard.Sql.Grammar.Names
import QueryGuard.Sql.Grammar.ObjectName
import QueryGuard.Sql.Grammar.Option
import QueryGuard.Sql.Grammar.Precedence
import QueryGuard.Sql.Grammar.Query
import QueryGuard.Sql.Grammar.Select
import QueryGuard.Sql.Grammar.Session
import QueryGuard.Sql.Grammar.Statement
import QueryGuard.Sql.Grammar.Table
import QueryGuard.Sql.Grammar.Transfer
import QueryGuard.Sql.Grammar.Write
import QueryGuard.Sql.Keyword
import QueryGuard.Sql.Lexer
import QueryGuard.Sql.Opening
import QueryGuard.Sql.Parser
import QueryGuard.Sql.Script
import QueryGuard.Sql.SyntaxError
import QueryGuard.Sql.Token
import QueryGuard.Sql.Visit
import QueryGuard.TableList
import QueryGuard.Text.Blank
import QueryGuard.Text.Letter
import QueryGuard.Text.Quoted
import QueryGuard.Text.Ranges
import QueryGuard.Text.Split
import QueryGuard.Text.Visible
import QueryGuard.Tree.Builder
import QueryGuard.Tree.Node
import QueryGuard.Tree.Outline
import QueryGuard.Tree.Reference
import QueryGuard.Tree.Walk
import QueryGuard.Proofs.Settings
import QueryGuard.Proofs.Reachable
import QueryGuard.Proofs.Authorization
import QueryGuard.Proofs.ListGrammar
import QueryGuard.Proofs.AuditTrail
import QueryGuard.Proofs.Runs
import QueryGuard.Proofs.RoundTrip
import QueryGuard.Proofs.Occurrences
import QueryGuard.Proofs.Gathering
import QueryGuard.Proofs.OpeningWord
import QueryGuard.Proofs.Spelling
import QueryGuard.Proofs.Loops
