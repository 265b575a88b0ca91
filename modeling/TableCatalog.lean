import TableCatalog.Catalog
import TableCatalog.ColumnDefinition
import TableCatalog.ColumnDefinition.Parser
import TableCatalog.CommandLine
import TableCatalog.DataType
import TableCatalog.DataType.Parser
import TableCatalog.Database
import TableCatalog.DeclaredType
import TableCatalog.Document
import TableCatalog.Encoding
import TableCatalog.Encoding.Gb18030
import TableCatalog.Encoding.Gb18030.FourByte
import TableCatalog.Encoding.Gb18030.TwoByte
import TableCatalog.Encoding.Utf16
import TableCatalog.Encoding.Utf8
import TableCatalog.Event
import TableCatalog.Expr
import TableCatalog.Expr.Access
import TableCatalog.Expr.Call
import TableCatalog.Expr.Operand
import TableCatalog.Expr.Operation
import TableCatalog.Expr.Parser
import TableCatalog.Expr.Phrase
import TableCatalog.Expr.Precedence
import TableCatalog.Expr.Temporal
import TableCatalog.Expr.Window
import TableCatalog.Failure
import TableCatalog.Files
import TableCatalog.Grammar.Lexical
import TableCatalog.Keyword
import TableCatalog.Literal
import TableCatalog.Location
import TableCatalog.Main
import TableCatalog.Name
import TableCatalog.Name.Parser
import TableCatalog.Parser
import TableCatalog.Phrases
import TableCatalog.Proofs.Accounts
import TableCatalog.Proofs.Alike
import TableCatalog.Proofs.Alone
import TableCatalog.Proofs.BalancedType
import TableCatalog.Proofs.BlankScript
import TableCatalog.Proofs.ByteOffset
import TableCatalog.Proofs.BytewiseLoop
import TableCatalog.Proofs.BytewiseScan
import TableCatalog.Proofs.Clauses
import TableCatalog.Proofs.ColumnOrigins
import TableCatalog.Proofs.ColumnOrigins.Elements
import TableCatalog.Proofs.ColumnOrigins.Gives
import TableCatalog.Proofs.CommentedType
import TableCatalog.Proofs.CompactText
import TableCatalog.Proofs.Contained
import TableCatalog.Proofs.DeclaredColumns
import TableCatalog.Proofs.DelimitedType
import TableCatalog.Proofs.EitherSource
import TableCatalog.Proofs.ErrorLine
import TableCatalog.Proofs.Escapes
import TableCatalog.Proofs.Fault
import TableCatalog.Proofs.Fault.Blank
import TableCatalog.Proofs.Fault.Cut
import TableCatalog.Proofs.Fault.Letter
import TableCatalog.Proofs.FirstStatement
import TableCatalog.Proofs.FollowingText
import TableCatalog.Proofs.FourByteText
import TableCatalog.Proofs.Hyphen
import TableCatalog.Proofs.InLine
import TableCatalog.Proofs.LeakingOptions
import TableCatalog.Proofs.Lexing
import TableCatalog.Proofs.Lexing.Exponent
import TableCatalog.Proofs.Lexing.Gap
import TableCatalog.Proofs.Lexing.Number
import TableCatalog.Proofs.Lexing.Operator
import TableCatalog.Proofs.Lexing.Quotation
import TableCatalog.Proofs.Lexing.Sign
import TableCatalog.Proofs.Lexing.Stands
import TableCatalog.Proofs.Lexing.Word
import TableCatalog.Proofs.LineMark
import TableCatalog.Proofs.Lines
import TableCatalog.Proofs.Lossless
import TableCatalog.Proofs.Malformed
import TableCatalog.Proofs.Moved
import TableCatalog.Proofs.NamedLine
import TableCatalog.Proofs.Nesting
import TableCatalog.Proofs.NextLine
import TableCatalog.Proofs.Offset
import TableCatalog.Proofs.OneStatement
import TableCatalog.Proofs.OpenType
import TableCatalog.Proofs.OptionKeys
import TableCatalog.Proofs.OptionOrder
import TableCatalog.Proofs.Pieces
import TableCatalog.Proofs.Piecewise
import TableCatalog.Proofs.Place
import TableCatalog.Proofs.PlainName
import TableCatalog.Proofs.Quoted
import TableCatalog.Proofs.Reading
import TableCatalog.Proofs.Recovery
import TableCatalog.Proofs.RetakenType
import TableCatalog.Proofs.Runs
import TableCatalog.Proofs.SecondAttempt
import TableCatalog.Proofs.Separate
import TableCatalog.Proofs.Settled
import TableCatalog.Proofs.SharedGrammar
import TableCatalog.Proofs.Shift
import TableCatalog.Proofs.SourcePath
import TableCatalog.Proofs.Tables
import TableCatalog.Proofs.TokenKinds
import TableCatalog.Proofs.TrimmedType
import TableCatalog.Proofs.TypeBounds
import TableCatalog.Proofs.TypePasses
import TableCatalog.Proofs.TypeReach
import TableCatalog.Proofs.Unicode
import TableCatalog.Proofs.VerbatimType
import TableCatalog.Proofs.WellFormed
import TableCatalog.Query
import TableCatalog.Query.Alias
import TableCatalog.Query.Parser
import TableCatalog.Query.RowPattern
import TableCatalog.Query.Selection
import TableCatalog.Query.Table
import TableCatalog.Schedule
import TableCatalog.Script
import TableCatalog.Source
import TableCatalog.Statement
import TableCatalog.Statement.Alteration
import TableCatalog.Statement.Change
import TableCatalog.Statement.Copy
import TableCatalog.Statement.Declaration
import TableCatalog.Statement.Definition
import TableCatalog.Statement.Parser
import TableCatalog.Statement.Privilege
import TableCatalog.Statement.Removal
import TableCatalog.Statement.Session
import TableCatalog.Statement.Stage
import TableCatalog.Statement.Upkeep
import TableCatalog.Table
import TableCatalog.Table.Extraction
import TableCatalog.TableDefinition
import TableCatalog.TableDefinition.Clause
import TableCatalog.TableDefinition.Constraint
import TableCatalog.TableDefinition.Parser
import TableCatalog.Text.Blank
import TableCatalog.Text.Casing
import TableCatalog.Text.Letter
import TableCatalog.Text.LineMark
import TableCatalog.Text.Scalar
import TableCatalog.Token
import TableCatalog.Token.Cursor
import TableCatalog.Token.Fault
import TableCatalog.Token.Lexer
import TableCatalog.Token.PartitionClause
import TableCatalog.Token.Quoted
import TableCatalog.Token.Run
