import TableCatalog.Parser
import TableCatalog.Text.LineMark

/-!
# Failures

Why a statement gives no table. Empty texts and texts without a statement are no news;
all other failures are reported.
-/

namespace TableCatalog

/-- Why a statement gives no table. -/
inductive Failure where
  | emptyText
  | noStatement
  /-- The statement drops a table. -/
  | removesTable
  /-- A statement that has nothing to do with the definition of a table. -/
  | unsupported (statement : String)
  /-- No statement can be read. -/
  | malformed (line : Nat) (message : String)
  deriving DecidableEq, Repr

namespace Failure

/-- The wording of a failure. -/
def message : Failure → String
  | emptyText => "DDL text is empty"
  | noStatement => "No statement was parsed from the DDL text"
  | removesTable => "This is a DROP TABLE statement, not a CREATE TABLE statement"
  | unsupported statement => "Unsupported SQL statement type: " ++ statement
  | malformed line message => s!"SQL syntax error at line {line}: " ++ message

/-- Whether a failure is reported. -/
def isReported : Failure → Bool
  | emptyText | noStatement => false
  | _ => true

/-- The failure that an error in reading amounts to; it is laid to the line that the
error names, or else to the first one. -/
def ofError (error : ParseError) : Failure :=
  malformed ((Text.markedLine? error.message.toList).getD 1) error.message

/-- The failure that a fault behind the last complete statement amounts to. -/
def ofFault (fault : LexicalFault) : Failure :=
  malformed fault.place.line fault.message

end Failure

end TableCatalog
