import TableCatalog.Expr
import TableCatalog.Parser
import TableCatalog.Query

/-!
# Phrases inside phrases

Expressions hold queries, queries hold expressions, and types may hold columns. A
reader of one of them is written over readers of all of them, which are one step
smaller; tying the knot is left to the module that has them all.
-/

namespace TableCatalog

/-- Readers for the phrases that occur inside other phrases. -/
structure Phrases where
  /-- An expression whose operators bind more strongly than a bound. -/
  expr : Nat → Parser Expr
  /-- An operand, without any operator after it. -/
  operand : Parser Expr
  /-- A query with everything that may surround it. -/
  query : Parser String
  /-- A table with its joins. -/
  joins : Parser JoinedTable
  /-- A column of a nested table. -/
  column : Parser String
  /-- A statement that changes data, its first keyword having been read. -/
  change : String → Parser String

namespace Phrases

/-- Readers that give up. -/
def exhausted : Phrases where
  expr _ := Parser.fail .nestedTooDeeply
  operand := Parser.fail .nestedTooDeeply
  query := Parser.fail .nestedTooDeeply
  joins := Parser.fail .nestedTooDeeply
  column := Parser.fail .nestedTooDeeply
  change _ := Parser.fail .nestedTooDeeply

variable (inner : Phrases)

/-- An expression. -/
def anyExpr : Parser Expr :=
  inner.expr 0

/-- The spelling of an expression. -/
def exprText : Parser String := do
  pure (← inner.anyExpr).text

/-- The spellings of expressions with separators. -/
def exprTexts : Parser (List String) :=
  Parser.separated inner.exprText

/-- Whether a query is next that begins with `SELECT` or `WITH`. -/
def seesQuery : Parser Bool := do
  let key ← Parser.peekKey
  pure (key == "SELECT" || key == "WITH")

end Phrases

end TableCatalog
