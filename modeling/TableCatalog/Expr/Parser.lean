import TableCatalog.Expr.Operation

/-!
# Reading expressions

An expression is an operand with operators after it, read as far as the operators bind
more strongly than a bound.
-/

namespace TableCatalog.Expr

variable (inner : Phrases)

/-- An expression whose operators bind more strongly than a bound. -/
def parserAbove (bound : Nat) : Parser Expr :=
  Parser.nested do
    let first ← operand inner
    operations inner bound (← Parser.fuel) first

end TableCatalog.Expr
