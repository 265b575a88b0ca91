import TableCatalog.Name

/-!
# Expressions

Nothing is ever computed from an expression; statements only show it. An expression is
therefore its canonical spelling, with the little that is asked of its shape.
-/

namespace TableCatalog

/-- What the phrases around an expression ask of its shape. -/
inductive ExprShape where
  /-- A single identifier. -/
  | name (identifier : Identifier)
  /-- An equation whose left side is a single identifier. -/
  | equation (identifier : Identifier) (value : String)
  /-- A query in parentheses. -/
  | query
  | other
  deriving DecidableEq, Repr

/-- An expression by its canonical spelling. -/
structure Expr where
  text : String
  shape : ExprShape
  deriving DecidableEq, Repr

namespace Expr

/-- An expression of no particular shape. -/
def ofText (text : String) : Expr :=
  ⟨text, .other⟩

/-- The expression that a query in parentheses is. -/
def ofQuery (query : String) : Expr :=
  ⟨"(" ++ query ++ ")", .query⟩

/-- The expression that an identifier is. -/
def ofName (name : Identifier) : Expr :=
  ⟨name.render, .name name⟩

end Expr

/-- Items with separators between them. -/
def commaList (items : List String) : String :=
  ", ".intercalate items

/-- An optional part of a phrase, after a blank. -/
def afterBlank (part : Option String) : String :=
  part.elim "" fun text => " " ++ text

end TableCatalog
