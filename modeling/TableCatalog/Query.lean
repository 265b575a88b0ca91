import TableCatalog.Expr

/-!
# Tables in queries

What a query reads from: tables with the names that they are given, and their joins.
A table is known by its spelling, which a name given to it later may still change.
-/

namespace TableCatalog

/-- A table in a query: its spelling up to the name that it is given, that name, and its
spelling after the name. -/
structure TableFactor where
  text : String
  name : Option String
  tail : String
  /-- Whether it is a join in parentheses. -/
  isJoin : Bool

namespace TableFactor

/-- A table that says nothing after its name. -/
def named (text : String) (name : Option String) : TableFactor :=
  ⟨text, name, "", false⟩

/-- A table as it is written. -/
def render (table : TableFactor) : String :=
  table.text ++ (table.name.elim "" fun name => " AS " ++ name) ++ table.tail

end TableFactor

/-- A table with its joins, each with a blank before it. -/
structure JoinedTable where
  table : TableFactor
  joins : List String

/-- A table with its joins as it is written. -/
def JoinedTable.render (joined : JoinedTable) : String :=
  joined.table.render ++ String.join joined.joins

end TableCatalog
