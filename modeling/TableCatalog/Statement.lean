import TableCatalog.TableDefinition

/-!
# Statements

A script is a list of statements. Only definitions of tables are looked into; of the
others it matters whether they drop a table, and how they are spelled.
-/

namespace TableCatalog

/-- A statement. All but the definitions of tables are known by their canonical
spelling: keywords in upper case, single blanks, lists with a comma and a blank. -/
inductive Statement where
  | createTable (definition : TableDefinition)
  | dropTable (text : String)
  /-- A statement that asks how another one would be carried out. -/
  | explanation (text : String)
  | other (text : String)

/-- What kind of statement it is to the reader of tables. -/
inductive StatementKind where
  | createTable
  | dropTable
  | unsupported
  deriving DecidableEq, Repr

/-- The name of a kind. -/
def StatementKind.label : StatementKind → String
  | createTable => "CreateTable"
  | dropTable => "DropTable"
  | unsupported => "Unsupported"

/-- The kind of a statement. -/
def Statement.kind : Statement → StatementKind
  | createTable _ => .createTable
  | dropTable _ => .dropTable
  | explanation _ | other _ => .unsupported

/-- A statement with the places in it put elsewhere. -/
def Statement.relocate (put : Location → Location) : Statement → Statement
  | createTable definition => createTable (definition.relocate put)
  | statement => statement

/-- The canonical spelling of a statement. -/
def Statement.render : Statement → String
  | createTable definition => definition.text
  | dropTable text | explanation text | other text => text

end TableCatalog
