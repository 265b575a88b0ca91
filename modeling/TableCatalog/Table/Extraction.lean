import TableCatalog.DeclaredType
import TableCatalog.Failure
import TableCatalog.Statement
import TableCatalog.Table

/-!
# From definitions to tables

The types of columns are quoted from the script; all else that is reported of a table
comes from its definition.
-/

namespace TableCatalog

namespace Column

/-- The type of a column as it stands in the script; none if the name has no place in
it or nothing stands there. -/
def declaredType? (script : List Char) (past : Location) : Option String :=
  match past.rest? script with
  | none => none
  | some rest =>
    match DeclaredType.ofText rest with
    | [] => none
    | type => some (String.ofList type)

/-- The comment that options give: the last one, without the quotes of constants. -/
def commentOf (options : List ColumnOption) : Option String :=
  options.foldl (fun comment option =>
    match option with
    | .comment text => some (withoutConstantQuotes text)
    | _ => comment) none

/-- Whether options make a column a key. -/
def keyOf (options : List ColumnOption) : Bool :=
  options.any fun option =>
    match option with
    | .unique primary _ => primary
    | _ => false

/-- A column from its name, the spelling of its type and its options. The spelling is
reported where the script does not show the type. -/
def ofParts (script : List Char) (name : Identifier) (spelling : String)
    (options : List ColumnOption) : Column where
  name := name.normalized
  type := (declaredType? script name.past).getD spelling
  comment := commentOf options
  isPrimaryKey := keyOf options

/-- The column that a script defines. -/
def ofDefinition (script : List Char) (definition : ColumnDefinition) : Column :=
  ofParts script definition.name definition.type.render (definition.options.map (·.option))

end Column

/-- The definition of a table that a statement is, or the failure that it amounts to. -/
def Statement.tableDefinition : Statement → Except Failure TableDefinition
  | createTable definition => .ok definition
  | dropTable _ => .error .removesTable
  | explanation text | other text => .error (.unsupported text)

namespace Table

/-- A table from its name and its columns. Partition columns are reported only for the
databases that declare them. -/
def ofParts (database : Database) (name : ObjectName) (columns : List Column)
    (partitions : Option (List Column)) : Table where
  name := name.normalized
  database := database
  columns := columns
  partitions := if database.hasPartitionColumns then partitions.getD [] else []

/-- The table that a script defines. -/
def ofDefinition (script : List Char) (database : Database) (definition : TableDefinition) :
    Table :=
  ofParts database definition.name (definition.columns.map (Column.ofDefinition script))
    (definition.partitions.map (·.map (Column.ofDefinition script)))

/-- The table that a statement defines, or why it defines none. -/
def ofStatement (script : List Char) (database : Database) (statement : Statement) :
    Except Failure Table :=
  statement.tableDefinition.map (ofDefinition script database)

end Table

end TableCatalog
