import TableCatalog.Database
import TableCatalog.Document

/-!
# Tables

What is reported of a table: its name, the database it was written for, its columns
and its partition columns, in the order of their declaration. Two layouts show a
table, one for people and one for programs.
-/

namespace TableCatalog

/-- What is reported of a column. The key flag tells a key that is part of the column's
own declaration. -/
structure Column where
  name : String
  type : String
  comment : Option String
  isPrimaryKey : Bool
  deriving DecidableEq, Repr, Inhabited

/-- What is reported of a table. -/
structure Table where
  name : String
  database : Database
  columns : List Column
  partitions : List Column
  deriving DecidableEq, Repr, Inhabited

namespace Column

/-- A column in one line. A missing comment is shown as the word for it. -/
def render (column : Column) : String :=
  "\x7b" ++ column.name ++ ", " ++ column.type ++ (if column.isPrimaryKey then " [PK]" else "") ++
    ", comment='" ++ column.comment.getD "null" ++ "'\x7d"

/-- Columns in one line. -/
def renderAll (columns : List Column) : String :=
  "[" ++ ", ".intercalate (columns.map render) ++ "]"

/-- A column as a document. -/
def toDocument (column : Column) : Document :=
  .record [
    .mk "name" (.text column.name),
    .mk "type" (.text column.type),
    .mk "comment" (column.comment.elim .null .text),
    .mk "is_primary_key" (.bool column.isPrimaryKey)]

end Column

namespace Table

/-- A table without columns. -/
def empty (name : String) (database : Database) : Table :=
  ⟨name, database, [], []⟩

/-- The first column of a name. -/
def column? (table : Table) (name : String) : Option Column :=
  table.columns.find? (·.name == name)

/-- The names of the columns that are keys by their own declaration. -/
def primaryKeys (table : Table) : List String :=
  (table.columns.filter (·.isPrimaryKey)).map (·.name)

/-- A table with one column more. -/
def addColumn (table : Table) (column : Column) : Table :=
  { table with columns := table.columns ++ [column] }

/-- A table with one partition column more. -/
def addPartition (table : Table) (column : Column) : Table :=
  { table with partitions := table.partitions ++ [column] }

/-- A table in three lines. -/
def render (table : Table) : String :=
  "TableMeta [" ++ table.database.name ++ "] " ++ table.name ++ "\n  Columns: " ++
    Column.renderAll table.columns ++ "\n  Partitions: " ++ Column.renderAll table.partitions

/-- A table as a document. -/
def toDocument (table : Table) : Document :=
  .record [
    .mk "table_name" (.text table.name),
    .mk "db_type" (.text table.database.name),
    .mk "columns" (.list (table.columns.map Column.toDocument)),
    .mk "partition_columns" (.list (table.partitions.map Column.toDocument))]

end Table

end TableCatalog
