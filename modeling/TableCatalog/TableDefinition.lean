import TableCatalog.ColumnDefinition

/-!
# Table definitions

What a `CREATE TABLE` statement says of a table, as far as it is reported.
-/

namespace TableCatalog

/-- The definition of a table: its name, its columns in order, and the partition
columns if it has a list of them. The text is the canonical spelling of the statement. -/
structure TableDefinition where
  name : ObjectName
  columns : List ColumnDefinition
  partitions : Option (List ColumnDefinition)
  text : String

/-- A definition with the places of its columns put elsewhere. -/
def TableDefinition.relocate (put : Location → Location) (definition : TableDefinition) :
    TableDefinition :=
  { definition with
    columns := definition.columns.map (·.relocate put)
    partitions := definition.partitions.map (·.map (·.relocate put)) }

end TableCatalog
