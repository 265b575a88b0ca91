import TableCatalog.TableDefinition
import TableCatalog.Expr

/-!
# Clauses of table definitions

What a definition says of a table besides its columns. A clause is the text that it is
shown as, with a blank before it, and empty if it is missing. Whatever the order in
which clauses were read, they are shown in a fixed one.
-/

namespace TableCatalog.TableDefinition

/-- How and where the rows of a table are stored. -/
structure Storage where
  rows : String := ""
  /-- The classes that read and write a file, in place of its format. -/
  classes : String := ""
  file : String := ""
  serializer : String := ""
  location : String := ""

/-- The storage of a table as it is shown. An external table names the format of its
file last. -/
def Storage.render (storage : Storage) (external : Bool) : String :=
  storage.rows ++ storage.classes ++
    (if external then storage.serializer ++ storage.file
      else storage.file ++ storage.serializer) ++
    storage.location

/-- The clauses of a definition. -/
structure Clauses where
  /-- A comment that stands right after the columns. -/
  columnComment : String := ""
  withoutRowid : String := ""
  like : String := ""
  clone : String := ""
  partitions : String := ""
  buckets : String := ""
  storage : Storage := {}
  properties : String := ""
  options : String := ""
  engine : String := ""
  comment : String := ""
  counter : String := ""
  primaryKey : String := ""
  order : String := ""
  partitionKey : String := ""
  clusterKey : String := ""
  settings : String := ""
  grants : String := ""
  evolution : String := ""
  tracking : String := ""
  retention : String := ""
  extension : String := ""
  ddlCollation : String := ""
  aggregation : String := ""
  access : String := ""
  tags : String := ""
  charset : String := ""
  collation : String := ""
  commit : String := ""
  strict : String := ""
  query : String := ""

namespace Clauses

/-- The clauses as they are shown after the columns. -/
def render (clauses : Clauses) (external : Bool) : String :=
  String.join [
    clauses.columnComment, clauses.withoutRowid, clauses.like, clauses.clone,
    clauses.partitions, clauses.buckets, clauses.storage.render external, clauses.properties,
    clauses.options, clauses.engine, clauses.comment, clauses.counter, clauses.primaryKey,
    clauses.order, clauses.partitionKey, clauses.clusterKey, clauses.settings, clauses.grants,
    clauses.evolution, clauses.tracking, clauses.retention, clauses.extension,
    clauses.ddlCollation, clauses.aggregation, clauses.access, clauses.tags, clauses.charset,
    clauses.collation, clauses.commit, clauses.strict, clauses.query]

/-- Whether a table may be defined by its clauses, without columns. -/
def defineTable (clauses : Clauses) : Bool :=
  !(clauses.query.isEmpty && clauses.like.isEmpty && clauses.clone.isEmpty)

end Clauses

/-- The columns and the constraints in the parentheses of a table. -/
structure Elements where
  columns : List ColumnDefinition
  constraints : List String

/-- Elements as they are shown; parentheses stand for none unless clauses define the
table. -/
def Elements.render (elements : Elements) (needed : Bool) : String :=
  if elements.columns.isEmpty && elements.constraints.isEmpty then
    if needed then " ()" else ""
  else
    " (" ++ commaList (elements.columns.map ColumnDefinition.render ++ elements.constraints) ++ ")"

/-- A definition from what stands before its columns, the columns and the clauses. -/
def ofParts (head : String) (name : ObjectName) (elements : Elements)
    (partitions : Option (List ColumnDefinition)) (clauses : Clauses) (external : Bool) :
    TableDefinition :=
  ⟨name, elements.columns, partitions,
    head ++ elements.render (!clauses.defineTable) ++ clauses.render external⟩

end TableCatalog.TableDefinition
