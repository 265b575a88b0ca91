import TableCatalog.Text.Blank
import TableCatalog.Text.Casing

/-!
# Databases and their grammars

A database tag says whose SQL a script is written in. Several tags share one
grammar: parsing looks at the grammar alone, and the tag only decides whether
partition columns are part of a table.
-/

namespace TableCatalog

/-- A grammar that scripts are read with. -/
inductive Grammar where
  | mysql
  | postgres
  | sqlServer
  | hive
  | clickHouse
  | sqlite
  | snowflake
  | bigQuery
  | redshift
  | duckDb
  | databricks
  | generic
  deriving DecidableEq, Repr, Inhabited

/-- The database that a script is written for. -/
inductive Database where
  | mysql
  | mariadb
  | oracle
  | postgresql
  | sqlserver
  | hive
  | odps
  | clickhouse
  | sqlite
  | snowflake
  | bigquery
  | redshift
  | duckdb
  | databricks
  | generic
  deriving DecidableEq, Repr, Inhabited

namespace Database

/-- Every tag, in the order in which they are listed. -/
def all : List Database :=
  [.mysql, .mariadb, .oracle, .postgresql, .sqlserver, .hive, .odps, .clickhouse, .sqlite,
    .snowflake, .bigquery, .redshift, .duckdb, .databricks, .generic]

/-- The name under which a tag is written everywhere. -/
def name : Database → String
  | mysql => "mysql"
  | mariadb => "mariadb"
  | oracle => "oracle"
  | postgresql => "postgresql"
  | sqlserver => "sqlserver"
  | hive => "hive"
  | odps => "odps"
  | clickhouse => "clickhouse"
  | sqlite => "sqlite"
  | snowflake => "snowflake"
  | bigquery => "bigquery"
  | redshift => "redshift"
  | duckdb => "duckdb"
  | databricks => "databricks"
  | generic => "generic"

/-- Further spellings that are read as a tag. -/
def aliases : List (String × Database) :=
  [("postgres", postgresql), ("pg", postgresql), ("mssql", sqlserver), ("tsql", sqlserver),
    ("maxcompute", odps)]

/-- The place of a tag in `all`. -/
def position (tag : Database) : Nat :=
  all.findIdx (· == tag)

/-- The tag that a text names, blanks around it and the case of its ASCII letters aside. -/
def ofName? (text : String) : Option Database :=
  let key := String.ofList (Text.asciiLower (Text.trim text.toList))
  ((all.map fun tag => (tag.name, tag)) ++ aliases).lookup key

/-- The grammar that reads the scripts of a database. -/
def grammar : Database → Grammar
  | mysql | mariadb => .mysql
  | postgresql => .postgres
  | sqlserver => .sqlServer
  | hive | odps => .hive
  | clickhouse => .clickHouse
  | sqlite => .sqlite
  | snowflake => .snowflake
  | bigquery => .bigQuery
  | redshift => .redshift
  | duckdb => .duckDb
  | databricks => .databricks
  | oracle | generic => .generic

/-- Whether the partition columns of a table are reported. -/
def hasPartitionColumns : Database → Bool
  | hive | odps | databricks => true
  | _ => false

/-- A tag's own name is read as that tag. -/
theorem ofName?_name (tag : Database) : ofName? tag.name = some tag := by
  cases tag <;> decide +kernel

/-- No two tags have one name. -/
theorem name_injective {first second : Database} (same : first.name = second.name) :
    first = second :=
  Option.some.inj (by rw [← ofName?_name first, same, ofName?_name])

end Database

end TableCatalog
