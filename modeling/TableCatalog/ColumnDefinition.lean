import TableCatalog.DataType
import TableCatalog.Expr

/-!
# Column definitions

What a statement says of a column: its name, its type and its options. Only comments
and keys are told apart among the options; all others are known by their spelling.
-/

namespace TableCatalog

/-- An option of a column. -/
inductive ColumnOption where
  | comment (text : String)
  /-- `PRIMARY KEY` or, if not primary, `UNIQUE`. -/
  | unique (primary : Bool) (characteristics : String)
  | notNull
  | null
  | default (expr : String)
  /-- Any other option by its canonical spelling. -/
  | further (text : String)
  deriving DecidableEq, Repr

/-- An option as it is written. -/
def ColumnOption.render : ColumnOption → String
  | comment text => "COMMENT " ++ quoteText text
  | unique primary characteristics =>
    (if primary then "PRIMARY KEY" else "UNIQUE") ++ characteristics
  | notNull => "NOT NULL"
  | null => "NULL"
  | default expr => "DEFAULT " ++ expr
  | further text => text

/-- An option with the name that it is given, if any. -/
structure NamedOption where
  name : Option Identifier
  option : ColumnOption

/-- An option as it is written, after its name. -/
def NamedOption.render (named : NamedOption) : String :=
  (named.name.elim "" fun name => "CONSTRAINT " ++ name.render ++ " ") ++ named.option.render

/-- The definition of a column. -/
structure ColumnDefinition where
  name : Identifier
  type : DataType
  collation : Option ObjectName
  options : List NamedOption

/-- A column with the place of its name put elsewhere. -/
def ColumnDefinition.relocate (put : Location → Location) (column : ColumnDefinition) :
    ColumnDefinition :=
  { column with name := column.name.relocate put }

/-- A definition as it is written. -/
def ColumnDefinition.render (column : ColumnDefinition) : String :=
  let type := column.type.render
  column.name.render ++ (if type.isEmpty then "" else " " ++ type) ++
    (column.collation.elim "" fun name => " COLLATE " ++ name.render) ++
    String.join (column.options.map fun option => " " ++ option.render)

end TableCatalog
