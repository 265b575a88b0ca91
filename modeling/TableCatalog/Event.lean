import TableCatalog.Failure
import TableCatalog.Statement
import TableCatalog.Table

/-!
# Events

What is told of the progress of the work, as data. A listener shows an event by its
level, its text and its fields.
-/

namespace TableCatalog

/-- How much an event matters. -/
inductive Level where
  | debug
  | info
  | warn
  deriving DecidableEq, Repr

/-- The name of a level. -/
def Level.name : Level → String
  | debug => "DEBUG"
  | info => "INFO"
  | warn => "WARN"

/-- Something that happened on the way from a script to its tables. -/
inductive Event where
  /-- A file is about to be read. -/
  | reading (path : String)
  /-- A table was made of a statement. -/
  | tableRead (database : Database) (name : String)
  /-- A statement could not be read, or is none of a table. -/
  | failed (database : Database) (failure : Failure)
  /-- A statement that was read is passed over. -/
  | skipped (database : Database) (kind : StatementKind) (failure : Failure)
  /-- A script is read statement by statement, as it cannot be read as a whole. -/
  | fallback (database : Database) (error : ParseError)
  /-- A script has been read. -/
  | finished (database : Database) (count : Nat)
  deriving DecidableEq, Repr

namespace Event

/-- How much an event matters. -/
def level : Event → Level
  | reading _ | tableRead .. | fallback .. => .debug
  | finished .. => .info
  | failed .. | skipped .. => .warn

/-- The text of an event. -/
def message : Event → String
  | reading path => "Reading DDL file: " ++ path
  | tableRead database name => s!"Parsed table [{database.name}]: " ++ name
  | failed database failure | skipped database _ failure =>
    s!"Failed to parse DDL [{database.name}]: " ++ failure.message
  | fallback database error =>
    s!"Script does not parse as a whole [{database.name}], parsing statements one by one: " ++
      error.message
  | finished database count => s!"Parsed {count} table(s) from {database.name} script"

/-- The fields of an event, which only warnings have. -/
def fields : Event → List (String × String)
  | failed database failure => [("db_type", database.name), ("error", failure.message)]
  | skipped database kind failure =>
    [("db_type", database.name), ("kind", kind.label), ("error", failure.message)]
  | _ => []

end Event

end TableCatalog
