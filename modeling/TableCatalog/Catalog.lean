import TableCatalog.Event
import TableCatalog.Schedule
import TableCatalog.Script
import TableCatalog.Table.Extraction
import TableCatalog.Token.Run

/-!
# The tables of a script

A script is read either for its first statement alone or for all of them. In the second
case a malformed statement costs no other one: if the script cannot be read as a whole,
each run of tokens between terminators is read for itself, and of a script that does
not even scan, the statements are read that were complete before the fault.

Many statements are shared out among threads. Their tables are collected in the order of the
statements, but each thread tells of a statement when it comes to it, so that a schedule decides
on the order of the events.
-/

namespace TableCatalog.Catalog

/-- The tables of a script and what happened on the way to them. -/
structure Report where
  tables : List Table
  events : List Event

/-- The table that the first statement of a script defines, or why it defines none. Later
statements have to be well formed too. -/
def firstTable (script : String) (database : Database) : Except Failure Table :=
  if script.isEmpty then .error .emptyText
  else
    match Script.ofText database.grammar script.toList with
    | .error error => .error (.ofError error)
    | .ok [] => .error .noStatement
    | .ok (statement :: _) => Table.ofStatement script.toList database statement

/-- The events that a failure gives rise to. -/
def eventsOf (database : Database) (failure : Failure) : List Event :=
  if failure.isReported then [.failed database failure] else []

/-- A report on the first statement of a script. -/
def single (script : String) (database : Database) : Report :=
  match firstTable script database with
  | .ok table => ⟨[table], [.tableRead database table.name]⟩
  | .error failure => ⟨[], eventsOf database failure⟩

/-- A report on one statement that has been read. -/
def ofStatement (script : List Char) (database : Database) (statement : Statement) : Report :=
  match statement.tableDefinition with
  | .ok definition =>
    let table := Table.ofDefinition script database definition
    ⟨[table], [.tableRead database table.name]⟩
  | .error failure => ⟨[], [.skipped database statement.kind failure]⟩

/-- Reports one after another. -/
def join (reports : List Report) : Report :=
  ⟨reports.flatMap (·.tables), reports.flatMap (·.events)⟩

/-- A report on statements that have been read. The tables keep the order of the statements; the
events come in the order in which the statements have their turns. -/
def ofStatements (script : List Char) (database : Database) (statements : List Statement)
    (schedule : Schedule := .inOrder) : Report :=
  let reports := statements.map (ofStatement script database)
  ⟨reports.flatMap (·.tables), (schedule.shareOut reports).flatMap (·.events)⟩

/-- A report on a run of tokens. -/
def ofRun (script : List Char) (database : Database) (run : List PlacedToken)
    (schedule : Schedule := .inOrder) : Report :=
  match Script.ofTokens database.grammar run with
  | .ok statements => ofStatements script database statements schedule
  | .error error => ⟨[], eventsOf database (.ofError error)⟩

/-- The tokens before the last terminator; none without a terminator. -/
def beforeLastTerminator (tokens : List PlacedToken) : List PlacedToken :=
  ((tokens.reverse.dropWhile (·.token != .semicolon)).drop 1).reverse

/-- The tokens of a script, or of those of its statements that were complete before the
fault that ends it. -/
def completeTokens (grammar : Grammar) (script : List Char) :
    List PlacedToken × Option LexicalFault :=
  match Token.scan grammar script with
  | .ok tokens => (tokens, none)
  | .error fault =>
    match fault.place.before? script with
    | none => ([], some fault)
    | some before =>
      match Token.scan grammar before with
      | .ok tokens => (beforeLastTerminator tokens, some fault)
      | .error _ => ([], some fault)

/-- A report on a script that is read statement by statement. -/
def byRuns (script : List Char) (database : Database) (schedule : Schedule := .inOrder) :
    Report :=
  let (tokens, fault) := completeTokens database.grammar script
  let body := join ((Token.runs tokens).map fun run => ofRun script database run schedule)
  let tail := fault.elim [] fun fault => eventsOf database (.ofFault fault)
  ⟨body.tables, body.events ++ tail⟩

/-- A report on all statements of a script. Of a blank script nothing is told. -/
def every (script : String) (database : Database) (schedule : Schedule := .inOrder) : Report :=
  let text := script.toList
  if Text.allBlank text then ⟨[], []⟩
  else
    let report :=
      match Script.ofText database.grammar text with
      | .ok statements => ofStatements text database statements schedule
      | .error error =>
        let report := byRuns text database schedule
        ⟨report.tables, .fallback database error :: report.events⟩
    ⟨report.tables, report.events ++ [.finished database report.tables.length]⟩

/-- A report on the first statement or on all statements of a script. -/
def ofScript (script : String) (database : Database) (all : Bool)
    (schedule : Schedule := .inOrder) : Report :=
  if all then every script database schedule else single script database

end TableCatalog.Catalog
