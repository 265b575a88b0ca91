import Mathlib.Data.List.Basic
import TableCatalog.Catalog

/-!
# Tables and the texts they are quoted from

Of a table only the types of its columns depend on the text that its definition was read
from. So the tables of two texts with the same definitions are the same exactly if the types
are.
-/

namespace TableCatalog

/-- The table that a statement defines, if it is the definition of one. -/
def Statement.definition? : Statement → Option TableDefinition
  | .createTable definition => some definition
  | _ => none

theorem Statement.definition?_eq_some {statement : Statement} {definition : TableDefinition} :
    statement.definition? = some definition ↔ statement = .createTable definition := by
  cases statement <;> simp [definition?]

namespace Column

/-- Only the type of a column depends on the text. -/
theorem ofDefinition_eq_iff {first second : List Char} {definition : ColumnDefinition} :
    ofDefinition first definition = ofDefinition second definition ↔
      (ofDefinition first definition).type = (ofDefinition second definition).type := by
  simp [ofDefinition, ofParts]

/-- A place matters to a column only by the text behind it. -/
theorem ofDefinition_relocate {first second : List Char} {put put' : Location → Location}
    (same : ∀ place, (put place).rest? first = (put' place).rest? second)
    (definition : ColumnDefinition) :
    ofDefinition first (definition.relocate put) =
      ofDefinition second (definition.relocate put') := by
  have behind := same definition.name.past
  simp only [ofDefinition, ofParts, ColumnDefinition.relocate, Identifier.relocate, declaredType?,
    behind]
  rfl

end Column

namespace Table

/-- The columns of a definition that a table reports: partition columns only for the
databases that declare them. -/
def reported (database : Database) (definition : TableDefinition) : List ColumnDefinition :=
  definition.columns ++
    if database.hasPartitionColumns then definition.partitions.getD [] else []

/-- Two texts show the same types of a table's columns. -/
def SameTypes (database : Database) (first second : List Char) (definition : TableDefinition) :
    Prop :=
  ∀ column ∈ reported database definition,
    (Column.ofDefinition first column).type = (Column.ofDefinition second column).type

instance (database : Database) (first second : List Char) (definition : TableDefinition) :
    Decidable (SameTypes database first second definition) :=
  inferInstanceAs (Decidable (∀ column ∈ reported database definition, _))

/-- Two texts give the same table exactly if they show the same types. -/
theorem ofDefinition_eq_iff {database : Database} {first second : List Char}
    {definition : TableDefinition} :
    ofDefinition first database definition = ofDefinition second database definition ↔
      SameTypes database first second definition := by
  have columnwise (columns : List ColumnDefinition) :
      columns.map (Column.ofDefinition first) = columns.map (Column.ofDefinition second) ↔
        ∀ column ∈ columns,
          (Column.ofDefinition first column).type = (Column.ofDefinition second column).type := by
    simp only [List.map_inj_left, Column.ofDefinition_eq_iff]
  unfold SameTypes reported ofDefinition ofParts
  cases database.hasPartitionColumns with
  | false => simp [columnwise]
  | true =>
    cases definition.partitions with
    | none => simp [columnwise]
    | some partitions => simp [columnwise, or_imp, forall_and]

/-- Places matter to a table only by the texts behind them. -/
theorem ofDefinition_relocate {first second : List Char} {put put' : Location → Location}
    (same : ∀ place, (put place).rest? first = (put' place).rest? second) (database : Database)
    (definition : TableDefinition) :
    ofDefinition first database (definition.relocate put) =
      ofDefinition second database (definition.relocate put') := by
  have columnwise (columns : List ColumnDefinition) :
      (columns.map (·.relocate put)).map (Column.ofDefinition first) =
        (columns.map (·.relocate put')).map (Column.ofDefinition second) := by
    simp only [List.map_map, List.map_inj_left, Function.comp_apply]
    exact fun column _ => Column.ofDefinition_relocate same column
  unfold ofDefinition TableDefinition.relocate
  cases definition.partitions with
  | none => simp [columnwise]
  | some partitions => simp [columnwise]

end Table

namespace Catalog

section Every

variable {script : String} {database : Database}

/-- A script of blanks has no tables, and nothing is told of it. -/
theorem every_of_blank (blank : Text.allBlank script.toList = true) (schedule : Schedule) :
    every script database schedule = ⟨[], []⟩ := by
  simp only [every, blank, if_true]

/-- Where statements have been read, the report on the script is the one on them, up to the final
count. -/
theorem every_of_statements {statements : List Statement}
    (visible : Text.allBlank script.toList = false)
    (read : Script.ofText database.grammar script.toList = .ok statements) (schedule : Schedule) :
    every script database schedule =
      let body := ofStatements script.toList database statements schedule
      ⟨body.tables, body.events ++ [.finished database body.tables.length]⟩ := by
  simp only [every, visible, read, Bool.false_eq_true, if_false]

/-- Where no statements can be read, the report on all of them begins with the announcement of
that. -/
theorem every_of_error {error : ParseError} (visible : Text.allBlank script.toList = false)
    (unread : Script.ofText database.grammar script.toList = .error error) (schedule : Schedule) :
    every script database schedule =
      let body := byRuns script.toList database schedule
      ⟨body.tables, .fallback database error :: body.events ++
        [.finished database body.tables.length]⟩ := by
  simp only [every, visible, unread, Bool.false_eq_true, if_false]

end Every

/-- The first table of a script is the one that its first statement defines. -/
theorem exists_definition_of_firstTable {script : String} {database : Database}
    {table : Table}
    (found : firstTable script database = .ok table) :
    ∃ definition others,
      Script.ofText database.grammar script.toList = .ok (.createTable definition :: others) ∧
        table = Table.ofDefinition script.toList database definition := by
  unfold firstTable at found
  split at found
  · cases found
  · split at found
    · cases found
    · cases found
    · rename_i statement others read
      cases statement with
      | createTable definition => exact ⟨definition, others, read, (Except.ok.inj found).symm⟩
      | dropTable | explanation | other => cases found

/-- The tables that statements define. -/
def definitions (statements : List Statement) : List TableDefinition :=
  statements.filterMap Statement.definition?

/-- A statement gives one table if it defines one. -/
theorem tables_ofStatement (script : List Char) (database : Database) (statement : Statement) :
    (ofStatement script database statement).tables =
      (statement.definition?.map (Table.ofDefinition script database)).toList := by
  cases statement <;> rfl

/-- The tables keep the order of the statements, whatever the schedule. -/
theorem tables_ofStatements (script : List Char) (database : Database)
    (statements : List Statement) (schedule : Schedule) :
    (ofStatements script database statements schedule).tables =
      (definitions statements).map (Table.ofDefinition script database) := by
  rw [definitions, List.map_filterMap, List.filterMap_eq_flatMap_toList]
  simp only [ofStatements, List.flatMap_map, tables_ofStatement]

/-- The tables that a run of tokens defines. -/
def runDefinitions (grammar : Grammar) (run : List PlacedToken) : List TableDefinition :=
  match Script.ofTokens grammar run with
  | .ok statements => definitions statements
  | .error _ => []

/-- A run gives the tables of its definitions, in order. -/
theorem tables_ofRun (script : List Char) (database : Database) (run : List PlacedToken)
    (schedule : Schedule) :
    (ofRun script database run schedule).tables =
      (runDefinitions database.grammar run).map (Table.ofDefinition script database) := by
  unfold ofRun runDefinitions
  cases Script.ofTokens database.grammar run with
  | ok statements => exact tables_ofStatements script database statements schedule
  | error error => rfl

/-- The tables that the runs between terminators define, each read for itself. -/
def separateDefinitions (grammar : Grammar) (tokens : List PlacedToken) : List TableDefinition :=
  (Token.runs tokens).flatMap (runDefinitions grammar)

/-- A script that is read run by run gives the tables that its runs define. -/
theorem tables_byRuns (script : List Char) (database : Database) (schedule : Schedule) :
    (byRuns script database schedule).tables =
      (separateDefinitions database.grammar (completeTokens database.grammar script).1).map
        (Table.ofDefinition script database) := by
  simp only [byRuns, join, separateDefinitions, List.map_flatMap, List.flatMap_map, tables_ofRun]

/-- The tables that a text defines: those of its statements or, if it cannot be read as a whole,
those of its runs. -/
def tablesOf (text : List Char) (database : Database) : List Table :=
  if Text.allBlank text then []
  else
    (match Script.ofText database.grammar text with
      | .ok statements => definitions statements
      | .error _ => separateDefinitions database.grammar
          (completeTokens database.grammar text).1).map (Table.ofDefinition text database)

/-- The tables of a script are those that its text defines, whatever the schedule. -/
theorem tables_every (script : String) (database : Database) (schedule : Schedule) :
    (every script database schedule).tables = tablesOf script.toList database := by
  unfold tablesOf
  cases blank : Text.allBlank script.toList with
  | true => rw [every_of_blank blank, if_pos rfl]
  | false =>
    cases read : Script.ofText database.grammar script.toList with
    | ok statements =>
      rw [every_of_statements blank read]
      exact tables_ofStatements script.toList database statements schedule
    | error error =>
      rw [every_of_error blank read]
      exact tables_byRuns script.toList database schedule

/-- The tables do not depend on the order in which statements are told. -/
theorem tables_ofScript (script : String) (database : Database) (all : Bool)
    (first second : Schedule) :
    (ofScript script database all first).tables = (ofScript script database all second).tables := by
  cases all with
  | true =>
    exact (tables_every script database first).trans (tables_every script database second).symm
  | false => rfl

end Catalog

end TableCatalog
