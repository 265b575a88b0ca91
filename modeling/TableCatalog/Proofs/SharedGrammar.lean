import TableCatalog.Proofs.Accounts

/-!
# Databases that share a grammar

A tag reaches a result in three ways: by the grammar that it chooses, by whether partition
columns are reported, and by being repeated in tables and events. The grammar decides the
second. So under two tags of one grammar a text comes to the same, up to the tag itself, if the
statements have their turns in the same order.
-/

namespace TableCatalog

/-- The grammar decides whether partition columns are reported. -/
theorem Database.hasPartitionColumns_congr {first second : Database}
    (shared : first.grammar = second.grammar) :
    first.hasPartitionColumns = second.hasPartitionColumns := by
  cases first <;> cases second <;> first | rfl | cases shared

/-- A table under another tag. -/
def Table.retag (database : Database) (table : Table) : Table :=
  { table with database := database }

/-- An event under another tag, if it bears one. -/
def Event.retag (database : Database) : Event → Event
  | reading path => reading path
  | tableRead _ name => tableRead database name
  | failed _ failure => failed database failure
  | skipped _ kind failure => skipped database kind failure
  | fallback _ error => fallback database error
  | finished _ count => finished database count

namespace Catalog

namespace Report

/-- A report under another tag. -/
def retag (database : Database) (report : Report) : Report :=
  ⟨report.tables.map (Table.retag database), report.events.map (Event.retag database)⟩

end Report

/-- Reports one after another are under another tag if each of them is. -/
theorem join_retag {α : Type} {database : Database} {report other : α → Report}
    (each : ∀ item, other item = (report item).retag database) (items : List α) :
    join (items.map other) = (join (items.map report)).retag database := by
  simp [join, Report.retag, each, List.map_flatMap, List.flatMap_map]

/-- A failure is told alike for every tag but for the tag. -/
theorem retag_eventsOf (first second : Database) (failure : Failure) :
    (eventsOf first failure).map (Event.retag second) = eventsOf second failure := by
  unfold eventsOf
  split <;> rfl

section Shared

variable {first second : Database} (shared : first.grammar = second.grammar)

include shared

/-- A definition gives the same table under another tag of the grammar, as tags that share a
grammar report partitions alike. -/
theorem ofDefinition_retag (text : List Char) (definition : TableDefinition) :
    Table.ofDefinition text second definition =
      (Table.ofDefinition text first definition).retag second := by
  simp only [Table.ofDefinition, Table.ofParts, Table.retag,
    Database.hasPartitionColumns_congr shared]

theorem ofStatement_retag (text : List Char) (statement : Statement) :
    ofStatement text second statement = (ofStatement text first statement).retag second := by
  cases statement with
  | createTable definition =>
    simp only [ofStatement, Statement.tableDefinition, ofDefinition_retag shared]
    rfl
  | dropTable | explanation | other => rfl

/-- Statements that are shared out alike are told alike. -/
theorem ofStatements_retag (text : List Char) (statements : List Statement) (schedule : Schedule) :
    ofStatements text second statements schedule =
      (ofStatements text first statements schedule).retag second := by
  simp only [ofStatements, schedule.shareOut_map, List.flatMap_map, ofStatement_retag shared text,
    Report.retag, List.map_flatMap]

theorem ofRun_retag (text : List Char) (schedule : Schedule) (run : List PlacedToken) :
    ofRun text second run schedule = (ofRun text first run schedule).retag second := by
  unfold ofRun
  rw [← shared]
  cases Script.ofTokens first.grammar run with
  | ok statements => exact ofStatements_retag shared text statements schedule
  | error error => simp [Report.retag, retag_eventsOf]

theorem byRuns_retag (text : List Char) (schedule : Schedule) :
    byRuns text second schedule = (byRuns text first schedule).retag second := by
  have body := join_retag (ofRun_retag shared text schedule)
    (Token.runs (completeTokens first.grammar text).1)
  have tail : (completeTokens first.grammar text).2.elim [] (fun fault =>
      eventsOf second (.ofFault fault)) =
      ((completeTokens first.grammar text).2.elim [] fun fault =>
        eventsOf first (.ofFault fault)).map (Event.retag second) := by
    cases (completeTokens first.grammar text).2 with
    | none => rfl
    | some fault => exact (retag_eventsOf first second (.ofFault fault)).symm
  unfold byRuns
  rw [← shared]
  simp only [body, tail, Report.retag, List.map_append]

/-- All tables of a script, with the log on them, under another tag. -/
theorem every_retag (script : String) (schedule : Schedule) :
    every script second schedule = (every script first schedule).retag second := by
  cases blank : Text.allBlank script.toList with
  | true => simp [every_of_blank blank, Report.retag]
  | false =>
    cases read : Script.ofText first.grammar script.toList with
    | ok statements =>
      rw [every_of_statements blank read, every_of_statements blank (shared ▸ read),
        ofStatements_retag shared]
      simp [Report.retag, Event.retag]
    | error error =>
      rw [every_of_error blank read, every_of_error blank (shared ▸ read), byRuns_retag shared]
      simp [Report.retag, Event.retag]

/-- Under two tags of one grammar the first statement of a text fails in the same way or gives
the same table up to its tag, and all statements give the same tables and events up to theirs. If
the statements have their turns in another order, no more than the order of the events differs. -/
theorem shared_grammar_interchangeable (script : String) :
    firstTable script second = (firstTable script first).map (Table.retag second) ∧
      ∀ schedule, every script second schedule = (every script first schedule).retag second ∧
        ∀ other,
          (every script second other).tables = ((every script first schedule).retag second).tables ∧
          (every script second other).events.Perm
            ((every script first schedule).retag second).events := by
  constructor
  · unfold firstTable
    rw [← shared]
    split
    · rfl
    · cases Script.ofText first.grammar script.toList with
      | error error => rfl
      | ok statements =>
        cases statements with
        | nil => rfl
        | cons statement statements =>
          cases statement with
          | createTable definition =>
            exact congrArg Except.ok (ofDefinition_retag shared script.toList definition)
          | dropTable | explanation | other => rfl
  · intro schedule
    rw [← every_retag shared]
    refine ⟨rfl, fun other => ⟨?_, events_every_perm script second other schedule⟩⟩
    rw [tables_every, tables_every]

end Shared

/-- The three pairs of tags, over a table with partition columns before a malformed statement. -/
theorem shared_grammar_interchangeable_pairs :
    let script := "CREATE TABLE a (b INT) PARTITIONED BY (c INT);d"
    let alike (first second : Database) :=
      firstTable script second = (firstTable script first).map (Table.retag second) ∧
        ∀ schedule, every script second schedule = (every script first schedule).retag second ∧
          ∀ other,
            (every script second other).tables =
              ((every script first schedule).retag second).tables ∧
            (every script second other).events.Perm
              ((every script first schedule).retag second).events
    (Database.mysql.grammar = Database.mariadb.grammar ∧ alike .mysql .mariadb) ∧
      (Database.hive.grammar = Database.odps.grammar ∧ alike .hive .odps) ∧
      Database.oracle.grammar = Database.generic.grammar ∧ alike .oracle .generic := by
  intro script alike
  have mysql : Database.mysql.grammar = Database.mariadb.grammar := rfl
  have hive : Database.hive.grammar = Database.odps.grammar := rfl
  have generic : Database.oracle.grammar = Database.generic.grammar := rfl
  exact ⟨⟨mysql, shared_grammar_interchangeable mysql script⟩,
    ⟨hive, shared_grammar_interchangeable hive script⟩,
    generic, shared_grammar_interchangeable generic script⟩

end Catalog

end TableCatalog
