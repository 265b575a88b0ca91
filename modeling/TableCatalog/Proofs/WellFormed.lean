import Mathlib.Data.List.Induction
import TableCatalog.CommandLine
import TableCatalog.Proofs.Tables

/-!
# Well-formed tables

Whatever way a script is read in, each table that comes of it was made of the definition in one of
its statements: its columns are those of the definition, in their order, and neither its names nor
its comments show how they were quoted.
-/

namespace TableCatalog

/-- A text without the marks that quote identifiers. -/
def Unquoted (text : String) : Prop :=
  '\x60' ∉ text.toList ∧ '"' ∉ text.toList

/-- What is left of a text without its quotes has none around it. -/
theorem unquoted_withoutIdentifierQuotes (text : String) :
    Unquoted (withoutIdentifierQuotes text) := by
  simp [Unquoted, withoutIdentifierQuotes]

/-- Names are reported without quotes, however they were quoted. -/
theorem Identifier.unquoted_normalized (name : Identifier) : Unquoted name.normalized :=
  unquoted_withoutIdentifierQuotes name.render

/-- A normalized name stands in no quotes. -/
theorem ObjectName.unquoted_normalized (name : ObjectName) : Unquoted name.normalized :=
  unquoted_withoutIdentifierQuotes name.render

namespace Column

/-- A column whose name and comment show no quotes. -/
structure Unquoted (column : Column) : Prop where
  name : TableCatalog.Unquoted column.name
  comment : ∀ comment ∈ column.comment, '\'' ∉ comment.toList

/-- No comment shows quotes, as each option that gives one takes them away. -/
theorem unquoted_commentOf (options : List ColumnOption) :
    ∀ comment ∈ commentOf options, '\'' ∉ comment.toList := by
  unfold commentOf
  induction options using List.reverseRecOn with
  | nil => simp
  | append_singleton options option ih =>
    rw [List.foldl_append, List.foldl_cons, List.foldl_nil]
    split
    · simp [withoutConstantQuotes]
    · exact ih

theorem unquoted_ofDefinition (text : List Char) (definition : ColumnDefinition) :
    (ofDefinition text definition).Unquoted where
  name := definition.name.unquoted_normalized
  comment := unquoted_commentOf _

end Column

/-- The tags that report partition columns. -/
theorem Database.hasPartitionColumns_iff (database : Database) :
    database.hasPartitionColumns = true ↔ database ∈ [.hive, .odps, .databricks] := by
  cases database <;> decide

/-- What a table owes to the tag that it was asked for under and to the definition that it was
made of: the columns are the defined ones, one by one, and the partition columns too for the tags
that report them. -/
structure Table.WellFormed (text : List Char) (database : Database) (definition : TableDefinition)
    (table : Table) : Prop where
  tag : table.database = database
  name : table.name = definition.name.normalized
  unquotedName : Unquoted table.name
  unquoted : ∀ column ∈ table.columns ++ table.partitions, column.Unquoted
  columns : table.columns = definition.columns.map (Column.ofDefinition text)
  partitions : database ∈ [.hive, .odps, .databricks] →
    table.partitions = (definition.partitions.getD []).map (Column.ofDefinition text)
  unpartitioned : database ∉ [.hive, .odps, .databricks] → table.partitions = []

/-- The table that is made of a definition is well formed. -/
theorem Table.wellFormed_ofDefinition (text : List Char) (database : Database)
    (definition : TableDefinition) :
    (ofDefinition text database definition).WellFormed text database definition := by
  have partitions : (ofDefinition text database definition).partitions =
      if database.hasPartitionColumns then
        (definition.partitions.getD []).map (Column.ofDefinition text) else [] := by
    cases shape : definition.partitions <;> simp [ofDefinition, ofParts, shape]
  constructor
  case tag | name | columns => rfl
  case unquotedName => exact ObjectName.unquoted_normalized definition.name
  case partitions =>
    intro reports
    rw [partitions, if_pos ((Database.hasPartitionColumns_iff database).2 reports)]
  case unpartitioned =>
    intro silent
    rw [partitions, if_neg fun has => silent ((Database.hasPartitionColumns_iff database).1 has)]
  case unquoted =>
    intro column member
    rcases List.mem_append.1 member with inside | inside
    · obtain ⟨defined, -, rfl⟩ := List.mem_map.1 inside
      exact Column.unquoted_ofDefinition text defined
    · rw [partitions] at inside
      split at inside
      · obtain ⟨defined, -, rfl⟩ := List.mem_map.1 inside
        exact Column.unquoted_ofDefinition text defined
      · simp at inside

namespace Catalog

/-- The definitions of a text: those among its statements or, if it cannot be read as a whole,
among the statements of its runs. -/
inductive Defines (grammar : Grammar) (text : List Char) (definition : TableDefinition) : Prop where
  | whole {statements : List Statement} (read : Script.ofText grammar text = .ok statements)
      (member : .createTable definition ∈ statements)
  | run {error : ParseError} {run : List PlacedToken} {statements : List Statement}
      (rejected : Script.ofText grammar text = .error error)
      (divided : run ∈ Token.runs (completeTokens grammar text).1)
      (read : Script.ofTokens grammar run = .ok statements)
      (member : .createTable definition ∈ statements)

/-- A table that was made of a definition of the text. -/
def IsMade (text : List Char) (database : Database) (table : Table) : Prop :=
  ∃ definition, Defines database.grammar text definition ∧
    table.WellFormed text database definition

/-- The definitions among statements are those of the tables they create. -/
theorem mem_definitions {statements : List Statement} {definition : TableDefinition} :
    definition ∈ definitions statements ↔ .createTable definition ∈ statements := by
  simp only [definitions, List.mem_filterMap]
  constructor
  · rintro ⟨statement, member, found⟩
    cases statement with
    | createTable other => exact Option.some.inj found ▸ member
    | dropTable | explanation | other => cases found
  · exact fun member => ⟨_, member, rfl⟩

variable {script : String} {database : Database} {table : Table}

/-- The first table of a script is well formed for the definition that the script begins with. -/
theorem wellFormed_firstTable (found : firstTable script database = .ok table) :
    ∃ definition statements,
      Script.ofText database.grammar script.toList = .ok (.createTable definition :: statements) ∧
        table.WellFormed script.toList database definition := by
  obtain ⟨definition, statements, read, rfl⟩ := exists_definition_of_firstTable found
  exact ⟨definition, statements, read, Table.wellFormed_ofDefinition _ database definition⟩

theorem isMade_single (member : table ∈ (single script database).tables) :
    IsMade script.toList database table := by
  unfold single at member
  split at member
  case h_1 found =>
    obtain rfl := List.mem_singleton.1 member
    obtain ⟨definition, statements, read, wellFormed⟩ := wellFormed_firstTable found
    exact ⟨definition, .whole read List.mem_cons_self, wellFormed⟩
  case h_2 => cases member

/-- Each table of a script is made from a definition in it, in whatever order the runs are told. -/
theorem isMade_every {schedule : Schedule}
    (member : table ∈ (every script database schedule).tables) :
    IsMade script.toList database table := by
  cases blank : Text.allBlank script.toList with
  | true => simp [every_of_blank blank] at member
  | false =>
    cases read : Script.ofText database.grammar script.toList with
    | ok statements =>
      rw [every_of_statements blank read, tables_ofStatements] at member
      obtain ⟨definition, inside, rfl⟩ := List.mem_map.1 member
      exact ⟨definition, .whole read (mem_definitions.1 inside),
        Table.wellFormed_ofDefinition _ database definition⟩
    | error error =>
      rw [every_of_error blank read, tables_byRuns] at member
      obtain ⟨definition, inside, rfl⟩ := List.mem_map.1 member
      obtain ⟨run, divided, inside⟩ := List.mem_flatMap.1 inside
      unfold runDefinitions at inside
      split at inside
      case h_1 statements alone =>
        exact ⟨definition, .run read divided alone (mem_definitions.1 inside),
          Table.wellFormed_ofDefinition _ database definition⟩
      case h_2 => cases inside

/-- The same however many tables are asked for. -/
theorem isMade_ofScript {all : Bool} {schedule : Schedule}
    (member : table ∈ (ofScript script database all schedule).tables) :
    IsMade script.toList database table := by
  unfold ofScript at member
  split at member
  · exact isMade_every member
  · exact isMade_single member

/-- Every table was made of a definition of its text and is well formed: the one of the first
statement, those of all statements, and those of the script that a source gives. -/
theorem tables_wellFormed (script : String) (database : Database) :
    (∀ table, firstTable script database = .ok table →
        ∃ definition statements,
          Script.ofText database.grammar script.toList =
              .ok (.createTable definition :: statements) ∧
            table.WellFormed script.toList database definition) ∧
      (∀ table ∈ (single script database).tables, IsMade script.toList database table) ∧
      (∀ schedule, ∀ table ∈ (every script database schedule).tables,
        IsMade script.toList database table) ∧
      ∀ source content all schedule tables, Source.script source content = .ok script →
        (CommandLine.extract source database all content schedule).1 = .ok tables →
        ∀ table ∈ tables, IsMade script.toList database table := by
  refine ⟨fun _ => wellFormed_firstTable, fun _ => isMade_single,
    fun _ _ => isMade_every, ?_⟩
  intro source content all schedule tables given extracted table member
  simp only [CommandLine.extract, given] at extracted
  obtain rfl := Except.ok.inj extracted
  exact isMade_ofScript member

/-- A table with quotes in its names and in a comment, read in each way, and behind a malformed
statement too. -/
theorem tables_wellFormed_quoted :
    let script := "CREATE TABLE `a\"` (b INT COMMENT 'c''d') PARTITIONED BY (e INT)"
    let table : Table := ⟨"a", .hive, [⟨"b", "INT", some "cd", false⟩], [⟨"e", "INT", none, false⟩]⟩
    let content := .ok (script.toList.map fun c => c.toUInt8)
    firstTable script .hive = .ok table ∧
      (∃ definition statements,
        Script.ofText Database.hive.grammar script.toList =
            .ok (.createTable definition :: statements) ∧
          table.WellFormed script.toList .hive definition) ∧
      (table ∈ (single script .hive).tables ∧ IsMade script.toList .hive table) ∧
      (table ∈ (every ("f;" ++ script) .hive).tables ∧
        IsMade ("f;" ++ script).toList .hive table) ∧
      Source.script .standardInput content = .ok script ∧
      (CommandLine.extract .standardInput .hive true content).1 = .ok [table] ∧
      IsMade script.toList .hive table := by
  intro script table content
  have first : firstTable script .hive = .ok table := by decide +kernel
  have alone : table ∈ (single script .hive).tables := by decide +kernel
  have behind : table ∈ (every ("f;" ++ script) .hive).tables := by decide +kernel
  have given : Source.script .standardInput content = .ok script := by decide +kernel
  have extracted : (CommandLine.extract .standardInput .hive true content).1 = .ok [table] := by
    decide +kernel
  exact ⟨first, (tables_wellFormed script .hive).1 table first,
    ⟨alone, (tables_wellFormed script .hive).2.1 table alone⟩,
    ⟨behind, (tables_wellFormed ("f;" ++ script) .hive).2.2.1 .inOrder table behind⟩, given,
    extracted,
    (tables_wellFormed script .hive).2.2.2 _ _ _ _ _ given extracted table List.mem_cons_self⟩

end Catalog

end TableCatalog
