import Mathlib.Data.List.Forall2
import TableCatalog.Proofs.OneStatement
import TableCatalog.Proofs.Tables

/-!
# What is told of a script

Every statement of a script is told of in one event: a table that has been read, or why there is
none. The events keep the order of the statements, unless so many are shared out that they come in
the order of their turns. Of a script that is read statement by statement each run is told of in its
order, between the word that it is read so and what is told of its last part.
-/

namespace TableCatalog

/-- The name of the table that an event tells of. -/
def Event.tableName? : Event → Option String
  | tableRead _ name => some name
  | _ => none

namespace Catalog

variable {text : List Char} {database : Database} {run : List PlacedToken}

/-- What is told of a statement that has been read: its table or, with the kind of the
statement, the failure that it amounts to. -/
inductive Tells (database : Database) : Except Failure Table → Event → Prop where
  | table (table : Table) : Tells database (.ok table) (.tableRead database table.name)
  | removal : Tells database (.error .removesTable) (.skipped database .dropTable .removesTable)
  | unsupported (spelling : String) :
      Tells database (.error (.unsupported spelling))
        (.skipped database .unsupported (.unsupported spelling))

/-- What becomes of a run of tokens: the table of its only statement, if it defines one, and
one event. -/
inductive Accounts (text : List Char) (database : Database) (run : List PlacedToken) :
    Option Table → Event → Prop where
  | read {statement : Statement} {event : Event}
      (yields : Script.Yields database.grammar run (.ok statement))
      (tells : Tells database (Table.ofStatement text database statement) event) :
      Accounts text database run (Table.ofStatement text database statement).toOption event
  | malformed {error : ParseError} (yields : Script.Yields database.grammar run (.error error)) :
      Accounts text database run none (.failed database (.ofError error))

/-- Tables are told at the level for details, failures as warnings. -/
theorem Tells.level_eq {outcome : Except Failure Table} {event : Event}
    (tells : Tells database outcome event) :
    event.level = if outcome.toOption.isSome then .debug else .warn := by
  cases tells <;> rfl

/-- A table is told by its name, a failure by none. -/
theorem Tells.tableName?_eq {outcome : Except Failure Table} {event : Event}
    (tells : Tells database outcome event) :
    event.tableName? = outcome.toOption.map (·.name) := by
  cases tells <;> rfl

/-- Tables are told of in passing, and what has none with a warning. -/
theorem Accounts.level_eq {table : Option Table} {event : Event}
    (accounts : Accounts text database run table event) :
    event.level = if table.isSome then .debug else .warn := by
  cases accounts with
  | read _ tells => exact tells.level_eq
  | malformed => rfl

theorem Accounts.tableName?_eq {table : Option Table} {event : Event}
    (accounts : Accounts text database run table event) :
    event.tableName? = table.map (·.name) := by
  cases accounts with
  | read _ tells => exact tells.tableName?_eq
  | malformed => rfl

/-- The event that tells of a statement which has been read. -/
def told (text : List Char) (database : Database) (statement : Statement) : Event :=
  match Table.ofStatement text database statement with
  | .ok table => .tableRead database table.name
  | .error failure => .skipped database statement.kind failure

/-- What is told of a statement tells its outcome. -/
theorem tells_told (text : List Char) (database : Database) (statement : Statement) :
    Tells database (Table.ofStatement text database statement) (told text database statement) := by
  cases statement with
  | createTable definition => exact .table _
  | dropTable spelling => exact .removal
  | explanation spelling | other spelling => exact .unsupported spelling

/-- The driver of scripts tells of a statement what becomes of the statement for itself. -/
theorem ofStatement_eq (text : List Char) (database : Database) (statement : Statement) :
    ofStatement text database statement =
      ⟨(Table.ofStatement text database statement).toOption.toList,
        [told text database statement]⟩ := by
  cases statement <;> rfl

/-- What is told of statements is told of them one by one, in the order of their turns. -/
theorem ofStatements_eq (text : List Char) (database : Database) (statements : List Statement)
    (schedule : Schedule) :
    ofStatements text database statements schedule =
      ⟨statements.filterMap fun statement =>
          (Table.ofStatement text database statement).toOption,
        schedule.shareOut (statements.map (told text database))⟩ := by
  simp only [ofStatements, schedule.shareOut_map, ofStatement_eq, List.flatMap_map,
    List.filterMap_eq_flatMap_toList, ← List.map_eq_flatMap]

theorem forall₂_tells (text : List Char) (database : Database) (statements : List Statement) :
    List.Forall₂ (fun statement event =>
      Tells database (Table.ofStatement text database statement) event) statements
      (statements.map (told text database)) := by
  rw [List.forall₂_map_right_iff, List.forall₂_same]
  exact fun statement _ => tells_told text database statement

/-- A run with content is accounted for. One statement alone is not shared out. -/
theorem exists_accounts (unterminated : ∀ placed ∈ run, placed.token ≠ .semicolon)
    (content : Token.hasContent run = true) (text : List Char) (database : Database) :
    ∃ table event, Accounts text database run table event ∧
      ∀ schedule, ofRun text database run schedule = ⟨table.toList, [event]⟩ := by
  obtain ⟨outcome, yields⟩ := Script.exists_yields database.grammar unterminated content
  cases outcome with
  | ok statement =>
    refine ⟨_, _, .read yields (tells_told text database statement), fun schedule => ?_⟩
    have alone : [told text database statement].length < Schedule.threshold := by
      simp [Schedule.threshold]
    simp only [ofRun, yields.ofTokens_eq, Except.map, ofStatements_eq, List.map_cons, List.map_nil,
      schedule.shareOut_of_lt alone, List.filterMap_eq_flatMap_toList, List.flatMap_cons,
      List.flatMap_nil, List.append_nil]
  | error error =>
    refine ⟨none, _, .malformed yields, fun schedule => ?_⟩
    rw [ofRun, yields.ofTokens_eq]
    rfl

/-- Reports that hold at most one table and one event each, one after another. -/
theorem exists_outcomes {α : Type} (report : Schedule → α → Report) {items : List α}
    {accounts : α → Option Table → Event → Prop}
    (each : ∀ item ∈ items, ∃ table event, accounts item table event ∧
      ∀ schedule, report schedule item = ⟨table.toList, [event]⟩) :
    ∃ outcomes : List (Option Table × Event),
      List.Forall₂ (fun item outcome => accounts item outcome.1 outcome.2) items outcomes ∧
        ∀ schedule, join (items.map (report schedule)) =
          ⟨outcomes.filterMap (·.1), outcomes.map (·.2)⟩ := by
  induction items with
  | nil => exact ⟨[], .nil, fun _ => rfl⟩
  | cons item items ih =>
    obtain ⟨table, event, here, shape⟩ := each item List.mem_cons_self
    obtain ⟨outcomes, later, whole⟩ :=
      ih fun other member => each other (List.mem_cons_of_mem item member)
    refine ⟨(table, event) :: outcomes, .cons here later, fun schedule => ?_⟩
    obtain ⟨tables, events⟩ := Report.mk.inj (whole schedule)
    cases table <;> simp [join, shape, ← tables, ← events]

/-- What is told of the text behind the last complete statement: the fault that ends a script
which does not scan. -/
def toldOfTail (text : List Char) (database : Database) : List Event :=
  match Token.scan database.grammar text with
  | .ok _ => []
  | .error fault => [.failed database (.malformed fault.place.line fault.message)]

theorem tail_byRuns (text : List Char) (database : Database) :
    ((completeTokens database.grammar text).2.elim [] fun fault =>
      eventsOf database (.ofFault fault)) = toldOfTail text database := by
  unfold toldOfTail
  cases scanned : Token.scan database.grammar text with
  | ok tokens => simp [completeTokens, scanned]
  | error fault =>
    have kept : (completeTokens database.grammar text).2 = some fault := by
      simp only [completeTokens, scanned]
      cases fault.place.before? text with
      | none => rfl
      | some before => cases again : Token.scan database.grammar before <;> simp [again]
    rw [kept]
    rfl

/-- A script that is read statement by statement is told of run by run, whatever the schedule. -/
theorem exists_outcomes_byRuns (text : List Char) (database : Database) :
    ∃ outcomes : List (Option Table × Event),
      List.Forall₂ (fun run outcome => Accounts text database run outcome.1 outcome.2)
          (Token.runs (completeTokens database.grammar text).1) outcomes ∧
        ∀ schedule, byRuns text database schedule =
          ⟨outcomes.filterMap (·.1), outcomes.map (·.2) ++ toldOfTail text database⟩ := by
  have each : ∀ run ∈ Token.runs (completeTokens database.grammar text).1, ∃ table event,
      Accounts text database run table event ∧
        ∀ schedule, ofRun text database run schedule = ⟨table.toList, [event]⟩ :=
    fun run member => exists_accounts (Token.unterminated_of_mem_runs member)
      (Token.hasContent_of_mem_runs member) text database
  obtain ⟨outcomes, each, body⟩ :=
    exists_outcomes (fun schedule run => ofRun text database run schedule) each
  exact ⟨outcomes, each, fun schedule => by simp only [byRuns, body, tail_byRuns]⟩

/-- A schedule decides on the order of the events of a script and on nothing else. -/
theorem events_every_perm (script : String) (database : Database) (first second : Schedule) :
    (every script database first).events.Perm (every script database second).events := by
  cases blank : Text.allBlank script.toList with
  | true => rw [every_of_blank blank, every_of_blank blank]
  | false =>
    cases read : Script.ofText database.grammar script.toList with
    | ok statements =>
      rw [every_of_statements blank read, every_of_statements blank read]
      simp only [ofStatements_eq]
      exact ((first.shareOut_perm _).trans (second.shareOut_perm _).symm).append_right _
    | error error =>
      obtain ⟨outcomes, -, body⟩ := exists_outcomes_byRuns script.toList database
      rw [every_of_error blank read, every_of_error blank read, body, body]

section Outcomes

variable {runs : List (List PlacedToken)} {outcomes : List (Option Table × Event)}
  (each : List.Forall₂ (fun run outcome => Accounts text database run outcome.1 outcome.2) runs
    outcomes)

include each

/-- Along a script, each outcome has the level of its kind. -/
theorem levels_eq : ∀ outcome ∈ outcomes,
    outcome.2.level = if outcome.1.isSome then .debug else .warn := by
  induction each with
  | nil => simp
  | cons here _ ih =>
    intro outcome member
    rcases List.mem_cons.1 member with rfl | later
    · exact here.level_eq
    · exact ih outcome later

/-- The events name the tables one by one. -/
theorem names_eq :
    outcomes.filterMap (·.2.tableName?) = (outcomes.filterMap (·.1)).map (·.name) := by
  induction each with
  | nil => rfl
  | @cons run outcome runs outcomes here _ ih =>
    have named := here.tableName?_eq
    obtain ⟨table, event⟩ := outcome
    cases table <;> simp_all

end Outcomes

/-- The outcomes of the runs of a script account for its report: one outcome for each run, told
of between the beginning and the end; and the tables are those that the events name. -/
structure Accounted (script : String) (database : Database) (schedule : Schedule)
    (error : ParseError) (outcomes : List (Option Table × Event)) : Prop where
  runs : List.Forall₂
    (fun run outcome => Accounts script.toList database run outcome.1 outcome.2)
    (Token.runs (completeTokens database.grammar script.toList).1) outcomes
  levels : ∀ outcome ∈ outcomes, outcome.2.level = if outcome.1.isSome then .debug else .warn
  events : (every script database schedule).events =
    .fallback database error :: outcomes.map (·.2) ++ toldOfTail script.toList database ++
      [.finished database (every script database schedule).tables.length]
  tables : (every script database schedule).tables = outcomes.filterMap (·.1)
  names : (every script database schedule).tables.map (·.name) =
    (every script database schedule).events.filterMap Event.tableName?

/-- A script that cannot be read as a whole is accounted for run by run. No run is shared out, so
that no schedule bears on it. -/
theorem fallback_accounted {script : String} {database : Database} {error : ParseError}
    (visible : Text.allBlank script.toList = false)
    (malformed : Script.ofText database.grammar script.toList = .error error) :
    ∃ outcomes, ∀ schedule, Accounted script database schedule error outcomes := by
  obtain ⟨outcomes, each, body⟩ := exists_outcomes_byRuns script.toList database
  refine ⟨outcomes, fun schedule => ?_⟩
  have whole : every script database schedule = ⟨outcomes.filterMap (·.1),
      .fallback database error :: outcomes.map (·.2) ++ toldOfTail script.toList database ++
        [.finished database (outcomes.filterMap (·.1)).length]⟩ := by
    rw [every_of_error visible malformed, body]
    simp only [List.cons_append]
  have unnamed : (toldOfTail script.toList database).filterMap Event.tableName? = [] := by
    unfold toldOfTail
    split <;> rfl
  have first : (Event.fallback database error).tableName? = none := rfl
  have last (count : Nat) : (Event.finished database count).tableName? = none := rfl
  refine ⟨each, levels_eq each, ?_, ?_, ?_⟩
  · rw [whole]
  · rw [whole]
  · rw [whole]
    simp only [← names_eq each, List.cons_append, List.filterMap_cons, List.filterMap_append,
      List.filterMap_map, List.filterMap_nil, unnamed, first, last, List.append_nil]
    rfl

/-- A table with a partition clause, a statement that is passed over and a malformed one, before
text that lacks its closing quote. -/
theorem fallback_accounted_mixed :
    let script := "CREATE TABLE a (b INT) PARTITION BY HASH (b);DROP TABLE a;c;'d"
    let table : Table := ⟨"a", .mysql, [⟨"b", "INT", none, false⟩], []⟩
    let fault : LexicalFault := ⟨.unterminatedString, ⟨1, 61⟩⟩
    Text.allBlank script.toList = false ∧
      Script.ofText Database.mysql.grammar script.toList = .error (.lexical fault) ∧
      (∃ outcomes, ∀ schedule, Accounted script .mysql schedule (.lexical fault) outcomes) ∧
      (every script .mysql).tables = [table] ∧
      (every script .mysql).events = [
        .fallback .mysql (.lexical fault), .tableRead .mysql "a",
        .skipped .mysql .dropTable .removesTable,
        .failed .mysql (.malformed 1
          "sql parser error: Expected: an SQL statement, found: c at Line: 1, Column: 59"),
        .failed .mysql (.malformed 1 "Unterminated string literal at Line: 1, Column: 61"),
        .finished .mysql 1] := by
  intro script table fault
  have visible : Text.allBlank script.toList = false := by decide +kernel
  have faulty : Token.scan Database.mysql.grammar script.toList = .error fault := by decide +kernel
  have malformed := Script.ofText_of_fault faulty
  exact ⟨visible, malformed, fallback_accounted visible malformed, by decide +kernel,
    by decide +kernel⟩

end Catalog

end TableCatalog
