import TableCatalog.Proofs.Accounts
import TableCatalog.Proofs.BlankScript
import TableCatalog.Proofs.Separate
import TableCatalog.Proofs.Tables

/-!
# The second attempt on a script

A script that cannot be read as it stands is read without its partition clauses. Each of its
runs is then told of, except those that a clause swallows because it has a parenthesis open at
the terminator before them.
-/

namespace TableCatalog

open Token PartitionClause

/-- As many statements are read as there are runs. -/
theorem Statement.length_eq_of_ofTokens {grammar : Grammar} {tokens : List PlacedToken}
    {statements : List Statement}
    (contained : ∀ run ∈ runs tokens, isContained grammar run = true)
    (read : ofTokens grammar tokens = .ok statements) : statements.length = (runs tokens).length :=
  ((ofTokens_eq_ok_iff contained statements).1 read).length_eq.symm

namespace Catalog

variable {script : String} {database : Database} {tokens remaining : List PlacedToken}
  {statements : List Statement} {error : ParseError}

/-- How many warnings there are among events. -/
def warnings (events : List Event) : Nat :=
  events.countP (·.level = .warn)

/-- Each statement has a table or a warning. -/
theorem tables_add_warnings {text : List Char} {events : List Event}
    (tells : List.Forall₂ (fun statement event =>
      Tells database (Table.ofStatement text database statement) event) statements events) :
    (statements.filterMap fun statement =>
        (Table.ofStatement text database statement).toOption).length + warnings events =
      statements.length := by
  induction tells with
  | nil => rfl
  | @cons statement event statements events here _ ih =>
    have level := here.level_eq
    unfold warnings at ih ⊢
    cases found : (Table.ofStatement text database statement).toOption with
    | some table =>
      have quiet : event.level = .debug := by simpa [found] using level
      simp only [List.filterMap_cons, found, List.countP_cons, quiet, List.length_cons]
      simp
      omega
    | none =>
      have loud : event.level = .warn := by simpa [found] using level
      simp only [List.filterMap_cons, found, List.countP_cons, loud, List.length_cons]
      simp
      omega

/-- A script of which statements have been read tells of each of them. -/
theorem every_tables_add_warnings
    (read : Script.ofText database.grammar script.toList = .ok statements) (schedule : Schedule) :
    (every script database schedule).tables.length +
        warnings (every script database schedule).events = statements.length := by
  cases blank : Text.allBlank script.toList with
  | true =>
    obtain rfl := Script.eq_nil_of_blank blank read
    rw [every_of_blank blank]
    rfl
  | false =>
    have tells := forall₂_tells script.toList database statements
    have turns : warnings (schedule.shareOut (statements.map (told script.toList database))) =
        warnings (statements.map (told script.toList database)) :=
      (schedule.shareOut_perm _).countP_eq _
    rw [← tables_add_warnings tells, ← turns, every_of_statements blank read, ofStatements_eq]
    simp [warnings, Event.level]

/-- Read without its partition clauses, a script gives one statement for each of its runs that
no clause swallows, and tells of each statement by a table or a warning. No run is swallowed
where every parenthesis is closed in its own statement. -/
theorem second_attempt_accounted
    (scanned : Token.scan database.grammar script.toList = .ok tokens)
    (unread : Statement.ofTokens database.grammar tokens = .error error)
    (stripped : strip? tokens = some remaining)
    (read : Statement.ofTokens database.grammar remaining = .ok statements)
    (contained : ∀ run ∈ runs remaining, Statement.isContained database.grammar run = true) :
    statements.length + (swallowed tokens).length = (runs tokens).length ∧
      ((∀ piece ∈ pieces tokens, State.initial.Closes piece) →
        statements.length = (runs tokens).length) ∧
      ∀ schedule, (every script database schedule).tables.length +
        warnings (every script database schedule).events = statements.length := by
  have divided : (runs remaining).length + (swallowed tokens).length = (runs tokens).length := by
    rw [strip?_eq_some stripped]
    exact length_runs_kept tokens (.inr fresh_initial)
  have counted : statements.length + (swallowed tokens).length = (runs tokens).length := by
    rw [Statement.length_eq_of_ofTokens contained read, divided]
  have accepted : Script.ofText database.grammar script.toList = .ok statements := by
    rw [Script.ofText_of_scan scanned, Script.ofTokens, unread]
    simp only [stripped, read]
  refine ⟨counted, fun closes => ?_, every_tables_add_warnings accepted⟩
  rwa [swallowed_of_closes closes] at counted

/-- Two tables with clauses and a statement between them. -/
theorem second_attempt_accounted_between :
    let script := "CREATE TABLE a (b INT) PARTITION BY HASH (b); DROP TABLE a; CREATE TABLE c (d INT) PARTITION BY RANGE (d)"
    ∃ tokens remaining statements error,
      Token.scan Database.mysql.grammar script.toList = .ok tokens ∧
        Statement.ofTokens Database.mysql.grammar tokens = .error error ∧
        strip? tokens = some remaining ∧
        Statement.ofTokens Database.mysql.grammar remaining = .ok statements ∧
        (∀ run ∈ runs remaining, Statement.isContained Database.mysql.grammar run = true) ∧
        statements.length + (swallowed tokens).length = (runs tokens).length ∧
        ((∀ piece ∈ pieces tokens, State.initial.Closes piece) →
          statements.length = (runs tokens).length) ∧
        ∀ schedule, (every script .mysql schedule).tables.length +
          warnings (every script .mysql schedule).events = statements.length := by
  intro script
  have first : (Token.scan Database.mysql.grammar script.toList).toOption.any (fun tokens =>
      !(Statement.ofTokens Database.mysql.grammar tokens).isOk &&
        (strip? tokens).any fun remaining =>
          (Statement.ofTokens Database.mysql.grammar remaining).isOk &&
            (runs remaining).all (Statement.isContained Database.mysql.grammar)) = true := by
    decide +kernel
  obtain ⟨tokens, scanned, first⟩ := exists_ok_of_any first
  obtain ⟨plain, second⟩ := Bool.and_eq_true_iff.1 first
  obtain ⟨error, unread⟩ := exists_error_of_isOk (by simpa using plain)
  obtain ⟨remaining, stripped, second⟩ := (Option.any_eq_true _ _).1 second
  obtain ⟨read, contained⟩ := Bool.and_eq_true_iff.1 second
  obtain ⟨statements, read⟩ := exists_ok_of_isOk read
  have contained := List.all_eq_true.1 contained
  exact ⟨tokens, remaining, statements, error, scanned, unread, stripped, read, contained,
    second_attempt_accounted scanned unread stripped read contained⟩

/-- A clause with a parenthesis open swallows the statement behind it. -/
theorem open_clause_costs_statement :
    let script := "CREATE TABLE a (b INT) PARTITION BY RANGE (b; CREATE TABLE c (d INT)"
    ∃ tokens remaining statements error,
      Token.scan Database.mysql.grammar script.toList = .ok tokens ∧
        Statement.ofTokens Database.mysql.grammar tokens = .error error ∧
        strip? tokens = some remaining ∧
        Statement.ofTokens Database.mysql.grammar remaining = .ok statements ∧
        statements.length = 1 ∧ (runs tokens).length = 2 ∧
        (every script .mysql).events = [.tableRead .mysql "a", .finished .mysql 1] := by
  intro script
  have first : (Token.scan Database.mysql.grammar script.toList).toOption.any (fun tokens =>
      !(Statement.ofTokens Database.mysql.grammar tokens).isOk &&
        decide ((runs tokens).length = 2) &&
        (strip? tokens).any fun remaining =>
          (Statement.ofTokens Database.mysql.grammar remaining).toOption.any
            (·.length = 1)) = true := by
    decide +kernel
  have told : (every script .mysql).events = [.tableRead .mysql "a", .finished .mysql 1] := by
    decide +kernel
  obtain ⟨tokens, scanned, first⟩ := exists_ok_of_any first
  obtain ⟨plain, second⟩ := Bool.and_eq_true_iff.1 first
  obtain ⟨plain, divided⟩ := Bool.and_eq_true_iff.1 plain
  obtain ⟨error, unread⟩ := exists_error_of_isOk (by simpa using plain)
  obtain ⟨remaining, stripped, second⟩ := (Option.any_eq_true _ _).1 second
  obtain ⟨statements, read, one⟩ := exists_ok_of_any second
  exact ⟨tokens, remaining, statements, error, scanned, unread, stripped, read, by simpa using one,
    by simpa using divided, told⟩

end Catalog

end TableCatalog
