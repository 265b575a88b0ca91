import TableCatalog.Proofs.Alone
import TableCatalog.Proofs.BlankScript
import TableCatalog.Proofs.NextLine
import TableCatalog.Proofs.Recovery

/-!
# A malformed statement among others

A script whose statements do not depend on each other gives the same tables read at once and
statement by statement. So a malformed statement in front of it costs none of them.
-/

namespace TableCatalog

open Token PartitionClause

variable {database : Database} {grammar : Grammar} {text text' : List Char}
  {run run' tokens tokens' : List PlacedToken} {statements : List Statement}

namespace Token

/-- A text and another one with a terminator between them scan to the tokens of both, up to
gaps. -/
theorem scan_nextLine {first second : List Char} {begun : List PlacedToken}
    (scanned : scan grammar first = .ok begun)
    (solid : ∀ final, begun.getLast? = some final →
      Lexer.takesLine grammar final.token = false)
    (scans : scan grammar second = .ok tokens) :
    ∃ core begun' terminator feed tokens', Framed core begun ∧ Framed core begun' ∧
      terminator.token = .semicolon ∧ feed.token.isGap = true ∧
        List.Forall₂ (PlacedToken.Moved second (first ++ ['\n', ';', '\n'] ++ second)) tokens
            tokens' ∧
          scan grammar (first ++ ['\n', ';', '\n'] ++ second) =
            .ok (begun' ++ terminator :: feed :: tokens') := by
  obtain ⟨core, begun', framed, framed', reads⟩ := exists_nextLine scanned solid ('\n' :: second)
  obtain ⟨place, reads'⟩ := reads_of_scan scans
  obtain ⟨lexemes, rfl, whole, -, again⟩ := reads'.settled
  have whole : second = Lexer.spelled lexemes := by simpa [Cursor.ofText] using whole
  have behind : ((Location.start.after (first ++ ['\n'])).next ';').next '\n' =
      Location.start.after (first ++ ['\n', ';', '\n']) := by
    rw [Location.after_append, Location.after_append]
    rfl
  have moved := Lexer.moved_placed lexemes [] (first ++ ['\n', ';', '\n'])
  rw [List.nil_append, ← whole] at moved
  have last := again [] (Location.start.after (first ++ ['\n', ';', '\n'])) List.nil_prefix
  rw [List.append_nil, ← whole, ← behind] at last
  have all := reads.trans (.step (Lexer.next_terminator grammar _ _)
    (.step (Lexer.next_feed grammar second _) last))
  have shape : first ++ ['\n', ';', '\n'] ++ second = first ++ '\n' :: ';' :: '\n' :: second := by
    simp
  rw [behind, ← shape] at all
  exact ⟨core, begun', _, _, _, framed, framed', rfl, rfl, moved, scan_of_reads all⟩

end Token

namespace Script

/-- The statements of a script do not depend on each other: each one is contained. If the
script is read only without its partition clauses, every parenthesis is closed in its own
statement, and a statement that is read with such a clause too defines the same table so. -/
structure IsSeparate (text : List Char) (database : Database) (tokens : List PlacedToken) :
    Prop where
  contained : ∀ run ∈ runs tokens, isContained database.grammar run = true
  closes : (Statement.ofTokens database.grammar tokens).isOk = false →
    ∀ piece ∈ pieces tokens, State.initial.Closes piece
  agrees : (Statement.ofTokens database.grammar tokens).isOk = false →
    ∀ run ∈ runs tokens, Agrees text database run

instance (text : List Char) (database : Database) (tokens : List PlacedToken) :
    Decidable (IsSeparate text database tokens) :=
  decidable_of_iff ((∀ run ∈ runs tokens, isContained database.grammar run = true) ∧
      ((Statement.ofTokens database.grammar tokens).isOk = false →
        (∀ piece ∈ pieces tokens, State.initial.Closes piece) ∧
          ∀ run ∈ runs tokens, Agrees text database run))
    ⟨fun parts => ⟨parts.1, fun failed => (parts.2 failed).1, fun failed => (parts.2 failed).2⟩,
      fun separate => ⟨separate.contained, fun failed =>
        ⟨separate.closes failed, separate.agrees failed⟩⟩⟩

/-- The statements of a script that do not depend on each other define the tables that its runs
define one by one. -/
theorem IsSeparate.forall₂_table? (separate : IsSeparate text database tokens)
    (read : ofTokens database.grammar tokens = .ok statements) :
    List.Forall₂ (fun run statement => table? text database run =
      statement.definition?.map (Table.ofDefinition text database)) (runs tokens) statements := by
  rcases (ofTokens_eq_ok_iff statements).1 read with whole | ⟨⟨error, failed⟩, part⟩
  · have contained : ∀ run ∈ runs tokens, Statement.isContained database.grammar run = true :=
      fun run member => (contained_iff.1 (separate.contained run member)).1
    refine ((Statement.ofTokens_eq_ok_iff contained statements).1 whole).imp ?_
    intro run statement found
    rw [table?, statement?, found, Option.some_or, Option.bind_some]
  · have unread : (Statement.ofTokens database.grammar tokens).isOk = false := by
      rw [failed]
      rfl
    have divided := runs_kept tokens (separate.closes unread)
    have contained : ∀ run ∈ runs (kept State.initial tokens),
        Statement.isContained database.grammar run = true := by
      rw [divided]
      intro left member
      obtain ⟨run, inside, rfl⟩ := List.mem_map.1 member
      exact (contained_iff.1 (separate.contained run inside)).2
    have one := (Statement.ofTokens_eq_ok_iff contained statements).1 part
    rw [divided, List.forall₂_map_left_iff] at one
    have both := (List.forall₂_and_left _ _).2 ⟨separate.agrees unread, one⟩
    exact both.imp fun run statement alike => alike.1.table?_eq alike.2

/-- A run that is rejected makes up no statement. -/
theorem statement?_eq_none (unterminated : ∀ placed ∈ run, placed.token ≠ .semicolon)
    (content : hasContent run = true) (contained : isContained grammar run = true)
    {error : ParseError} (rejected : ofTokens grammar run = .error error) :
    statement? grammar run = none := by
  cases found : statement? grammar run with
  | none => rfl
  | some statement =>
    have read := (ofTokens_run_eq_ok_iff unterminated content contained [statement]).2
      ⟨statement, found, rfl⟩
    cases rejected.symm.trans read

/-- A script that begins with a run which makes up no statement is rejected. -/
theorem exists_error_of_statement? {terminator : PlacedToken}
    (unterminated : ∀ placed ∈ run, placed.token ≠ .semicolon) (content : hasContent run = true)
    (contained : isContained grammar run = true) (unread : statement? grammar run = none)
    (terminates : terminator.token = .semicolon) (rest : List PlacedToken) :
    ∃ error, ofTokens grammar (run ++ terminator :: rest) = .error error := by
  cases read : ofTokens grammar (run ++ terminator :: rest) with
  | error error => exact ⟨error, rfl⟩
  | ok statements =>
    obtain ⟨plain, stripped⟩ := Option.or_eq_none_iff.1 unread
    obtain ⟨statement, others, -, found⟩ :=
      exists_cons_of_ofTokens unterminated content terminates contained read
    rcases found with whole | part
    · cases plain.symm.trans whole
    · cases stripped.symm.trans part

end Script

namespace Catalog

/-- Statements that define the tables of runs one by one give the tables of the runs. -/
theorem tables_ofStatements_of_forall₂
    (each : List.Forall₂ (fun run statement => Script.table? text database run =
      statement.definition?.map (Table.ofDefinition text database)) (runs tokens) statements)
    (schedule : Schedule) :
    (ofStatements text database statements schedule).tables =
      (runs tokens).filterMap (Script.table? text database) := by
  rw [tables_ofStatements]
  generalize runs tokens = runs at each
  induction each with
  | nil => rfl
  | @cons run statement runs statements here _ ih =>
    rw [List.filterMap_cons, here, ← ih]
    cases shape : statement.definition? <;> simp [definitions, shape]

/-- A run for itself gives the table that it defines, if any. -/
theorem tables_ofRun_of_contained (member : run ∈ runs tokens)
    (contained : Script.isContained database.grammar run = true) (text : List Char)
    (schedule : Schedule) :
    (ofRun text database run schedule).tables = (Script.table? text database run).toList := by
  have unterminated := Token.unterminated_of_mem_runs member
  have content := Token.hasContent_of_mem_runs member
  have iff := Script.ofTokens_run_eq_ok_iff unterminated content contained
  rw [tables_ofRun, runDefinitions, Script.table?]
  cases read : Script.ofTokens database.grammar run with
  | ok statements =>
    obtain ⟨statement, found, rfl⟩ := (iff statements).1 read
    rw [found]
    cases shape : statement.definition? <;> simp [definitions, shape]
  | error error =>
    cases found : Script.statement? database.grammar run with
    | none => rfl
    | some statement =>
      have there := (iff [statement]).2 ⟨statement, found, rfl⟩
      simp [read] at there

/-- Whether all of some runs are contained. -/
def Contained (grammar : Grammar) (runs : List (List PlacedToken)) : Prop :=
  ∀ run ∈ runs, Script.isContained grammar run = true

/-- A script that is read statement by statement gives the tables of its runs. -/
theorem tables_byRuns_of_scan (scanned : Token.scan database.grammar text = .ok tokens)
    (contained : Contained database.grammar (runs tokens)) (schedule : Schedule) :
    (byRuns text database schedule).tables =
      (runs tokens).filterMap (Script.table? text database) := by
  have each : (runs tokens).flatMap (fun run => (ofRun text database run schedule).tables) =
      (runs tokens).flatMap fun run => (Script.table? text database run).toList :=
    List.flatMap_congr fun run member =>
      tables_ofRun_of_contained member (contained run member) text schedule
  rw [List.filterMap_eq_flatMap_toList, ← each]
  simp [byRuns, completeTokens, scanned, join, List.flatMap_map]

/-- Read at once or statement by statement, a script whose statements do not depend on each
other gives the same tables. -/
theorem tables_ofStatements_eq_byRuns (scanned : Token.scan database.grammar text = .ok tokens)
    (separate : Script.IsSeparate text database tokens)
    (read : Script.ofTokens database.grammar tokens = .ok statements) (schedule : Schedule) :
    (ofStatements text database statements schedule).tables =
      (byRuns text database schedule).tables := by
  rw [tables_byRuns_of_scan scanned separate.contained,
    tables_ofStatements_of_forall₂ (separate.forall₂_table? read)]

theorem tables_every_of_ok {script : String}
    (accepted : Script.ofText database.grammar script.toList = .ok statements)
    (schedule : Schedule) :
    (every script database schedule).tables =
      (ofStatements script.toList database statements schedule).tables := by
  cases blank : Text.allBlank script.toList with
  | true =>
    obtain rfl := Script.eq_nil_of_blank blank accepted
    rw [every_of_blank blank]
    rfl
  | false => rw [every_of_statements blank accepted]

/-- Runs that correspond to each other define the same tables. -/
theorem contained_of_forall₂ {table? table?' : List PlacedToken → Option Table}
    {first second : List (List PlacedToken)}
    (each : List.Forall₂ (fun run run' => Script.isContained grammar run' = true ∧
      table? run = table?' run') first second) :
    Contained grammar second ∧ first.filterMap table? = second.filterMap table?' := by
  induction each with
  | nil => exact ⟨by simp [Contained], rfl⟩
  | cons here _ ih =>
    obtain ⟨contained, same⟩ := here
    obtain ⟨rest, later⟩ := ih
    refine ⟨?_, ?_⟩
    · intro run member
      rcases List.mem_cons.1 member with rfl | inside
      · exact contained
      · exact rest run inside
    · rw [List.filterMap_cons, List.filterMap_cons, same, later]

/-- Runs of a script that are contained are contained and without a terminator. -/
theorem suited_of_contained (contained : Contained grammar (runs tokens)) :
    ∀ run ∈ runs tokens, Script.isContained grammar run = true ∧
      ∀ placed ∈ run, placed.token ≠ .semicolon :=
  fun run member => ⟨contained run member, Token.unterminated_of_mem_runs member⟩

/-- In another text runs define the same tables. -/
theorem tables_of_moved (moved : List.Forall₂ (PlacedToken.Moved text text') tokens tokens')
    (contained : Contained database.grammar (runs tokens)) :
    Contained database.grammar (runs tokens') ∧
      (runs tokens).filterMap (Script.table? text database) =
        (runs tokens').filterMap (Script.table? text' database) := by
  refine contained_of_forall₂ (((List.forall₂_and_left _ _).2
    ⟨suited_of_contained contained, runs_of_moved moved⟩).imp ?_)
  rintro run run' ⟨⟨contained, unterminated⟩, moved⟩
  exact Script.table?_of_moved moved unterminated contained

/-- Behind a gap runs define the same tables. -/
theorem tables_of_gap {gap : PlacedToken} (isGap : gap.token.isGap = true)
    (contained : Contained database.grammar (runs tokens)) (text : List Char) :
    Contained database.grammar (runs (gap :: tokens)) ∧
      (runs tokens).filterMap (Script.table? text database) =
        (runs (gap :: tokens)).filterMap (Script.table? text database) := by
  refine contained_of_forall₂ (((List.forall₂_and_left _ _).2
    ⟨suited_of_contained contained, framed_runs isGap tokens⟩).imp ?_)
  rintro run run' ⟨⟨contained, unterminated⟩, framed⟩
  refine ⟨(Script.isContained_of_framed framed unterminated).trans contained, ?_⟩
  unfold Script.table?
  rw [Script.statement?_of_framed framed unterminated contained]

/-- A malformed statement changes the tables of a script behind it that is read as a whole. -/
structure Disturbs (malformed script : String) (database : Database) : Prop where
  rejected : ∃ begun error, Token.scan database.grammar malformed.toList = .ok begun ∧
    (∀ placed ∈ begun, placed.token ≠ .semicolon) ∧ hasContent begun = true ∧
    Script.ofTokens database.grammar begun = .error error
  accepted : ∃ statements, Script.ofText database.grammar script.toList = .ok statements
  differ : (every (malformed ++ "\n;\n" ++ script) database).tables ≠
    (every script database).tables

theorem disturbs_of_tests {malformed script : List Char}
    (rejected : (Token.scan database.grammar malformed).toOption.any (fun begun =>
      begun.all (·.token != .semicolon) && hasContent begun &&
        !(Script.ofTokens database.grammar begun).isOk) = true)
    (accepted : (Script.ofText database.grammar script).isOk = true)
    (differ : tablesOf (malformed ++ ['\n', ';', '\n'] ++ script) database ≠
      tablesOf script database) :
    Disturbs (String.ofList malformed) (String.ofList script) database := by
  obtain ⟨begun, scanned, tests⟩ := exists_ok_of_any rejected
  simp only [Bool.and_eq_true, List.all_eq_true, bne_iff_ne, Bool.not_eq_true'] at tests
  obtain ⟨⟨unterminated, content⟩, unread⟩ := tests
  obtain ⟨error, rejected⟩ := exists_error_of_isOk unread
  obtain ⟨statements, accepted⟩ := exists_ok_of_isOk accepted
  refine ⟨⟨begun, error, ?_, unterminated, content, rejected⟩, ⟨statements, ?_⟩, ?_⟩
  · rwa [String.toList_ofList]
  · rwa [String.toList_ofList]
  · simpa [tables_every, String.toList_append] using differ

end Catalog

end TableCatalog
