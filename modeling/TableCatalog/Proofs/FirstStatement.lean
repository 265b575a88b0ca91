import TableCatalog.Proofs.Accounts
import TableCatalog.Proofs.BlankScript

/-!
# The first statement and the whole script

A script may be read for its first statement alone or for all of them. What is told of all of
them begins with what becomes of the first one, unless they are shared out among threads; only of
a blank script nothing is told. And a script without a terminator that cannot be read is told of
alike, apart from the announcement that it is read statement by statement and the final count.
-/

namespace TableCatalog.Catalog

variable {script : String} {database : Database} {tokens : List PlacedToken} {error : ParseError}

/-- The statements of a script are told of in their order: on a single thread, and where too few
of them are read to be shared out. -/
def Sequential (script : String) (database : Database) (schedule : Schedule) : Prop :=
  schedule = .inOrder ∨
    ∀ statements, Script.ofText database.grammar script.toList = .ok statements →
      statements.length < Schedule.threshold

/-- What a report on all statements of a script begins with, given what becomes of the first
statement. -/
def Follows (script : String) (database : Database) (schedule : Schedule) (report : Report) :
    Except Failure Table → Prop
  | .ok table => report.tables.head? = some table
  | .error .emptyText | .error .noStatement =>
    report.tables = [] ∧ ∀ event ∈ report.events, event.level ≠ .warn
  | .error (.malformed _ message) =>
    if Text.allBlank script.toList then report = ⟨[], []⟩
    else ∃ error announcement, report.events.head? = some (.fallback database error) ∧
      (Event.fallback database error).message = announcement ++ message
  | .error failure =>
    ∃ event ∈ report.events, event.level = .warn ∧ ("error", failure.message) ∈ event.fields ∧
      (Sequential script database schedule → report.events.head? = some event)

/-- A statement without a table is told of with a warning that shows why it has none. -/
theorem Tells.warns {failure : Failure} {event : Event}
    (tells : Tells database (.error failure) event) :
    event.level = .warn ∧ ("error", failure.message) ∈ event.fields := by
  cases tells <;> simp [Event.level, Event.fields]

/-- What is told of the first statement is told among the rest, and before it if the statements are
told of in their order. -/
theorem follows_ofStatements {statement : Statement} {statements : List Statement}
    (read : Script.ofText database.grammar script.toList = .ok (statement :: statements))
    (schedule : Schedule) (last : List Event) :
    let body := ofStatements script.toList database (statement :: statements) schedule
    Follows script database schedule ⟨body.tables, body.events ++ last⟩
      (Table.ofStatement script.toList database statement) := by
  have among : told script.toList database statement ∈
      schedule.shareOut ((statement :: statements).map (told script.toList database)) :=
    (schedule.shareOut_perm _).mem_iff.2 (List.mem_map_of_mem List.mem_cons_self)
  have before (sequential : Sequential script database schedule) :
      (schedule.shareOut ((statement :: statements).map (told script.toList database)) ++
        last).head? = some (told script.toList database statement) := by
    have kept : schedule.shareOut ((statement :: statements).map (told script.toList database)) =
        (statement :: statements).map (told script.toList database) := by
      rcases sequential with rfl | few
      · exact Schedule.shareOut_inOrder _
      · exact schedule.shareOut_of_lt (by simpa using few _ read)
    rw [kept, List.map_cons, List.cons_append, List.head?_cons]
  have found := List.mem_append_left last among
  simp only [ofStatements_eq]
  cases statement with
  | createTable definition => exact rfl
  | dropTable spelling =>
    have warns := (Tells.removal : Tells database _ _).warns
    exact ⟨_, found, warns.1, warns.2, before⟩
  | explanation spelling | other spelling =>
    have warns := (Tells.unsupported spelling : Tells database _ _).warns
    exact ⟨_, found, warns.1, warns.2, before⟩

/-- Reading a script for all of its statements follows reading it for the first one. -/
theorem every_follows_firstTable (script : String) (database : Database) (schedule : Schedule) :
    Follows script database schedule (every script database schedule)
      (firstTable script database) := by
  unfold firstTable
  by_cases empty : script.isEmpty = true
  · have blank : Text.allBlank script.toList = true := by
      rw [String.isEmpty_iff.1 empty]
      rfl
    simp [empty, every_of_blank blank, Follows]
  · rw [if_neg empty]
    cases blank : Text.allBlank script.toList with
    | true =>
      rw [every_of_blank blank]
      cases read : Script.ofText database.grammar script.toList with
      | error error => simp [Failure.ofError, Follows, blank]
      | ok statements =>
        obtain rfl := Script.eq_nil_of_blank blank read
        simp [Follows]
    | false =>
      cases read : Script.ofText database.grammar script.toList with
      | error error =>
        rw [every_of_error blank read]
        simp only [Failure.ofError, Follows, blank]
        exact ⟨error, _, rfl, rfl⟩
      | ok statements =>
        rw [every_of_statements blank read]
        cases statements with
        | nil => simp [Follows, ofStatements_eq, Event.level]
        | cons statement statements => exact follows_ofStatements read schedule _

/-- Of a word that is a blank nothing is told when a script is read for all of its statements. And
where eight statements are shared out, what is told of the last one may come first. -/
theorem every_silent_on_blank_word :
    let script := "\u3000"
    let shared := "DROP TABLE a;USE b;USE b;USE b;USE b;USE b;USE b;CREATE TABLE c (d INT)"
    ((∃ line message, firstTable script .sqlite = .error (.malformed line message)) ∧
        ∀ schedule, (every script .sqlite schedule).events = []) ∧
      firstTable shared .mysql = .error .removesTable ∧
        (every shared .mysql .reversed).events.head? = some (.tableRead .mysql "c") := by
  intro script shared
  refine ⟨?_, by decide +kernel, by decide +kernel⟩
  have unread : (Script.ofText Database.sqlite.grammar script.toList).isOk = false := by
    decide +kernel
  have filled : script.isEmpty = false := by decide +kernel
  have blank : Text.allBlank script.toList = true := by decide +kernel
  obtain ⟨error, unread⟩ := exists_error_of_isOk unread
  have first : firstTable script .sqlite = .error (.ofError error) := by
    simp only [firstTable, filled, unread, Bool.false_eq_true, if_false]
  exact ⟨⟨_, _, first⟩, fun schedule => by rw [every_of_blank blank]⟩

/-- A text that scans is read as its tokens are. If it is rejected and holds no terminator, all
that is told of it beyond what is told of its first statement is that it is read statement by
statement and that no table has been found; only of a blank text nothing is told at all. -/
theorem rejected_told_alike (scanned : Token.scan database.grammar script.toList = .ok tokens) :
    Script.ofText database.grammar script.toList = Script.ofTokens database.grammar tokens ∧
      ∀ error, Script.ofText database.grammar script.toList = .error error →
        (∀ placed ∈ tokens, placed.token ≠ .semicolon) →
        single script database = ⟨[], [.failed database (.ofError error)]⟩ ∧
          ∀ schedule, every script database schedule =
            if Text.allBlank script.toList then ⟨[], []⟩
            else ⟨[], .fallback database error :: (single script database).events ++
              [.finished database 0]⟩ := by
  have same := Script.ofText_of_scan scanned
  refine ⟨same, fun error unread unterminated => ?_⟩
  have rejected := same.symm.trans unread
  have content : Token.hasContent tokens = true := by
    by_contra blank
    rw [Script.ofTokens_blank database.grammar (by simpa using blank)] at rejected
    cases rejected
  have filled : script.isEmpty = false := by
    by_contra empty
    have nothing : script = "" := String.isEmpty_iff.1 (by simpa using empty)
    rw [nothing] at scanned
    obtain rfl : [] = tokens := Except.ok.inj scanned
    simp [Token.hasContent] at content
  have told : single script database = ⟨[], [.failed database (.ofError error)]⟩ := by
    simp only [single, firstTable, filled, unread, Bool.false_eq_true, if_false, eventsOf,
      Failure.ofError, Failure.isReported, if_true]
  refine ⟨told, fun schedule => ?_⟩
  cases blank : Text.allBlank script.toList with
  | true => rw [every_of_blank blank, if_pos rfl]
  | false =>
    have run : Token.runs tokens = [tokens] := by
      rw [Token.runs_unterminated unterminated, if_pos content]
    have body : byRuns script.toList database schedule =
        ⟨[], [.failed database (.ofError error)]⟩ := by
      simp [byRuns, completeTokens, scanned, run, ofRun, rejected, join, eventsOf, Failure.ofError,
        Failure.isReported]
    rw [every_of_error blank unread, body, told]
    rfl

/-- A table that cannot be read without its partition clause either. -/
theorem rejected_told_alike_partitioned :
    let script := "CREATE TABLE a (b INT c) PARTITION BY HASH (b)"
    ∃ tokens error, Token.scan Database.mysql.grammar script.toList = .ok tokens ∧
      Script.ofText Database.mysql.grammar script.toList = .error error ∧
      (∀ placed ∈ tokens, placed.token ≠ .semicolon) ∧
      (PartitionClause.strip? tokens).isSome = true ∧
      single script .mysql = ⟨[], [.failed .mysql (.ofError error)]⟩ ∧
      ∀ schedule, every script .mysql schedule =
        ⟨[], [.fallback .mysql error, .failed .mysql (.ofError error), .finished .mysql 0]⟩ := by
  intro script
  have unread : (Script.ofText Database.mysql.grammar script.toList).isOk = false := by
    decide +kernel
  have whole : (Token.scan Database.mysql.grammar script.toList).toOption.any (fun tokens =>
      tokens.all (·.token != .semicolon) && (PartitionClause.strip? tokens).isSome) = true := by
    decide +kernel
  have visible : Text.allBlank script.toList = false := by decide +kernel
  obtain ⟨error, unread⟩ := exists_error_of_isOk unread
  obtain ⟨tokens, scanned, whole⟩ := exists_ok_of_any whole
  simp only [Bool.and_eq_true, List.all_eq_true, bne_iff_ne] at whole
  obtain ⟨unterminated, clause⟩ := whole
  obtain ⟨told, all⟩ := (rejected_told_alike scanned).2 error unread unterminated
  refine ⟨tokens, error, scanned, unread, unterminated, clause, told, fun schedule => ?_⟩
  rw [all, visible, told]
  rfl

/-- A word that is a blank is rejected, and nothing is told of it when a script is read for all
of its statements. -/
theorem rejected_blank_untold :
    let script := "\u00a0"
    ∃ tokens error, Token.scan Database.sqlite.grammar script.toList = .ok tokens ∧
      (∀ placed ∈ tokens, placed.token ≠ .semicolon) ∧
      Script.ofText Database.sqlite.grammar script.toList = .error error ∧
      (every script .sqlite).events = [] := by
  intro script
  have unread : (Script.ofText Database.sqlite.grammar script.toList).isOk = false := by
    decide +kernel
  have whole : (Token.scan Database.sqlite.grammar script.toList).toOption.any (fun tokens =>
      tokens.all (·.token != .semicolon)) = true := by
    decide +kernel
  have blank : Text.allBlank script.toList = true := by decide +kernel
  obtain ⟨error, unread⟩ := exists_error_of_isOk unread
  obtain ⟨tokens, scanned, whole⟩ := exists_ok_of_any whole
  simp only [List.all_eq_true, bne_iff_ne] at whole
  exact ⟨tokens, error, scanned, whole, unread, by rw [every_of_blank blank]⟩

end TableCatalog.Catalog
