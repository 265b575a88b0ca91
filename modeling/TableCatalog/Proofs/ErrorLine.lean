import TableCatalog.Proofs.Accounts
import TableCatalog.Proofs.LineMark
import TableCatalog.Proofs.Lines

/-!
# The lines of malformed statements

In a script that is read statement by statement a malformed statement is told of with a line. It
is one of the statement wherever the message tells the place that the error is laid to. An error
at the end of a statement is laid to no place, and a message may show a text that looks like a
line; then the line that is told may be any.
-/

namespace TableCatalog.Catalog

variable {script : String} {database : Database} {run : List PlacedToken} {k : Nat}

/-- The event that accounts for a run of a script that is read statement by statement. -/
theorem exists_event_of_run {whole : ParseError} (visible : Text.allBlank script.toList = false)
    (rejected : Script.ofText database.grammar script.toList = .error whole)
    (found : (Token.runs (completeTokens database.grammar script.toList).1)[k]? = some run) :
    ∃ table event, Accounts script.toList database run table event ∧
      ∀ schedule, (every script database schedule).events[k + 1]? = some event := by
  obtain ⟨outcomes, each, body⟩ := exists_outcomes_byRuns script.toList database
  obtain ⟨inside, rfl⟩ := List.getElem?_eq_some_iff.1 found
  have inside' : k < outcomes.length := each.length_eq ▸ inside
  refine ⟨_, _, each.get inside inside', fun schedule => ?_⟩
  rw [every_of_error visible rejected, body]
  simp only [List.cons_append, List.getElem?_cons_succ, List.append_assoc]
  rw [List.getElem?_append_left (by simpa using inside')]
  simp [inside']

/-- A malformed statement is told of with the line that its error is laid to, and that is one of
its lines, if the message tells it. Otherwise it is told of with a number that the wording of the
error shows, or with the first line. -/
theorem malformed_line_within {tokens : List PlacedToken} {whole error : ParseError}
    (visible : Text.allBlank script.toList = false)
    (scanned : Token.scan database.grammar script.toList = .ok tokens)
    (rejected : Script.ofText database.grammar script.toList = .error whole)
    (found : (Token.runs tokens)[k]? = some run)
    (unread : Script.ofTokens database.grammar run = .error error) :
    ∃ line,
      (∀ schedule, (every script database schedule).events[k + 1]? =
          some (.failed database (.malformed line error.message))) ∧
        (error.TellsLine → line = error.place.line ∧ Token.Spans run line) ∧
        (¬error.TellsLine → line = (Text.markedLine? error.wording.toList).getD 1) := by
  have complete : completeTokens database.grammar script.toList = (tokens, none) := by
    simp [completeTokens, scanned]
  have ordered : Token.InOrder run := (Token.inOrder_of_scan scanned).of_part
    (Token.infix_of_mem_runs (List.mem_of_getElem? found))
  have inside : (Token.runs (completeTokens database.grammar script.toList).1)[k]? = some run := by
    rwa [complete]
  obtain ⟨table, event, accounts, told⟩ := exists_event_of_run visible rejected inside
  cases accounts with
  | read yields => cases yields.ofTokens_eq.symm.trans unread
  | malformed yields =>
    obtain rfl : _ = error := Except.error.inj (yields.ofTokens_eq.symm.trans unread)
    refine ⟨_, fun schedule => by rw [told, Failure.ofError_eq], fun tells => ?_,
      fun silent => if_neg silent⟩
    rw [if_pos tells]
    exact ⟨rfl, (Script.errorPlace_of_ofTokens unread).spans ordered tells.2.1⟩

/-- A statement on the second line whose message tells the place of the error in it. -/
theorem malformed_line_within_second :
    let script := "CREATE TABLE a (b INT);\nCREATE TABLE c (d INT e TEXT)"
    ∃ tokens run whole error,
      Text.allBlank script.toList = false ∧
        Token.scan Database.generic.grammar script.toList = .ok tokens ∧
        Script.ofText Database.generic.grammar script.toList = .error whole ∧
        (Token.runs tokens)[1]? = some run ∧
        Script.ofTokens Database.generic.grammar run = .error error ∧ error.TellsLine ∧
        ∃ line,
          (∀ schedule, (every script .generic schedule).events[2]? =
              some (.failed .generic (.malformed line error.message))) ∧
            (error.TellsLine → line = error.place.line ∧ Token.Spans run line) ∧
            (¬error.TellsLine → line = (Text.markedLine? error.wording.toList).getD 1) := by
  intro script
  have visible : Text.allBlank script.toList = false := by decide +kernel
  have whole : (Script.ofText Database.generic.grammar script.toList).isOk = false := by
    decide +kernel
  have second : (Token.scan Database.generic.grammar script.toList).toOption.any (fun tokens =>
      (Token.runs tokens)[1]?.any fun run =>
        (errorOf? (Script.ofTokens Database.generic.grammar run)).any (·.TellsLine)) = true := by
    decide +kernel
  obtain ⟨whole, rejected⟩ := exists_error_of_isOk whole
  obtain ⟨tokens, scanned, second⟩ := exists_ok_of_any second
  obtain ⟨run, found, second⟩ := (Option.any_eq_true _ _).1 second
  obtain ⟨error, unread, tells⟩ := exists_error_of_any second
  exact ⟨tokens, run, whole, error, visible, scanned, rejected, found, unread, by simpa using tells,
    malformed_line_within visible scanned rejected found unread⟩

/-- A text constant that looks like a line, in a statement on the first line, and a statement on
the second line that ends too early: they are told of with the lines 9 and 1. -/
theorem malformed_line_astray :
    let script := "CREATE TABLE a (b INT 'Line: 9');\nCREATE TABLE c (d INT"
    ∃ tokens whole first second labelled silent,
      Token.scan Database.generic.grammar script.toList = .ok tokens ∧
        Script.ofText Database.generic.grammar script.toList = .error whole ∧
        (Token.runs tokens)[0]? = some first ∧ (Token.runs tokens)[1]? = some second ∧
        Script.ofTokens Database.generic.grammar first = .error labelled ∧
        Script.ofTokens Database.generic.grammar second = .error silent ∧
        (every script .generic).events = [.fallback .generic whole,
          .failed .generic (.malformed 9 labelled.message),
          .failed .generic (.malformed 1 silent.message), .finished .generic 0] ∧
        ¬Token.Spans first 9 ∧ ¬Token.Spans second 1 := by
  intro script
  have told : (Token.scan Database.generic.grammar script.toList).toOption.any (fun tokens =>
      (errorOf? (Script.ofText Database.generic.grammar script.toList)).any fun whole =>
        (Token.runs tokens)[0]?.any fun first => (Token.runs tokens)[1]?.any fun second =>
          (errorOf? (Script.ofTokens Database.generic.grammar first)).any fun labelled =>
            (errorOf? (Script.ofTokens Database.generic.grammar second)).any fun silent =>
              (every script .generic).events = [.fallback .generic whole,
                .failed .generic (.malformed 9 labelled.message),
                .failed .generic (.malformed 1 silent.message), .finished .generic 0] ∧
              ¬Token.Spans first 9 ∧ ¬Token.Spans second 1) = true := by
    decide +kernel
  obtain ⟨tokens, scanned, told⟩ := exists_ok_of_any told
  obtain ⟨whole, rejected, told⟩ := exists_error_of_any told
  obtain ⟨first, found, told⟩ := (Option.any_eq_true _ _).1 told
  obtain ⟨second, found', told⟩ := (Option.any_eq_true _ _).1 told
  obtain ⟨labelled, unread, told⟩ := exists_error_of_any told
  obtain ⟨silent, unread', told⟩ := exists_error_of_any told
  exact ⟨tokens, whole, first, second, labelled, silent, scanned, rejected, found, found', unread,
    unread', of_decide_eq_true told⟩

end TableCatalog.Catalog
