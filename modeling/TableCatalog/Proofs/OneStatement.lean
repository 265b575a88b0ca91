import TableCatalog.Proofs.Alike
import TableCatalog.Proofs.Clauses
import TableCatalog.Script

/-!
# Tokens without a terminator

Where no terminator stands, a second statement cannot begin. So a run of tokens that is read,
as it stands or without its partition clauses, is one statement; gaps alone are none.
-/

namespace TableCatalog

open ParserInput PartitionClause Token

variable {grammar : Grammar} {run : List PlacedToken} {statements : List Statement}

section Outcome

variable {ε α : Type} {outcome : Except ε α}

/-- What passes a test has come to a value. -/
theorem exists_ok_of_any {test : α → Bool} (passes : outcome.toOption.any test = true) :
    ∃ value, outcome = .ok value ∧ test value = true := by
  cases outcome with
  | ok value => exact ⟨value, rfl, passes⟩
  | error error => cases passes

theorem exists_ok_of_isOk (found : outcome.isOk = true) : ∃ value, outcome = .ok value := by
  cases outcome with
  | ok value => exact ⟨value, rfl⟩
  | error error => cases found

/-- The error that something has come to, if it has. -/
def errorOf? : Except ε α → Option ε
  | .ok _ => none
  | .error error => some error

theorem exists_error_of_any {test : ε → Bool} (passes : (errorOf? outcome).any test = true) :
    ∃ error, outcome = .error error ∧ test error = true := by
  cases outcome with
  | ok value => cases passes
  | error error => exact ⟨error, rfl, passes⟩

theorem exists_error_of_isOk (failed : outcome.isOk = false) : ∃ error, outcome = .error error := by
  cases outcome with
  | ok value => cases failed
  | error error => exact ⟨error, rfl⟩

end Outcome

namespace Statement

/-- Without a terminator nothing follows a statement. -/
theorem eq_nil_of_listFrom {input : ParserInput} {statement : ParserState → Parsed Statement}
    {fuel : Nat} {state finish : ParserState}
    (unterminated : ∀ (i : Nat) (lexeme : Lexeme), input.lexemes[i]? = some lexeme →
      lexeme.placed.token ≠ .semicolon)
    (read : listFrom input statement fuel false state = .done statements finish) :
    statements = [] := by
  cases fuel with
  | zero =>
    obtain ⟨rfl, -⟩ := Parsed.done.inj read
    rfl
  | succ fuel =>
    cases found : input.lexemes[state.position]? with
    | none =>
      simp only [listFrom, found] at read
      exact (Parsed.done.inj read).1.symm
    | some lexeme =>
      have printed := unterminated _ lexeme found
      simp only [listFrom, found, beq_iff_eq, printed, if_false, Bool.not_false, if_true] at read
      split at read
      · exact (Parsed.done.inj read).1.symm
      · cases read

theorem unterminated_lexemes (unterminated : ∀ placed ∈ run, placed.token ≠ .semicolon) (i : Nat)
    (lexeme : Lexeme) (found : (ParserInput.ofTokens grammar run).lexemes[i]? = some lexeme) :
    lexeme.placed.token ≠ .semicolon := by
  have inside : lexeme ∈ lexemesOf run := by
    simp only [ParserInput.ofTokens, List.getElem?_toArray] at found
    exact List.mem_of_getElem? found
  exact unterminated _ (mem_of_mem_lexemesOf inside)

/-- A run with content holds a token that is no gap. -/
theorem length_lexemesOf_pos (content : Token.hasContent run = true) :
    0 < (lexemesOf run).length := by
  obtain ⟨placed, member, solid⟩ := List.any_eq_true.1 content
  simp only [lexemesOf, List.length_map]
  exact List.length_pos_of_mem (List.mem_filter.2 ⟨member, solid⟩)

/-- A run without content holds gaps alone. -/
theorem lexemesOf_blank (blank : Token.hasContent run = false) : lexemesOf run = [] := by
  simp only [lexemesOf, List.map_eq_nil_iff, List.filter_eq_nil_iff]
  exact List.any_eq_false.1 blank

/-- Where no terminator is next, a list begins with a statement. -/
theorem listFrom_statement {input : ParserInput} {state : ParserState} {first : Lexeme}
    (found : input.lexemes[state.position]? = some first)
    (printed : first.placed.token ≠ .semicolon) (statement : ParserState → Parsed Statement) (fuel : Nat) :
    listFrom input statement (fuel + 1) true state =
      (statement state).elim (fun first after => (listFrom input statement fuel false after).elim
        (fun others finish => .done (first :: others) finish) .failed) .failed := by
  simp only [listFrom, found, beq_iff_eq, printed, if_false, Bool.not_true, Bool.false_eq_true]

/-- Tokens without a terminator that are read are one statement. -/
theorem exists_singleton_of_ofTokens (unterminated : ∀ placed ∈ run, placed.token ≠ .semicolon)
    (content : hasContent run = true) (read : ofTokens grammar run = .ok statements) :
    ∃ statement, statements = [statement] := by
  have printed (i : Nat) (lexeme : Lexeme)
      (found : (ParserInput.ofTokens grammar run).lexemes[i]? = some lexeme) :
      lexeme.placed.token ≠ .semicolon :=
    unterminated_lexemes unterminated i lexeme found
  obtain ⟨first, found⟩ : ∃ first, (ParserInput.ofTokens grammar run).lexemes[0]? = some first := by
    have filled := length_lexemesOf_pos content
    exact ⟨(lexemesOf run)[0], by simp [ParserInput.ofTokens, List.getElem?_eq_getElem filled]⟩
  have fuel : 2 * (ParserInput.ofTokens grammar run).fuel = 2 * (lexemesOf run).length + 1 + 1 :=
    rfl
  unfold ofTokens at read
  simp only [fuel] at read
  rw [listFrom_statement found (printed 0 first found)] at read
  cases began : statementAt (ParserInput.ofTokens grammar run) ⟨0, false⟩ with
  | failed error state => simp [began, Parsed.elim] at read
  | done statement state =>
    cases behind : listFrom (ParserInput.ofTokens grammar run)
        (statementAt (ParserInput.ofTokens grammar run)) (2 * (lexemesOf run).length + 1) false
        state with
    | failed error finish => simp [began, behind, Parsed.elim] at read
    | done others finish =>
      obtain rfl := eq_nil_of_listFrom printed behind
      simp only [began, behind, Parsed.elim] at read
      exact ⟨statement, (Except.ok.inj read).symm⟩

/-- Gaps alone make up no statement. -/
theorem ofTokens_blank (grammar : Grammar) (blank : hasContent run = false) :
    ofTokens grammar run = .ok [] := by
  have nothing := lexemesOf_blank blank
  have fuel : 2 * (ParserInput.ofTokens grammar run).fuel = 1 + 1 := by
    simp [ParserInput.ofTokens, nothing]
  have ended : (ParserInput.ofTokens grammar run).lexemes[0]? = none := by
    simp [ParserInput.ofTokens, nothing]
  simp only [ofTokens, fuel, listFrom, ended]

end Statement

namespace Script

/-- Tokens are read as they stand or else without their partition clauses; if they cannot be read
in either way, the first error stands. -/
theorem ofTokens_eq (grammar : Grammar) (tokens : List PlacedToken) :
    ofTokens grammar tokens =
      match Statement.ofTokens grammar tokens,
        Statement.ofTokens grammar (kept State.initial tokens) with
      | .ok statements, _ => .ok statements
      | .error _, .ok statements => .ok statements
      | .error error, .error _ => .error error := by
  unfold ofTokens
  cases whole : Statement.ofTokens grammar tokens with
  | ok statements => rfl
  | error error =>
    cases stripped : strip? tokens with
    | none => rw [kept_of_strip? stripped, whole]
    | some remaining =>
      rw [← strip?_eq_some stripped]
      cases again : Statement.ofTokens grammar remaining <;> simp only [again]

/-- What a run of tokens comes to: the statement that the parser reads in it as it stands, else the
one that it reads in it without its partition clauses, else the error that it stops at in the run
as it stands. -/
inductive Yields (grammar : Grammar) (run : List PlacedToken) :
    Except ParseError Statement → Prop where
  | whole {statement : Statement} (read : Statement.ofTokens grammar run = .ok [statement]) :
      Yields grammar run (.ok statement)
  | part {statement : Statement} {error : ParseError}
      (unread : Statement.ofTokens grammar run = .error error)
      (read : Statement.ofTokens grammar (kept State.initial run) = .ok [statement]) :
      Yields grammar run (.ok statement)
  | neither {error other : ParseError} (unread : Statement.ofTokens grammar run = .error error)
      (again : Statement.ofTokens grammar (kept State.initial run) = .error other) :
      Yields grammar run (.error error)

/-- The reader of runs gives what they come to. -/
theorem Yields.ofTokens_eq {outcome : Except ParseError Statement}
    (yields : Yields grammar run outcome) :
    Script.ofTokens grammar run = outcome.map fun statement => [statement] := by
  rw [Script.ofTokens_eq]
  cases yields with
  | whole read => rw [read]; rfl
  | part unread read => rw [unread, read]; rfl
  | neither unread again => rw [unread, again]; rfl

/-- A run with content comes to one statement or to an error. -/
theorem exists_yields (grammar : Grammar) (unterminated : ∀ placed ∈ run, placed.token ≠ .semicolon)
    (content : hasContent run = true) : ∃ outcome, Yields grammar run outcome := by
  cases whole : Statement.ofTokens grammar run with
  | ok statements =>
    obtain ⟨statement, rfl⟩ := Statement.exists_singleton_of_ofTokens unterminated content whole
    exact ⟨_, .whole whole⟩
  | error error =>
    cases part : Statement.ofTokens grammar (kept State.initial run) with
    | ok statements =>
      obtain ⟨statement, rfl⟩ := Statement.exists_singleton_of_ofTokens
        (unterminated_kept unterminated State.initial)
        ((hasContent_kept fresh_initial run).trans content) part
      exact ⟨_, .part whole part⟩
    | error other => exact ⟨_, .neither whole part⟩

/-- Gaps alone are read, as no statement. -/
theorem ofTokens_blank (grammar : Grammar) (blank : hasContent run = false) :
    ofTokens grammar run = .ok [] := by
  rw [ofTokens, Statement.ofTokens_blank grammar blank]

end Script

end TableCatalog
