import TableCatalog.Statement.Parser
import TableCatalog.Token.Lexer
import TableCatalog.Token.PartitionClause

/-!
# Scripts

Reading a text or a run of tokens as statements. Where that fails, a second attempt
takes out the partition clauses of tables; if it fails too, the first error stands.
-/

namespace TableCatalog.Script

/-- The statements of a text, read as it stands. -/
def statements (grammar : Grammar) (text : List Char) : Except ParseError (List Statement) :=
  match Token.scan grammar text with
  | .ok tokens => Statement.ofTokens grammar tokens
  | .error fault => .error (.lexical fault)

/-- The statements of tokens from which partition clauses may have to be taken out. -/
def ofTokens (grammar : Grammar) (tokens : List PlacedToken) :
    Except ParseError (List Statement) :=
  match Statement.ofTokens grammar tokens with
  | .ok statements => .ok statements
  | .error error =>
    match PartitionClause.strip? tokens with
    | none => .error error
    | some remaining =>
      match Statement.ofTokens grammar remaining with
      | .ok statements => .ok statements
      | .error _ => .error error

/-- The statements of tokens without their partition clauses; none if they have no such clause
or make up no statements without it either. -/
def withoutClauses? (grammar : Grammar) (tokens : List PlacedToken) : Option (List Statement) :=
  match PartitionClause.strip? tokens with
  | none => none
  | some remaining => (Statement.ofTokens grammar remaining).toOption

/-- The statements of a text from which partition clauses may have to be taken out. For the
second attempt the text is scanned once more. -/
def ofText (grammar : Grammar) (text : List Char) : Except ParseError (List Statement) :=
  match statements grammar text with
  | .ok statements => .ok statements
  | .error error =>
    match Token.scan grammar text with
    | .error _ => .error error
    | .ok tokens =>
      match withoutClauses? grammar tokens with
      | some statements => .ok statements
      | none => .error error

/-- A text that scans is read as it stands exactly as its tokens are. -/
theorem statements_of_scan {grammar : Grammar} {text : List Char} {tokens : List PlacedToken}
    (scanned : Token.scan grammar text = .ok tokens) :
    statements grammar text = Statement.ofTokens grammar tokens := by
  simp only [statements, scanned]

/-- A text that scans is read as its tokens are. -/
theorem ofText_of_scan {grammar : Grammar} {text : List Char} {tokens : List PlacedToken}
    (scanned : Token.scan grammar text = .ok tokens) :
    ofText grammar text = ofTokens grammar tokens := by
  unfold ofText ofTokens
  rw [statements_of_scan scanned]
  cases Statement.ofTokens grammar tokens with
  | ok statements => rfl
  | error error =>
    simp only [scanned, withoutClauses?]
    cases PartitionClause.strip? tokens with
    | none => rfl
    | some remaining =>
      -- The first error stands in both, whatever the second attempt has come to.
      cases again : Statement.ofTokens grammar remaining with
      | ok statements => simp only [again, Except.toOption]
      | error other => simp only [again, Except.toOption]

/-- A text that does not scan is not read. -/
theorem ofText_of_fault {grammar : Grammar} {text : List Char} {fault : LexicalFault}
    (failed : Token.scan grammar text = .error fault) :
    ofText grammar text = .error (.lexical fault) := by
  simp only [ofText, statements, failed]

end TableCatalog.Script
