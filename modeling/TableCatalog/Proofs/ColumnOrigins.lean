import TableCatalog.Proofs.Clauses
import TableCatalog.Proofs.ColumnOrigins.Elements

/-!
# Where columns come from

Every column of a table that a script defines is declared in the script: the reader of columns
has read it from the tokens of the script, and a separator or the parenthesis that closes the list
follows it. What a parser gives is told by `Gives`, through all that is read around a definition.
-/

namespace TableCatalog

namespace Statement

open TableDefinition (ColumnsFrom)
open TableCatalog.Parser (Gives)

variable {inner : Phrases} {source : ParserInput}

/-- That all columns of the table that a statement defines are read from the tokens of an input. -/
def ReadFrom (source : ParserInput) (statement : Statement) : Prop :=
  ∀ definition, statement = .createTable definition → ColumnsFrom source definition

/-- A statement that defines no table has no columns. -/
theorem gives_tableless {statement : Statement}
    (tableless : ∀ definition, statement ≠ .createTable definition) :
    Gives source (ReadFrom source) (pure statement) :=
  .pure fun definition same => absurd same (tableless definition)

theorem gives_spelled {parser : Parser String} : Gives source (ReadFrom source) (spelled parser) :=
  .behind fun _ => gives_tableless (by simp)

/-- A definition of a table gives its columns to the statement. -/
theorem gives_createTable {parser : Parser TableDefinition}
    (gives : Gives source (ColumnsFrom source) parser) :
    Gives source (ReadFrom source) (do pure (.createTable (← parser))) :=
  gives.bind fun _ read => .pure fun _ same => by cases same; exact read

/-- The columns of what is defined are read from the source. -/
theorem gives_definition (statements : Parser (List Statement)) :
    Gives source (ReadFrom source) (definition inner statements) := by
  unfold definition
  refine .behind fun grammar => .behind fun head => ?_
  repeat' with_reducible first
    | exact gives_spelled
    | exact gives_createTable (TableDefinition.gives_general _)
    | exact gives_createTable (TableDefinition.gives_external _)
    | exact .expected
    | refine .ite ?_ ?_
    | refine .behind fun _ => ?_
    | split

theorem gives_namedRemoval (span kind : String) :
    Gives source (ReadFrom source) (namedRemoval span kind) := by
  unfold namedRemoval
  iterate 6 refine .behind fun _ => ?_
  exact .ite .fail (.ite .fail (gives_tableless fun _ => by split <;> simp))

/-- Removals define no tables. -/
theorem gives_removal : Gives source (ReadFrom source) (removal inner) := by
  unfold removal routineRemoval attachedRemoval secretRemoval
  repeat' with_reducible first
    | exact gives_namedRemoval _ _
    | exact gives_tableless (by simp)
    | exact .expected
    | refine .ite ?_ ?_
    | refine .behind fun _ => ?_
    | split

theorem gives_query : Gives source (ReadFrom source) (query inner) :=
  .behind fun _ => gives_spelled

/-- What is explained defines no table. -/
theorem gives_explanationOf (statement : Parser Statement) (word : String) :
    Gives source (ReadFrom source) (explanationOf inner statement word) := by
  unfold explanationOf
  repeat' with_reducible first
    | exact gives_tableless (by simp)
    | exact .fail
    | refine .behind fun _ => ?_
    | split

/-- What is prepared defines no table. -/
theorem gives_preparation (statement : Parser Statement) :
    Gives source (ReadFrom source) (preparation inner statement) := by
  unfold preparation
  repeat' with_reducible first
    | exact gives_tableless (by simp)
    | refine .ite ?_ ?_
    | refine .behind fun _ => ?_

/-- The same for a statement by the word that it begins with. -/
theorem gives_ofKeyword (statement : Parser Statement) (statements : Parser (List Statement))
    (token : Option Lexeme) :
    Gives source (ReadFrom source) (ofKeyword inner statement statements token) := by
  unfold ofKeyword
  refine .behind fun grammar => ?_
  dsimp only
  split
  all_goals repeat' with_reducible first
    | exact gives_spelled
    | exact gives_query
    | exact gives_definition _
    | exact gives_removal
    | exact gives_explanationOf _ _
    | exact gives_preparation _
    | exact gives_tableless (by simp)
    | exact .expectedAt
    | exact .refusedHere
    | refine .ite ?_ ?_
    | refine .behind fun _ => ?_

/-- That what may be a statement is read from the tokens of an input if it is one. -/
def MaybeReadFrom (source : ParserInput) (statement? : Option Statement) : Prop :=
  ∀ statement, statement? = some statement → ReadFrom source statement

theorem gives_someOther {text : String} :
    Gives source (MaybeReadFrom source) (pure (some (.other text))) :=
  .pure fun _ shape _ same => by
    obtain rfl := Option.some.inj shape
    cases same

theorem gives_none : Gives source (MaybeReadFrom source) (pure none) :=
  .pure fun _ shape => by cases shape

/-- The same for the definitions that only Snowflake has. -/
theorem gives_snowflakeDefinition? :
    Gives source (MaybeReadFrom source) (snowflakeDefinition? inner) := by
  have table (head : String) : Gives source (MaybeReadFrom source) (do
      let table ← TableDefinition.snowflake inner head
      pure (some (.createTable table))) :=
    (TableDefinition.gives_snowflake head).bind fun table read => .pure fun _ shape _ same => by
      obtain rfl := Option.some.inj shape
      cases same
      exact read
  unfold snowflakeDefinition?
  repeat' with_reducible first
    | exact gives_none
    | exact gives_someOther
    | exact table _
    | refine .ite ?_ ?_
    | refine .behind fun _ => ?_

/-- Of the statements that a grammar has for itself, only Snowflake's definitions define tables. -/
theorem gives_special? : Gives source (MaybeReadFrom source) (special? inner) := by
  unfold special?
  repeat' with_reducible first
    | exact gives_none
    | exact gives_someOther
    | refine gives_snowflakeDefinition?.bind fun definition read => ?_
    | exact .pure read
    | refine .ite ?_ ?_
    | refine .behind fun _ => ?_
    | split

/-- The columns of a table that a statement defines are read from the tokens of the input. -/
theorem gives_parserOf (fuel : Nat) : Gives source (ReadFrom source) (parserOf inner fuel) := by
  cases fuel with
  | zero => exact .fail
  | succ fuel =>
    refine .nested (gives_special?.bind fun statement? read => ?_)
    split
    · exact .pure (read _ rfl)
    · refine .behind fun token => ?_
      split
      · exact gives_query
      · exact gives_ofKeyword _ _ _

variable {grammar : Grammar} {script : List Char} {tokens remaining : List PlacedToken}
  {input : ParserInput} {state finish : ParserState} {statement : Statement}
  {definition : TableDefinition} {column : ColumnDefinition}

/-- The statement at a position is read from the tokens of the input, with its places counted from
there. -/
theorem readFrom_of_readAt (read : readAt input state = .done statement finish) :
    ReadFrom { input with base := state.position } statement := by
  have attempt (size : Nat) {start after : ParserState}
      (read : (parserWithin size input.depth).run
        { input with base := state.position, fuel := size + 1 } start = .done statement after) :
      ReadFrom { input with base := state.position } statement := by
    have same : ParserInput.SameTokens { input with base := state.position, fuel := size + 1 }
        { input with base := state.position } :=
      ⟨rfl, rfl, rfl⟩
    exact gives_parserOf _ _ same start statement after read
  unfold readAt at read
  dsimp only at read
  split at read
  · cases second : (parserWithin input.lexemes.size input.depth).run
        { input with base := state.position, fuel := input.lexemes.size + 1 }
        ⟨state.position, false⟩ with
    | failed error after => simp [second, Parsed.astray] at read
    | done found after =>
      rw [second] at read
      obtain ⟨rfl, -⟩ := Parsed.done.inj read
      exact attempt _ second
  · exact attempt _ read

/-- The columns of the table that a statement at a position defines are declared in the script. -/
theorem declared_of_statementAt (scanned : Token.scan grammar script = .ok tokens)
    (language : input.grammar = grammar)
    (inside : ∀ lexeme ∈ input.lexemes, lexeme ∈ ParserInput.lexemesOf tokens)
    (read : statementAt input state = .done (.createTable definition) finish)
    (member : column ∈ definition.columns) :
    ∃ next, ColumnDefinition.Declared grammar script column next := by
  unfold statementAt at read
  cases found : readAt input state with
  | failed error after => simp [found, Parsed.elim] at read
  | done statement after =>
    rw [found] at read
    obtain ⟨shape, -⟩ := Parsed.done.inj read
    cases statement with
    | createTable whole =>
      obtain rfl := Statement.createTable.inj shape
      obtain ⟨original, listed, rfl⟩ := List.mem_map.1 member
      obtain ⟨source, position, lexeme, same, readIn, follows⟩ :=
        readFrom_of_readAt found whole rfl original listed
      refine ⟨lexeme.placed, ?_⟩
      rw [← same.locateIn_eq]
      exact .intro scanned (same.grammar.trans language) (by rwa [same.lexemes]) readIn follows
    | dropTable | explanation | other => cases shape

/-- Each statement of a list is read somewhere. -/
theorem exists_of_listFrom {reader : ParserState → Parsed Statement} {fuel : Nat}
    {delimited : Bool} {statements : List Statement}
    (read : listFrom input reader fuel delimited state = .done statements finish)
    (member : statement ∈ statements) :
    ∃ start after, reader start = .done statement after := by
  induction fuel generalizing delimited state statements finish with
  | zero =>
    obtain ⟨rfl, -⟩ := Parsed.done.inj read
    cases member
  | succ fuel ih =>
    rw [listFrom] at read
    split at read
    · obtain ⟨rfl, -⟩ := Parsed.done.inj read
      cases member
    split at read
    · exact ih read member
    split at read
    · split at read
      · obtain ⟨rfl, -⟩ := Parsed.done.inj read
        cases member
      · cases read
    · cases first : reader state with
      | failed error after => simp [first, Parsed.elim] at read
      | done found after =>
        cases others : listFrom input reader fuel false after with
        | failed error after => simp [first, others, Parsed.elim] at read
        | done rest last =>
          rw [first, Parsed.elim, others] at read
          obtain ⟨rfl, -⟩ := Parsed.done.inj read
          rcases List.mem_cons.1 member with rfl | later
          · exact ⟨state, after, first⟩
          · exact ih others later

/-- The columns of tables that some tokens of a script define are declared in the script. -/
theorem declared_of_ofTokens {statements : List Statement}
    (scanned : Token.scan grammar script = .ok tokens) (part : remaining ⊆ tokens)
    (read : ofTokens grammar remaining = .ok statements)
    (defines : .createTable definition ∈ statements) (member : column ∈ definition.columns) :
    ∃ next, ColumnDefinition.Declared grammar script column next := by
  unfold ofTokens at read
  dsimp only at read
  split at read
  · rename_i found state whole
    obtain rfl := Except.ok.inj read
    obtain ⟨start, after, first⟩ := exists_of_listFrom whole defines
    refine declared_of_statementAt scanned rfl (fun lexeme inside => ?_) first member
    have held : lexeme ∈ ParserInput.lexemesOf remaining := by
      simpa [ParserInput.ofTokens] using inside
    simp only [ParserInput.lexemesOf, List.mem_map, List.mem_filter] at held ⊢
    obtain ⟨placed, ⟨listed, solid⟩, shown⟩ := held
    exact ⟨placed, ⟨part listed, solid⟩, shown⟩
  · cases read

end Statement

namespace Script

/-- The columns of the tables that a script defines are declared in it, whether it is read as it
stands or without its partition clauses. -/
theorem exists_declared {grammar : Grammar} {script : List Char} {statements : List Statement}
    {definition : TableDefinition} {column : ColumnDefinition}
    (read : ofText grammar script = .ok statements)
    (defines : .createTable definition ∈ statements) (member : column ∈ definition.columns) :
    ∃ next, ColumnDefinition.Declared grammar script column next := by
  cases scanned : Token.scan grammar script with
  | error fault => simp [ofText_of_fault scanned] at read
  | ok tokens =>
    rw [ofText_of_scan scanned, ofTokens] at read
    split at read
    · rename_i found whole
      obtain rfl := Except.ok.inj read
      exact Statement.declared_of_ofTokens scanned (List.Subset.refl _) whole defines member
    · split at read
      · cases read
      · rename_i remaining stripped
        split at read
        · rename_i found whole
          obtain rfl := Except.ok.inj read
          obtain rfl := PartitionClause.strip?_eq_some stripped
          exact Statement.declared_of_ofTokens scanned
            (PartitionClause.kept_sublist _ tokens).subset whole defines member
        · cases read

end Script

end TableCatalog
