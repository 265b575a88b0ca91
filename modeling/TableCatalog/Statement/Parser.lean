import TableCatalog.Statement.Copy
import TableCatalog.Statement.Declaration
import TableCatalog.Statement.Definition
import TableCatalog.Statement.Session
import TableCatalog.Statement.Stage
import TableCatalog.Statement.Upkeep

/-!
# Reading statements

Here the readers of phrases are tied together, each level of them over the level
below. A phrase inside a phrase comes after at least one token of the outer one or one
level of nesting further in, so that as many levels as there are tokens and levels of
nesting are enough.
-/

namespace TableCatalog

/-- Readers for phrases that hold at most `count` phrases inside each other. -/
def Phrases.level : Nat → Phrases
  | 0 => Phrases.exhausted
  | count + 1 => {
      expr := fun bound => Parser.delay fun _ => Expr.parserAbove (level count) bound
      operand := Parser.delay fun _ => Expr.operand (level count)
      query := Parser.delay fun _ => Query.parser (level count)
      joins := Parser.delay fun _ => Query.joins (level count)
      column := Parser.delay fun _ => do
        pure (← ColumnDefinition.parser (level count)).render
      change := fun word =>
        if word == "UPDATE" then Parser.delay fun _ => Statement.update (level count)
        else Parser.delay fun _ => Statement.insertion (level count) word }

namespace Statement

variable (inner : Phrases)

/-- A statement that is known by its spelling alone. -/
def spelled (parser : Parser String) : Parser Statement := do
  pure (.other (← parser))

/-- A query as a statement, from its first token on. -/
def query : Parser Statement := do
  Parser.retreat
  spelled inner.query

/-- An option of an explanation, in parentheses. -/
def explanationOption : Parser String := do
  let name ← Identifier.parser
  if (← Parser.seesSymbol ",") || (← Parser.seesSymbol ")") then pure name.render
  else pure (name.render ++ " " ++ (← inner.exprText))

/-- How an explanation is to be given. -/
def explanationManner (word : String) : Parser String := do
  let grammar ← Parser.grammar
  if word == "EXPLAIN" && [Grammar.postgres, .duckDb, .generic].contains grammar &&
      (← Parser.seesSymbol "(") then
    let options ← Parser.parenthesized (Parser.separated (explanationOption inner))
    pure ("(" ++ commaList options ++ ") ")
  else if ← Parser.keywords ["QUERY", "PLAN"] then pure "QUERY PLAN "
  else if ← Parser.keyword "ESTIMATE" then pure "ESTIMATE "
  else
    let analyze := if ← Parser.keyword "ANALYZE" then "ANALYZE " else ""
    let verbose := if ← Parser.keyword "VERBOSE" then "VERBOSE " else ""
    let format ←
      if ← Parser.keyword "FORMAT" then
        let token ← Parser.next
        let key := token.elim "" (·.key)
        if ["TEXT", "GRAPHVIZ", "JSON"].contains key then pure ("FORMAT " ++ key ++ " ")
        else Parser.expectedAt "fileformat" token
      else pure ""
    pure (analyze ++ verbose ++ format)

/-- An explanation of a statement or, where no statement can be read, a description of
a table. -/
def explanationOf (statement : Parser Statement) (word : String) : Parser Statement := do
  let manner ← explanationManner inner word
  match ← Parser.optional statement with
  | some (.explanation _) =>
    Parser.fail (.refused "Explain must be root of the plan" Location.none)
  | some statement => pure (.explanation (word ++ " " ++ manner ++ statement.render))
  | none =>
    let format := (← Parser.oneOf ["EXTENDED", "FORMATTED"]).elim "" (· ++ " ")
    let table ← Parser.keywordIn [.clickHouse, .snowflake] "TABLE"
    let name ← ObjectName.parser
    pure (.explanation (word ++ " " ++ format ++ (if table then "TABLE " else "") ++ name.render))

/-- A statement under a name, after `PREPARE`. -/
def preparation (statement : Parser Statement) : Parser Statement := do
  let name ← Identifier.parser
  let types ←
    if ← Parser.symbol "(" then
      let types ← Parser.separated (DataType.parserOf inner.column)
      Parser.expectSymbol ")"
      pure ("(" ++ commaList (types.map DataType.render) ++ ") ")
    else pure ""
  Parser.expectKeyword "AS"
  let statement ← statement
  pure (.other ("PREPARE " ++ name.render ++ " " ++ types ++ "AS " ++ statement.render))

/-- The words that a definition begins with. -/
def definitionHead : Parser DefinitionHead := do
  let orReplace ← Parser.keywords ["OR", "REPLACE"]
  let orAlter ← Parser.keywords ["OR", "ALTER"]
  let local' ← Parser.keyword "LOCAL"
  let global ← Parser.keyword "GLOBAL"
  let transient ← Parser.keyword "TRANSIENT"
  let temporary := (← Parser.oneOf ["TEMP", "TEMPORARY"]).isSome
  let persistent ← Parser.keywordIn [.duckDb] "PERSISTENT"
  let manner ← viewManner
  pure {
    orReplace, orAlter, transient, temporary, persistent, manner
    global := if global then some true else if local' then some false else none }

/-- The definition of an object, after `CREATE`; `statements` reads what procedures do. -/
def definition (statements : Parser (List Statement)) : Parser Statement := do
  let grammar ← Parser.grammar
  let head ← definitionHead
  let hasTriggers := grammar == .postgres || grammar == .generic
  if ← Parser.keyword "TABLE" then
    pure (.createTable (← TableDefinition.general inner head.ofTable))
  else if (← Parser.sees "MATERIALIZED") || (← Parser.sees "VIEW") then spelled (view inner head)
  else if ← Parser.keyword "POLICY" then spelled (policy inner)
  else if ← Parser.keyword "EXTERNAL" then
    Parser.expectKeyword "TABLE"
    pure (.createTable
      (← TableDefinition.external inner ("CREATE " ++ head.replacing ++ "EXTERNAL TABLE ")))
  else if ← Parser.sees "FUNCTION" then spelled (function inner head)
  else if ← Parser.sees "TRIGGER" then
    if hasTriggers then
      Parser.advance
      spelled (trigger inner head false)
    else Parser.expected "an object type after CREATE"
  else if ← Parser.keywords ["CONSTRAINT", "TRIGGER"] then
    if hasTriggers then spelled (trigger inner head true)
    else
      Parser.retreat
      Parser.expected "an object type after CREATE"
  else if ← Parser.sees "MACRO" then
    if grammar == .duckDb || grammar == .generic then
      Parser.advance
      spelled (queryMacro inner head)
    else Parser.expected "an object type after CREATE"
  else if ← Parser.keyword "SECRET" then spelled (secret head)
  else if head.orReplace then
    Parser.expected
      "[EXTERNAL] TABLE or [MATERIALIZED] VIEW or FUNCTION after CREATE OR REPLACE"
  else if ← Parser.keywords ["UNIQUE", "INDEX"] then spelled (index inner true)
  else
    match ← Parser.oneOf ["EXTENSION", "INDEX", "VIRTUAL", "SCHEMA", "DATABASE", "ROLE", "SEQUENCE",
        "TYPE", "PROCEDURE"] with
    | some "EXTENSION" => spelled extension
    | some "INDEX" => spelled (index inner false)
    | some "VIRTUAL" => spelled virtualTable
    | some "SCHEMA" => spelled schema
    | some "DATABASE" => spelled database
    | some "ROLE" => spelled role
    | some "SEQUENCE" => spelled (sequence inner head)
    | some "TYPE" => spelled (type inner)
    | some _ => spelled (procedure inner head statements)
    | none => Parser.expected "an object type after CREATE"

/-- The definition of a table or a stage in Snowflake's grammar. For any other object
the words before it are given back, the lasting kinds of tables not counted. -/
def snowflakeDefinition? : Parser (Option Statement) := do
  if ← Parser.keyword "CREATE" then
    let orReplace ← Parser.keywords ["OR", "REPLACE"]
    let reach := (← Parser.oneOf ["LOCAL", "GLOBAL"]).elim "" (· ++ " ")
    let kind ← Parser.oneOf ["TEMP", "TEMPORARY", "VOLATILE", "TRANSIENT"]
    let temporary := kind == some "TEMP" || kind == some "TEMPORARY"
    let kindText := if temporary then "TEMPORARY " else kind.elim "" (· ++ " ")
    let replacing := if orReplace then "OR REPLACE " else ""
    if ← Parser.keyword "STAGE" then
      let lasting := if temporary then "TEMPORARY " else ""
      pure (some (.other (← Stage.definition ("CREATE " ++ replacing ++ lasting))))
    else if ← Parser.keyword "TABLE" then
      let table ← TableDefinition.snowflake inner
        ("CREATE " ++ replacing ++ reach ++ kindText ++ "TABLE ")
      pure (some (.createTable table))
    else
      Parser.retreat
      if orReplace then
        Parser.retreat
        Parser.retreat
      if temporary then Parser.retreat
      pure none
  else pure none

/-- A statement in the form that one grammar has for itself, if it has one. -/
def special? : Parser (Option Statement) := do
  match ← Parser.grammar with
  | .snowflake =>
    match ← snowflakeDefinition? inner with
    | some definition => pure (some definition)
    | none =>
      if ← Parser.keywords ["COPY", "INTO"] then pure (some (.other (← Stage.copying)))
      else
        match ← Parser.oneOf ["LIST", "LS", "REMOVE", "RM"] with
        | some word =>
          let shown := if word == "LIST" || word == "LS" then "LIST" else "REMOVE"
          pure (some (.other (← Stage.files shown)))
        | none => pure none
  | .mysql =>
    if ← Parser.keywords ["LOCK", "TABLES"] then
      let locks ← Parser.separated tableLock
      pure (some (.other ("LOCK TABLES " ++ commaList locks)))
    else if ← Parser.keywords ["UNLOCK", "TABLES"] then pure (some (.other "UNLOCK TABLES"))
    else pure none
  | .postgres =>
    match ← Parser.optional enumerationHead with
    | some name => pure (some (.other (← enumeration name)))
    | none => pure none
  | .sqlite =>
    if ← Parser.sees "REPLACE" then pure (some (.other (← insertion inner "INSERT"))) else pure none
  | _ => pure none

/-- A statement that begins with a keyword; `statement` and `statements` read the ones
inside it. -/
def ofKeyword (statement : Parser Statement) (statements : Parser (List Statement))
    (token : Option Lexeme) : Parser Statement := do
  let grammar ← Parser.grammar
  let grammarIn (grammars : List Grammar) : Bool := grammars.contains grammar
  let unknown : Parser Statement := Parser.expectedAt "an SQL statement" token
  let onlyIn (grammars : List Grammar) (parser : Parser String) : Parser Statement :=
    if grammarIn grammars then spelled parser else unknown
  let key := token.elim "" (·.key)
  match key with
  | "SELECT" | "WITH" | "VALUES" => query inner
  | "CREATE" => definition inner statements
  | "DROP" => removal inner
  | "ALTER" => spelled (alteration inner)
  | "INSERT" => spelled (insertion inner "INSERT")
  | "REPLACE" =>
    if grammarIn [.mysql, .generic] then spelled (insertion inner "REPLACE")
    else Parser.refusedHere "Unsupported statement REPLACE"
  | "UPDATE" => spelled (update inner)
  | "DELETE" => spelled (deletion inner)
  | "MERGE" => spelled (merge inner)
  | "TRUNCATE" => spelled (truncation inner)
  | "EXPLAIN" | "DESCRIBE" | "DESC" => explanationOf inner statement key
  | "ANALYZE" => spelled (analysis inner)
  | "GRANT" => spelled grant
  | "REVOKE" => spelled revocation
  | "SET" => spelled (setting inner)
  | "SHOW" => spelled (showing inner)
  | "USE" => spelled use
  | "START" =>
    Parser.expectKeyword "TRANSACTION"
    spelled do pure ("START TRANSACTION" ++ (← transactionModes))
  | "BEGIN" => spelled beginning
  | "END" => spelled ending
  | "COMMIT" => spelled do pure ("COMMIT" ++ (← chained))
  | "ROLLBACK" => spelled rollback
  | "RAISERROR" => spelled (raising inner)
  | "SAVEPOINT" => spelled do pure ("SAVEPOINT " ++ (← Identifier.parser).render)
  | "RELEASE" =>
    let _ ← Parser.keyword "SAVEPOINT"
    spelled do pure ("RELEASE SAVEPOINT " ++ (← Identifier.parser).render)
  | "ASSERT" => spelled (assertion inner)
  | "DEALLOCATE" =>
    let prepared := if ← Parser.keyword "PREPARE" then "PREPARE " else ""
    spelled do pure ("DEALLOCATE " ++ prepared ++ (← Identifier.parser).render)
  | "EXECUTE" | "EXEC" => spelled (execution inner)
  | "PREPARE" => preparation inner statement
  | "CALL" => spelled (calling inner)
  | "COPY" => spelled (Copy.parser inner)
  | "CLOSE" =>
    if ← Parser.keyword "ALL" then pure (.other "CLOSE ALL")
    else spelled do pure ("CLOSE " ++ (← Identifier.parser).render)
  | "DECLARE" => spelled (Declaration.parser inner)
  | "FETCH" => spelled Declaration.fetching
  | "DISCARD" => spelled discarding
  | "CACHE" => spelled (caching inner)
  | "UNCACHE" => spelled uncaching
  | "MSCK" => spelled partitionCheck
  | "KILL" => spelled killing
  | "FLUSH" => spelled flushing
  | "ATTACH" => spelled (attaching inner)
  | "DETACH" => onlyIn [.duckDb, .generic] detaching
  | "PRAGMA" => spelled pragma
  | "UNLOAD" => spelled (unloading inner)
  | "RENAME" => spelled tablesRenamed
  | "INSTALL" => onlyIn [.duckDb, .generic] do pure ("INSTALL " ++ (← Identifier.parser).render)
  | "LOAD" => spelled (loading inner)
  | "OPTIMIZE" => onlyIn [.clickHouse, .generic] (optimization inner)
  | "COMMENT" => onlyIn [.postgres, .generic, .snowflake] commenting
  | "LISTEN" => onlyIn [.postgres] do pure ("LISTEN " ++ (← Identifier.parser).render)
  | "UNLISTEN" =>
    onlyIn [.postgres] do
      if ← Parser.symbol "*" then pure "UNLISTEN *"
      else pure ("UNLISTEN " ++ (← Identifier.parser).render)
  | "NOTIFY" => onlyIn [.postgres] notifying
  | _ => unknown

/-- Statements with terminators between them, at most `fuel` of them, each read by `statement`
from a position on. The list ends at the end of the text or before the word `END` after a
statement; `delimited` tells that a terminator was the last thing before the position. -/
def listFrom (input : ParserInput) (statement : ParserState → Parsed Statement) :
    Nat → Bool → ParserState → Parsed (List Statement)
  | 0, _, state => .done [] state
  | fuel + 1, delimited, state =>
    match input.lexemes[state.position]? with
    | none => .done [] state
    | some found =>
      if found.placed.token == .semicolon then
        listFrom input statement fuel true { state with position := state.position + 1 }
      else if !delimited then
        if found.key == "END" then .done [] state
        else .failed (.expected "end of statement" (some found.placed)) state
      else
        (statement state).elim (fun first state =>
          (listFrom input statement fuel false state).elim
            (fun rest state => .done (first :: rest) state) .failed) .failed

/-- The errors in a list of statements are laid to places of the input if those in statements
are. -/
theorem laid_listFrom {input : ParserInput} {statement : ParserState → Parsed Statement}
    (laid : ∀ state, (statement state).Laid input) (fuel : Nat) (delimited : Bool)
    (state : ParserState) : (listFrom input statement fuel delimited state).Laid input := by
  induction fuel generalizing delimited state with
  | zero => trivial
  | succ fuel ih =>
    rw [listFrom]
    cases found : input.lexemes[state.position]? with
    | none => trivial
    | some lexeme =>
      dsimp only
      split
      · exact ih true _
      · split
        · split
          · trivial
          · exact .token (Array.mem_of_getElem? found)
        · refine (laid state).elim (fun first state => ?_) fun e state marks => marks
          exact (ih false state).elim (fun rest state => trivial) fun e state marks => marks

/-- Statements inside another one, with terminators between them. -/
def listOf (statement : Parser Statement) : Parser (List Statement) :=
  Parser.straying (fun input => listFrom input (statement.run input) (2 * input.fuel) true)
    fun input state => laid_listFrom (statement.laid input) _ _ state

/-- A statement that holds at most `fuel` others inside each other. -/
def parserOf : Nat → Parser Statement
  | 0 => Parser.fail .nestedTooDeeply
  | fuel + 1 =>
    Parser.nested do
      match ← special? inner with
      | some statement => pure statement
      | none =>
        let token ← Parser.next
        let statement := Parser.delay fun _ => parserOf fuel
        match token with
        | some ⟨⟨.openParen, _, _⟩, _⟩ => query inner
        | _ => ofKeyword inner statement (listOf statement) token

/-- A statement of at most `size` tokens. -/
def parserWithin (size depth : Nat) : Parser Statement :=
  parserOf (Phrases.level (size + 2 * depth + 9)) (depth + 1)

/-- The statement that begins at a position, its places told by the numbers of its tokens.
It is read once more without a bound if it goes on behind its end. -/
def readAt (input : ParserInput) (state : ParserState) : Parsed Statement :=
  let attempt (size : Nat) : Parsed Statement :=
    (parserWithin size input.depth).run { input with base := state.position, fuel := size + 1 }
      ⟨state.position, false⟩
  let bounded := attempt (input.width input.lexemes.size state.position)
  if bounded.state.strayed then (attempt input.lexemes.size).astray else bounded

/-- The statement that begins at a position. -/
def statementAt (input : ParserInput) (state : ParserState) : Parsed Statement :=
  (readAt input state).elim
    (fun statement after =>
      let count := after.position - state.position
      .done (statement.relocate ({ input with base := state.position }.locateIn count)) after)
    .failed

/-- The statements that tokens make up, or why they make up none. -/
def ofTokens (grammar : Grammar) (tokens : List PlacedToken) :
    Except ParseError (List Statement) :=
  let input := ParserInput.ofTokens grammar tokens
  match listFrom input (statementAt input) (2 * input.fuel) true ⟨0, false⟩ with
  | .done statements _ => .ok statements
  | .failed error _ => .error error

end Statement

end TableCatalog
