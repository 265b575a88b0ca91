import TableCatalog.Statement.Removal

/-!
# Statements that alter objects

Changes to tables, views, indexes, roles and policies, read for their canonical
spelling.
-/

namespace TableCatalog.Statement

variable (inner : Phrases)

/-- Where a new column goes in a table. -/
def columnPosition : Parser String := do
  if !([Grammar.mysql, .generic].contains (← Parser.grammar)) then pure ""
  else if ← Parser.keyword "FIRST" then pure " FIRST"
  else if ← Parser.keyword "AFTER" then pure (" AFTER " ++ (← Identifier.parser).render)
  else pure ""

/-- The expressions that tell a partition, in parentheses. -/
def partitionKey : Parser String := do
  let keys ← Parser.parenthesized inner.exprTexts
  pure ("(" ++ commaList keys ++ ")")

/-- A selection of columns that a table keeps beside its rows, after its keyword. -/
def projection : Parser String := do
  let guarded ← ifNotExists
  let name ← Identifier.parser
  let selection ← Parser.parenthesized do
    Parser.expectKeyword "SELECT"
    let list ← Query.selectList inner
    let groups ← Query.groups inner
    pure ("SELECT " ++ list ++ groups ++ (← Query.order inner))
  pure ("ADD PROJECTION " ++ guarded ++ name.render ++ " (" ++ selection ++ ")")

/-- A change to the stored rows of a projection, after `word` and its keyword. -/
def projectionChange (word : String) : Parser String := do
  let guarded ← ifExists
  let name ← Identifier.parser
  let partition ← Parser.clause ["IN", "PARTITION"] do pure (← Identifier.parser).render
  pure (word ++ " PROJECTION" ++ guarded ++ " " ++ name.render ++ partition)

/-- An addition to a table, after its keyword. -/
def addition : Parser String := do
  let grammar ← Parser.grammar
  match ← Constraint.parser? inner with
  | some constraint => pure ("ADD " ++ constraint)
  | none =>
    if ← Parser.keywordIn [.clickHouse, .generic] "PROJECTION" then return ← projection inner
    let guarded ← Parser.keywords ["IF", "NOT", "EXISTS"]
    let partitions ← Parser.many do
      if ← Parser.keyword "PARTITION" then pure (some (" PARTITION " ++ (← partitionKey inner)))
      else pure none
    if !partitions.isEmpty then
      pure ("ADD" ++ (if guarded then " IF NOT EXISTS" else "") ++ String.join partitions)
    else
      let column := if ← Parser.keyword "COLUMN" then " COLUMN" else ""
      let guarded ←
        if [Grammar.postgres, .bigQuery, .duckDb, .generic].contains grammar then
          let again ← Parser.keywords ["IF", "NOT", "EXISTS"]
          pure (again || guarded)
        else pure false
      let definition ← ColumnDefinition.parser inner
      let position ← columnPosition
      pure ("ADD" ++ column ++ (if guarded then " IF NOT EXISTS" else "") ++ " " ++
        definition.render ++ position)

/-- A renaming in a table, after its keyword. -/
def renamed : Parser String := do
  let pair (head : String) : Parser String := do
    let old ← Identifier.parser
    Parser.expectKeyword "TO"
    pure (head ++ old.render ++ " TO " ++ (← Identifier.parser).render)
  if ← Parser.keywordIn [.postgres] "CONSTRAINT" then
    pair "RENAME CONSTRAINT "
  else if ← Parser.keyword "TO" then pure ("RENAME TO " ++ (← ObjectName.parser).render)
  else
    let _ ← Parser.keyword "COLUMN"
    pair "RENAME COLUMN "

/-- Row level security, rules and triggers, switched on or off after the keyword. -/
def switching (word : String) : Parser String := do
  let named (words : List String) : Parser (Option String) := do
    if ← Parser.keywords words then
      let name ← Identifier.parser
      pure (some (word ++ " " ++ " ".intercalate words ++ " " ++ name.render))
    else pure none
  let firstOf : List (List String) → Parser (Option String) :=
    fun choices => choices.foldlM (fun found words =>
      if found.isSome then pure found else named words) none
  if ← Parser.keywords ["ROW", "LEVEL", "SECURITY"] then pure (word ++ " ROW LEVEL SECURITY")
  else if word == "DISABLE" then
    match ← firstOf [["RULE"], ["TRIGGER"]] with
    | some text => pure text
    | none => Parser.expected "ROW LEVEL SECURITY, RULE, or TRIGGER after DISABLE"
  else
    match ← firstOf [["ALWAYS", "RULE"], ["ALWAYS", "TRIGGER"], ["REPLICA", "RULE"],
        ["REPLICA", "TRIGGER"], ["RULE"], ["TRIGGER"]] with
    | some text => pure text
    | none => Parser.expected "ALWAYS, REPLICA, ROW LEVEL SECURITY, RULE, or TRIGGER after ENABLE"

/-- A removal from a table, after its keyword. -/
def subtraction : Parser String := do
  let grammar ← Parser.grammar
  let guard : Parser String := do
    pure (if ← Parser.keywords ["IF", "EXISTS"] then "IF EXISTS " else "")
  if ← Parser.keywords ["IF", "EXISTS", "PARTITION"] then
    pure ("DROP IF EXISTS PARTITION " ++ (← partitionKey inner))
  else if ← Parser.keyword "PARTITION" then pure ("DROP PARTITION " ++ (← partitionKey inner))
  else if ← Parser.keyword "CONSTRAINT" then
    let guarded ← guard
    let name ← Identifier.parser
    pure ("DROP CONSTRAINT " ++ guarded ++ name.render ++ (← dropBehavior))
  else
    let key ← Parser.keywords ["PRIMARY", "KEY"]
    if key && (grammar == .mysql || grammar == .generic) then pure "DROP PRIMARY KEY"
    else
      let projection ← Parser.keyword "PROJECTION"
      if projection && (grammar == .clickHouse || grammar == .generic) then
        let guarded ← ifExists
        pure ("DROP PROJECTION" ++ guarded ++ " " ++ (← Identifier.parser).render)
      else if ← Parser.keywords ["CLUSTERING", "KEY"] then pure "DROP CLUSTERING KEY"
      else
        let _ ← Parser.keyword "COLUMN"
        let guarded ← guard
        let name ← Identifier.parser
        pure ("DROP COLUMN " ++ guarded ++ name.render ++ (← dropBehavior))

/-- A new type and new options for a column, after its names. -/
def redefinition (head : String) : Parser String := do
  let type ← DataType.parserOf inner.column
  let options ← Parser.many (ColumnDefinition.option? inner)
  let position ← columnPosition
  pure (head ++ " " ++ type.render ++
    String.join (options.map fun option => " " ++ option.render) ++ position)

/-- A change to one property of a column, after its keyword. -/
def columnAlteration : Parser String := do
  let postgres := (← Parser.grammar) == .postgres
  let _ ← Parser.keyword "COLUMN"
  let name ← Identifier.parser
  let head := "ALTER COLUMN " ++ name.render
  if ← Parser.keywords ["SET", "NOT", "NULL"] then pure (head ++ " SET NOT NULL")
  else if ← Parser.keywords ["DROP", "NOT", "NULL"] then pure (head ++ " DROP NOT NULL")
  else if ← Parser.keywords ["SET", "DEFAULT"] then
    pure (head ++ " SET DEFAULT " ++ (← inner.exprText))
  else if ← Parser.keywords ["DROP", "DEFAULT"] then pure (head ++ " DROP DEFAULT")
  else
    let typed ← Parser.keywords ["SET", "DATA", "TYPE"]
    let short ← Parser.onlyIf (postgres && !typed) (Parser.keyword "TYPE")
    if typed || short then
      let type ← DataType.parserOf inner.column
      let using' ← if postgres then Parser.clause ["USING"] inner.exprText else pure ""
      pure (head ++ " SET DATA TYPE " ++ type.render ++ using')
    else if ← Parser.keywords ["ADD", "GENERATED"] then
      let kind ←
        if ← Parser.keyword "ALWAYS" then pure " ALWAYS"
        else if ← Parser.keywords ["BY", "DEFAULT"] then pure " BY DEFAULT"
        else pure ""
      Parser.expectKeywords ["AS", "IDENTITY"]
      let options ←
        if ← Parser.symbol "(" then
          let options ← sequenceOptions
          Parser.expectSymbol ")"
          pure (" (" ++ options ++ " )")
        else pure ""
      pure (head ++ " ADD GENERATED" ++ kind ++ " AS IDENTITY" ++ options)
    else if postgres then
      Parser.expected
        "SET/DROP NOT NULL, SET DEFAULT, SET DATA TYPE, or ADD GENERATED after ALTER COLUMN"
    else Parser.expected "SET/DROP NOT NULL, SET DEFAULT, or SET DATA TYPE after ALTER COLUMN"

/-- The owner of an object. -/
def owner : Parser String := do
  match ← Parser.oneOf ["CURRENT_USER", "CURRENT_ROLE", "SESSION_USER"] with
  | some word => pure word
  | none =>
    let owner ← Parser.reworded Identifier.parser
      "Expected: CURRENT_USER, CURRENT_ROLE, SESSION_USER or identifier after OWNER TO. "
    pure owner.render

/-- A part or a partition of a table. -/
def partOrPartition : Parser String := do
  let word ← Parser.expectOneOf ["PART", "PARTITION"]
  pure (word ++ " " ++ (← inner.exprText))

/-- A change to the parts in which a table is stored; none if something else is next. -/
def partChange? : Parser (Option String) := do
  match ← Parser.oneOf ["ATTACH", "DETACH", "FREEZE", "UNFREEZE"] with
  | none => pure none
  | some word =>
    let part ← partOrPartition inner
    let name ←
      if word.endsWith "FREEZE" then
        if ← Parser.keyword "WITH" then
          Parser.expectKeyword "NAME"
          pure (" WITH NAME " ++ (← Identifier.parser).render)
        else pure ""
      else pure ""
    pure (some (word ++ " " ++ part ++ name))

/-- A change to the order or the properties of a table. -/
def layoutChange : Parser String := do
  if ← Parser.keywords ["CLUSTER", "BY"] then pure ("CLUSTER BY " ++ (← partitionKey inner))
  else if ← Parser.keywords ["SUSPEND", "RECLUSTER"] then pure "SUSPEND RECLUSTER"
  else if ← Parser.keywords ["RESUME", "RECLUSTER"] then pure "RESUME RECLUSTER"
  else
    match ← keyedOptions inner ["SET", "TBLPROPERTIES"] with
    | some options => pure ("SET TBLPROPERTIES(" ++ commaList options ++ ")")
    | none =>
      Parser.expected "ADD, RENAME, PARTITION, SWAP, DROP, or SET TBLPROPERTIES after ALTER TABLE"

/-- A change to a table that begins with none of the first few words. -/
def laterOperation : Parser String := do
  match ← Parser.oneOf ["DROP", "PARTITION", "CHANGE", "MODIFY", "ALTER", "SWAP"] with
  | some "DROP" => subtraction inner
  | some "PARTITION" =>
    let before ← partitionKey inner
    Parser.expectKeywords ["RENAME", "TO", "PARTITION"]
    pure ("PARTITION " ++ before ++ " RENAME TO PARTITION " ++ (← partitionKey inner))
  | some "CHANGE" =>
    let _ ← Parser.keyword "COLUMN"
    let old ← Identifier.parser
    let new ← Identifier.parser
    redefinition inner ("CHANGE COLUMN " ++ old.render ++ " " ++ new.render)
  | some "MODIFY" =>
    let _ ← Parser.keyword "COLUMN"
    let name ← Identifier.parser
    redefinition inner ("MODIFY COLUMN " ++ name.render)
  | some "ALTER" => columnAlteration inner
  | some _ =>
    Parser.expectKeyword "WITH"
    pure ("SWAP WITH " ++ (← ObjectName.parser).render)
  | none =>
    let grammar ← Parser.grammar
    if ← Parser.onlyIf (grammar == .postgres || grammar == .generic)
        (Parser.keywords ["OWNER", "TO"]) then
      pure ("OWNER TO " ++ (← owner))
    else
      let change ←
        if grammar == .clickHouse || grammar == .generic then partChange? inner else pure none
      match change with
      | some change => pure change
      | none => layoutChange inner

/-- One change to a table. The words for a change to a projection are read in every
grammar, even where they mean nothing. -/
def tableOperation : Parser String := do
  let projections ← Parser.grammarIn [.clickHouse, .generic]
  match ← Parser.oneOf ["ADD", "RENAME", "DISABLE", "ENABLE"] with
  | some "ADD" => addition inner
  | some "RENAME" => renamed
  | some word => switching word
  | none =>
    if (← Parser.keywords ["CLEAR", "PROJECTION"]) && projections then projectionChange "CLEAR"
    else
      let materialized ← Parser.keywords ["MATERIALIZE", "PROJECTION"]
      if materialized && projections then projectionChange "MATERIALIZE"
      else laterOperation inner

/-- Changes to a table, after the keywords. -/
def tableAlteration : Parser String := do
  let guarded := if ← Parser.keywords ["IF", "EXISTS"] then "IF EXISTS " else ""
  let only := if ← Parser.keyword "ONLY" then "ONLY " else ""
  let name ← ObjectName.parser
  let cluster ←
    if ← Parser.keywords ["ON", "CLUSTER"] then
      pure ("ON CLUSTER " ++ (← Identifier.parser).render ++ " ")
    else pure ""
  let operations ← Parser.separated (tableOperation inner)
  let location ←
    if ← Parser.keyword "LOCATION" then pure (" LOCATION " ++ (← Identifier.parser).render)
    else if ← Parser.keywords ["SET", "LOCATION"] then
      pure (" SET LOCATION " ++ (← Identifier.parser).render)
    else pure ""
  pure ("ALTER TABLE " ++ guarded ++ only ++ name.render ++ " " ++ cluster ++
    commaList operations ++ location)

/-- The new body of a view, after the keywords. -/
def viewAlteration : Parser String := do
  let name ← ObjectName.parser
  let columns ← Identifier.optionalColumns
  let options ← TableDefinition.spelledOptions inner "WITH"
  Parser.expectKeyword "AS"
  let query ← inner.query
  let list := if columns.isEmpty then "" else " (" ++ Identifier.renderAll columns ++ ")"
  pure ("ALTER VIEW " ++ name.render ++ options ++ list ++ " AS " ++ query)

/-- A condition in parentheses after keywords. -/
def guardedBy (words : List String) : Parser String := do
  if ← Parser.keywords words then
    let expr ← Parser.parenthesized inner.exprText
    pure (" " ++ " ".intercalate words ++ " (" ++ expr ++ ")")
  else pure ""

/-- A change to a row policy, after the keywords. -/
def policyAlteration : Parser String := do
  let name ← Identifier.parser
  Parser.expectKeyword "ON"
  let table ← ObjectName.parser
  let head := "ALTER POLICY " ++ name.render ++ " ON " ++ table.render
  if ← Parser.keyword "RENAME" then
    Parser.expectKeyword "TO"
    pure (head ++ " RENAME TO " ++ (← Identifier.parser).render)
  else
    let roles ← Parser.clause ["TO"] do pure (commaList (← Parser.separated owner))
    let condition ← guardedBy inner ["USING"]
    pure (head ++ roles ++ condition ++ (← guardedBy inner ["WITH", "CHECK"]))

/-- The password of a role, after its keyword. -/
def rolePassword : Parser String := do
  if ← Parser.keyword "NULL" then pure "PASSWORD NULL"
  else pure ("PASSWORD " ++ (← Literal.value))

/-- An option of a role that is changed. -/
def roleOption : Parser String := do
  match ← Parser.oneOf ["BYPASSRLS", "NOBYPASSRLS", "CONNECTION", "CREATEDB", "NOCREATEDB",
      "CREATEROLE", "NOCREATEROLE", "INHERIT", "NOINHERIT", "LOGIN", "NOLOGIN", "PASSWORD",
      "REPLICATION", "NOREPLICATION", "SUPERUSER", "NOSUPERUSER", "VALID"] with
  | some "CONNECTION" =>
    Parser.expectKeyword "LIMIT"
    pure ("CONNECTION LIMIT " ++ (← Literal.numberValue))
  | some "PASSWORD" => rolePassword
  | some "VALID" =>
    Parser.expectKeyword "UNTIL"
    pure ("VALID UNTIL " ++ (← Literal.value))
  | some word => pure word
  | none => Parser.expected "option"

/-- A new value for a setting of a role, after `SET`. -/
def roleSetting : Parser String := do
  let name ← ObjectName.parser
  let head := "SET " ++ name.render
  if ← Parser.keywords ["FROM", "CURRENT"] then pure (head ++ " FROM CURRENT")
  else
    let equals ← Parser.symbol "="
    let assigned ← if equals then pure true else Parser.keyword "TO"
    if !assigned then Parser.expected "'TO' or '=' or 'FROM CURRENT'"
    else if ← Parser.keyword "DEFAULT" then pure (head ++ " TO DEFAULT")
    else
      match ← Parser.attempt inner.exprText with
      | some value => pure (head ++ " TO " ++ value)
      | none => Parser.expected "config value"

/-- A change to a role in PostgreSQL's grammar, after its name. Only the changes of
settings show the database that they hold in. -/
def postgresRoleChange : Parser String := do
  let place ←
    if ← Parser.keywords ["IN", "DATABASE"] then
      match ← Parser.attempt ObjectName.parser with
      | some name => pure ("IN DATABASE " ++ name.render ++ " ")
      | none => pure ""
    else pure ""
  if ← Parser.keyword "RENAME" then
    if ← Parser.keyword "TO" then pure ("RENAME TO " ++ (← Identifier.parser).render)
    else Parser.expected "TO after RENAME"
  else if ← Parser.keyword "SET" then pure (place ++ (← roleSetting inner))
  else if ← Parser.keyword "RESET" then
    if ← Parser.keyword "ALL" then pure (place ++ "RESET ALL")
    else pure (place ++ "RESET " ++ (← ObjectName.parser).render)
  else
    let _ ← Parser.keyword "WITH"
    let options ← Parser.many (Parser.optional roleOption)
    if options.isEmpty then Parser.expected "option"
    else pure ("WITH " ++ " ".intercalate options)

/-- A change to a role in SQL Server's grammar, after its name. -/
def memberChange : Parser String := do
  if ← Parser.keywords ["ADD", "MEMBER"] then
    pure ("ADD MEMBER " ++ (← Identifier.parser).render)
  else if ← Parser.keywords ["DROP", "MEMBER"] then
    pure ("DROP MEMBER " ++ (← Identifier.parser).render)
  else if ← Parser.keywords ["WITH", "NAME"] then
    if ← Parser.symbol "=" then pure ("RENAME TO " ++ (← Identifier.parser).render)
    else Parser.expected "= after WITH NAME "
  else Parser.expected "'ADD' or 'DROP' or 'WITH NAME' after role_name"

/-- A change to a role, after the keywords. -/
def roleAlteration : Parser String := do
  let change ← match ← Parser.grammar with
    | .sqlServer => pure memberChange
    | .postgres => pure (postgresRoleChange inner)
    | _ =>
      Parser.fail (.refused "ALTER ROLE is only support for PostgreSqlDialect, MsSqlDialect"
        Location.none)
  let role ← Identifier.parser
  pure ("ALTER ROLE " ++ role.render ++ " " ++ (← change))

/-- A change to an object, after its keyword. -/
def alteration : Parser String := do
  match ← Parser.expectOneOf ["VIEW", "TABLE", "INDEX", "ROLE", "POLICY"] with
  | "VIEW" => viewAlteration inner
  | "TABLE" => tableAlteration inner
  | "INDEX" =>
    let name ← ObjectName.parser
    if ← Parser.keyword "RENAME" then
      if ← Parser.keyword "TO" then
        pure ("ALTER INDEX " ++ name.render ++ " RENAME TO " ++ (← ObjectName.parser).render)
      else Parser.expected "TO after RENAME"
    else Parser.expected "RENAME after ALTER INDEX"
  | "ROLE" => roleAlteration inner
  | _ => policyAlteration inner

end TableCatalog.Statement
