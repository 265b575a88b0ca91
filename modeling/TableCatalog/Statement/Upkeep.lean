import TableCatalog.Statement.Removal

/-!
# Statements about the upkeep of a database

Statistics, caches, files, locks, messages and comments, read for their canonical
spelling.
-/

namespace TableCatalog.Statement

variable (inner : Phrases)

/-- A parenthesized list of expressions after `PARTITION`. -/
def partitionClause : Parser String := do
  if ← Parser.keyword "PARTITION" then
    let keys ← Parser.parenthesized inner.exprTexts
    pure (" PARTITION (" ++ commaList keys ++ ")")
  else pure ""

/-- The cluster on which a statement is carried out. -/
def onCluster : Parser String :=
  Parser.clause ["ON", "CLUSTER"] do pure (← Identifier.parser).render

/-- A truncation, after its keyword. -/
def truncation : Parser String := do
  let grammar ← Parser.grammar
  let table := if ← Parser.keyword "TABLE" then "TABLE " else ""
  let only := if ← Parser.keyword "ONLY" then "ONLY " else ""
  let names ← Parser.separated ObjectName.parser
  let partitions ← partitionClause inner
  let effects ←
    if grammar == .postgres || grammar == .generic then
      let identity ←
        if ← Parser.keywords ["RESTART", "IDENTITY"] then pure " RESTART IDENTITY"
        else if ← Parser.keywords ["CONTINUE", "IDENTITY"] then pure " CONTINUE IDENTITY"
        else pure ""
      pure (identity ++ (← dropBehavior))
    else pure ""
  let cluster ← onCluster
  pure ("TRUNCATE " ++ table ++ only ++ commaList (names.map ObjectName.render) ++ effects ++
    partitions ++ cluster)

/-- What an analysis of a table has been asked for so far. -/
structure Analysis where
  partitions : String := ""
  statistics : String := ""
  noScan : String := ""
  cache : String := ""
  columns : String := ""

/-- What an analysis of a table is asked for, at most `fuel` times. -/
def analysisParts : Nat → Analysis → Parser Analysis
  | 0, parts => pure parts
  | fuel + 1, parts => do
    match ← Parser.oneOf ["PARTITION", "FOR", "CACHE", "NOSCAN", "COMPUTE"] with
    | some "PARTITION" =>
      let keys ← Parser.parenthesized inner.exprTexts
      analysisParts fuel { parts with partitions := " PARTITION (" ++ commaList keys ++ ")" }
    | some "NOSCAN" => analysisParts fuel { parts with noScan := " NOSCAN" }
    | some "FOR" =>
      Parser.expectKeyword "COLUMNS"
      let names := (← Parser.optional (Parser.separated Identifier.parser)).getD []
      analysisParts fuel
        { parts with
          columns := " FOR COLUMNS" ++
            (if names.isEmpty then "" else " " ++ Identifier.renderAll names) }
    | some "CACHE" =>
      Parser.expectKeyword "METADATA"
      analysisParts fuel { parts with cache := " CACHE METADATA" }
    | some _ =>
      Parser.expectKeyword "STATISTICS"
      analysisParts fuel { parts with statistics := " COMPUTE STATISTICS" }
    | none => pure parts

/-- An analysis of a table, after its keyword. -/
def analysis : Parser String := do
  Parser.expectKeyword "TABLE"
  let name ← ObjectName.parser
  let parts ← analysisParts inner (← Parser.fuel) {}
  pure ("ANALYZE TABLE " ++ name.render ++ parts.partitions ++ parts.statistics ++ parts.noScan ++
    parts.cache ++ parts.columns)

/-- The end of a connection, a query or a mutation, after its keyword. -/
def killing : Parser String := do
  let grammar ← Parser.grammar
  let kind ← Parser.oneOf ["CONNECTION", "QUERY", "MUTATION"]
  let number ← Literal.unsigned
  if kind == some "MUTATION" && grammar != .clickHouse && grammar != .generic then
    Parser.expected "Unsupported type for KILL, allowed: CONNECTION | QUERY"
  else pure ("KILL" ++ afterBlank kind ++ " " ++ toString number)

/-- The logs and counters that can be flushed. -/
def flushKinds : List (List String) := [
  ["BINARY", "LOGS"], ["ENGINE", "LOGS"], ["ERROR", "LOGS"], ["GENERAL", "LOGS"], ["HOSTS"],
  ["PRIVILEGES"], ["OPTIMIZER_COSTS"], ["RELAY", "LOGS"], ["SLOW", "LOGS"], ["STATUS"],
  ["USER_RESOURCES"], ["LOGS"], ["TABLES"]]

/-- What is said of the tables that are flushed. -/
structure FlushedTables where
  names : String := ""
  locked : String := ""
  exported : String := ""

/-- The tables that are flushed, in at most `fuel` phrases. Other keywords are passed
over; the first token that is no word ends the list and is read, too. -/
def flushedTables : Nat → FlushedTables → Parser FlushedTables
  | 0, tables => pure tables
  | fuel + 1, tables => do
    match ← Parser.next with
    | some ⟨⟨.word word, _, _⟩, key⟩ =>
      if key == "WITH" then
        let locked := if ← Parser.keywords ["READ", "LOCK"] then " WITH READ LOCK" else ""
        flushedTables fuel { tables with locked }
      else if key == "FOR" then
        let exported := if ← Parser.keyword "EXPORT" then " FOR EXPORT" else ""
        flushedTables fuel { tables with exported }
      else if word.quote.isSome || !Keyword.isKeyword key then
        Parser.retreat
        let names ← Parser.separated ObjectName.parser
        flushedTables fuel
          { tables with names := " " ++ commaList (names.map ObjectName.render) }
      else flushedTables fuel tables
    | _ => pure tables

/-- A flush, after its keyword. -/
def flushing : Parser String := do
  let grammar ← Parser.grammar
  if grammar != .mysql && grammar != .generic then
    Parser.refusedHere "Unsupported statement FLUSH"
  else
    let location ← Parser.oneOf ["NO_WRITE_TO_BINLOG", "LOCAL"]
    let kind ← flushKinds.foldlM (fun found words => do
      if found.isSome then pure found
      else if ← Parser.keywords words then pure (some (" ".intercalate words))
      else pure none) none
    match kind with
    | some kind =>
      let rest ←
        if kind == "RELAY LOGS" then
          Parser.clause ["FOR", "CHANNEL"] do pure (← ObjectName.parser).render
        else if kind == "TABLES" then
          let tables ← flushedTables (← Parser.fuel) {}
          pure (tables.names ++ tables.locked ++ tables.exported)
        else pure ""
      pure ("FLUSH" ++ afterBlank location ++ " " ++ kind ++ rest)
    | none =>
      Parser.expected ("BINARY LOGS, ENGINE LOGS, ERROR LOGS, GENERAL LOGS, HOSTS, LOGS, " ++
        "PRIVILEGES, OPTIMIZER_COSTS, RELAY LOGS [FOR CHANNEL channel], SLOW LOGS, STATUS, " ++
        "USER_RESOURCES")

/-- A check of the partitions of a table, after its keyword. -/
def partitionCheck : Parser String := do
  let repair := if ← Parser.keyword "REPAIR" then "REPAIR " else ""
  Parser.expectKeyword "TABLE"
  let name ← ObjectName.parser
  let action ← Parser.optional do
    let word ← Parser.oneOf ["ADD", "DROP", "SYNC"]
    Parser.expectKeyword "PARTITIONS"
    pure (word.elim "" fun word => " " ++ word ++ " PARTITIONS")
  pure ("MSCK " ++ repair ++ "TABLE " ++ name.render ++ action.getD "")

/-- A query after a table that is cached. -/
def cachedQuery : Parser String := do
  match ← Parser.peek with
  | some ⟨⟨.word _, _, _⟩, _⟩ =>
    let as' := if ← Parser.keyword "AS" then " AS" else ""
    pure (as' ++ " " ++ (← inner.query))
  | _ => Parser.expected "a QUERY statement"

/-- A table that is kept in memory, after the keyword. -/
def caching : Parser String := do
  let body (flag : String) : Parser String := do
    let name ← ObjectName.parser
    let options ←
      match ← keyedOptions inner ["OPTIONS"] with
      | some (first :: rest) => pure (" OPTIONS(" ++ commaList (first :: rest) ++ ")")
      | _ => pure ""
    let query ← if (← Parser.peekOfText 0).isNone then pure "" else cachedQuery inner
    pure ("CACHE " ++ flag ++ "TABLE " ++ name.render ++ options ++ query)
  if ← Parser.keyword "TABLE" then body ""
  else
    let flag ← ObjectName.parser
    if ← Parser.keyword "TABLE" then body (flag.render ++ " ")
    else
      if (← Parser.peekOfText 0).isNone then Parser.retreat
      Parser.expected "a \x60TABLE\x60 keyword"

/-- A table that is no longer kept in memory, after the keyword. -/
def uncaching : Parser String := do
  Parser.expectKeyword "TABLE"
  let guarded := if ← Parser.keywords ["IF", "EXISTS"] then "IF EXISTS " else ""
  pure ("UNCACHE TABLE " ++ guarded ++ (← ObjectName.parser).render)

/-- What a session forgets, after `DISCARD`. -/
def discarding : Parser String := do
  match ← Parser.oneOf ["ALL", "PLANS", "SEQUENCES", "TEMP", "TEMPORARY"] with
  | some "TEMPORARY" => pure "DISCARD TEMP"
  | some word => pure ("DISCARD " ++ word)
  | none => Parser.expected "ALL, PLANS, SEQUENCES, TEMP or TEMPORARY after DISCARD"

/-- A comment on an object, after its keyword. -/
def commenting : Parser String := do
  let guarded := if ← Parser.keywords ["IF", "EXISTS"] then "IF EXISTS " else ""
  Parser.expectKeyword "ON"
  let token ← Parser.next
  let kind := token.elim "" (·.key)
  let kinds := ["COLUMN", "TABLE", "EXTENSION", "SCHEMA", "DATABASE", "USER", "ROLE"]
  if !kinds.contains kind then
    Parser.expectedAt "comment object_type" token
  else
    let name ← ObjectName.parser
    Parser.expectKeyword "IS"
    let text ←
      if ← Parser.keyword "NULL" then pure "NULL" else pure ("'" ++ (← Literal.text) ++ "'")
    pure ("COMMENT " ++ guarded ++ "ON " ++ kind ++ " " ++ name.render ++ " IS " ++ text)

/-- An optimization of a table, after its keyword. -/
def optimization : Parser String := do
  Parser.expectKeyword "TABLE"
  let name ← ObjectName.parser
  let cluster ← onCluster
  let partition ←
    if ← Parser.keyword "PARTITION" then
      if ← Parser.keyword "ID" then pure (" PARTITION ID " ++ (← Identifier.parser).render)
      else pure (" PARTITION " ++ (← inner.exprText))
    else pure ""
  let final' := if ← Parser.keyword "FINAL" then " FINAL" else ""
  let duplicates ←
    if ← Parser.keyword "DEDUPLICATE" then
      if ← Parser.keyword "BY" then pure (" DEDUPLICATE BY " ++ (← inner.exprText))
      else pure " DEDUPLICATE"
    else pure ""
  pure ("OPTIMIZE TABLE " ++ name.render ++ cluster ++ partition ++ final' ++ duplicates)

/-- The results of a query that are written to a file, after `UNLOAD`. -/
def unloading : Parser String := do
  let query ← Parser.parenthesized inner.query
  Parser.expectKeyword "TO"
  let target ← Identifier.parser
  pure ("UNLOAD(" ++ query ++ ") TO " ++ target.render ++
    (← TableDefinition.spelledOptions inner "WITH"))

/-- Tables that are renamed, after `RENAME`. -/
def tablesRenamed : Parser String := do
  if ← Parser.keyword "TABLE" then
    let pairs ← Parser.separated do
      let old ← ObjectName.parser
      Parser.expectKeyword "TO"
      pure (old.render ++ " TO " ++ (← ObjectName.parser).render)
    pure ("RENAME TABLE " ++ commaList pairs)
  else Parser.expected "KEYWORD \x60TABLE\x60 after RENAME"

/-- An extension or a file that is loaded, after the keyword. -/
def loading : Parser String := do
  let grammar ← Parser.grammar
  if grammar == .duckDb || grammar == .generic || grammar == .postgres then
    pure ("LOAD " ++ (← Identifier.parser).render)
  else
    let data ← Parser.keyword "DATA"
    if data && grammar == .hive then
      let local' := if ← Parser.keyword "LOCAL" then "LOCAL " else ""
      Parser.expectKeyword "INPATH"
      let path ← Literal.text
      let overwrite := if ← Parser.keyword "OVERWRITE" then "OVERWRITE " else ""
      Parser.expectKeywords ["INTO", "TABLE"]
      let name ← ObjectName.parser
      let partition ← partitionClause inner
      let format ←
        if ← Parser.keyword "INPUTFORMAT" then
          let input ← inner.exprText
          Parser.expectKeyword "SERDE"
          pure (" INPUTFORMAT " ++ input ++ " SERDE " ++ (← inner.exprText))
        else pure ""
      pure ("LOAD DATA " ++ local' ++ "INPATH '" ++ path ++ "' " ++ overwrite ++ "INTO TABLE " ++
        name.render ++ partition ++ format)
    else Parser.expected "\x60DATA\x60 or an extension name after \x60LOAD\x60"

/-- The options of an attached database, at most `fuel` of them, up to the closing
parenthesis. -/
def attachOptions : Nat → Parser (List String)
  | 0 => pure []
  | fuel + 1 => do
    let first ←
      if ← Parser.keyword "READ_ONLY" then
        match ← Parser.oneOf ["TRUE", "FALSE"] with
        | some "TRUE" => pure "READ_ONLY true"
        | some _ => pure "READ_ONLY false"
        | none => pure "READ_ONLY"
      else if ← Parser.keyword "TYPE" then pure ("TYPE " ++ (← Identifier.parser).render)
      else Parser.expected "expected one of: ), READ_ONLY, TYPE"
    if ← Parser.symbol ")" then pure [first]
    else if ← Parser.symbol "," then
      let rest ← attachOptions fuel
      pure (first :: rest)
    else Parser.expected "expected one of: ')', ','"

/-- A database file that is attached, after the keyword. -/
def attaching : Parser String := do
  let word := if ← Parser.keyword "DATABASE" then "DATABASE " else ""
  if (← Parser.grammar) == .duckDb then
    let guarded ← ifNotExists
    let path ← Identifier.parser
    let renamed ← Parser.clause ["AS"] do pure (← Identifier.parser).render
    let options ←
      if ← Parser.symbol "(" then
        pure (" (" ++ commaList (← attachOptions (← Parser.fuel)) ++ ")")
      else pure ""
    pure ("ATTACH " ++ word ++ guarded ++ path.render ++ renamed ++ options)
  else
    let file ← inner.exprText
    Parser.expectKeyword "AS"
    pure ("ATTACH " ++ word ++ file ++ " AS " ++ (← Identifier.parser).render)

/-- A database file that is detached, after the keyword. -/
def detaching : Parser String := do
  let word := if ← Parser.keyword "DATABASE" then " DATABASE" else ""
  let guarded ← ifExists
  pure ("DETACH" ++ word ++ guarded ++ " " ++ (← Identifier.parser).render)

/-- A lock on a table. -/
def tableLock : Parser String := do
  let name ← Identifier.parser
  let renamed ← Query.alias? ["READ", "WRITE", "LOW_PRIORITY"]
  let kind ←
    if ← Parser.keyword "READ" then
      pure (if ← Parser.keyword "LOCAL" then "READ LOCAL" else "READ")
    else if ← Parser.keyword "WRITE" then pure "WRITE"
    else if ← Parser.keywords ["LOW_PRIORITY", "WRITE"] then pure "LOW_PRIORITY WRITE"
    else Parser.expected "an lock type in LOCK TABLES"
  pure (name.render ++ (renamed.elim "" fun name => " AS " ++ name.render) ++ " " ++ kind)

/-- An assertion, after its keyword. -/
def assertion : Parser String := do
  let condition ← inner.exprText
  pure ("ASSERT " ++ condition ++ (← Parser.clause ["AS"] inner.exprText))

/-- A call of a procedure, after its keyword. -/
def calling : Parser String := do
  let name ← ObjectName.parser
  if ← Parser.seesSymbol "(" then
    let call ← Expr.call inner name.render
    pure ("CALL " ++ call.text)
  else pure ("CALL " ++ name.render)

/-- An error that is raised, after `RAISERROR`. -/
def raising : Parser String := do
  Parser.expectSymbol "("
  let message ← inner.exprText
  Parser.expectSymbol ","
  let severity ← inner.exprText
  Parser.expectSymbol ","
  let state ← inner.exprText
  let arguments ← if ← Parser.symbol "," then inner.exprTexts else pure []
  Parser.expectSymbol ")"
  let options ← Parser.clause ["WITH"] do
    pure (commaList (← Parser.separated (Parser.expectOneOf ["LOG", "NOWAIT", "SETERROR"])))
  pure ("RAISERROR(" ++ commaList (message :: severity :: state :: arguments) ++ ")" ++ options)

/-- A message to those who listen, after `NOTIFY`. -/
def notifying : Parser String := do
  let channel ← Identifier.parser
  if ← Parser.symbol "," then pure ("NOTIFY " ++ channel.render ++ ", '" ++ (← Literal.text) ++ "'")
  else pure ("NOTIFY " ++ channel.render)

end TableCatalog.Statement
