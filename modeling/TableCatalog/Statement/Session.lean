import TableCatalog.Statement.Removal

/-!
# Statements about the session

Settings, transactions, prepared statements and what a session can ask to be shown,
read for their canonical spelling.
-/

namespace TableCatalog.Statement

variable (inner : Phrases)

/-- The modes of a transaction. A comma between two of them may be left out, but not
be followed by nothing. -/
def transactionModes : Parser String := do
  let rec loop : Nat → Bool → Parser (List String)
    | 0, _ => pure []
    | fuel + 1, required => do
      let mode ←
        if ← Parser.keywords ["ISOLATION", "LEVEL"] then
          if ← Parser.keywords ["READ", "UNCOMMITTED"] then pure "ISOLATION LEVEL READ UNCOMMITTED"
          else if ← Parser.keywords ["READ", "COMMITTED"] then pure "ISOLATION LEVEL READ COMMITTED"
          else if ← Parser.keywords ["REPEATABLE", "READ"] then
            pure "ISOLATION LEVEL REPEATABLE READ"
          else if ← Parser.keyword "SERIALIZABLE" then pure "ISOLATION LEVEL SERIALIZABLE"
          else if ← Parser.keyword "SNAPSHOT" then pure "ISOLATION LEVEL SNAPSHOT"
          else Parser.expected "isolation level"
        else if ← Parser.keywords ["READ", "ONLY"] then pure "READ ONLY"
        else if ← Parser.keywords ["READ", "WRITE"] then pure "READ WRITE"
        else if required then Parser.expected "transaction mode"
        else pure ""
      if mode.isEmpty then pure []
      else
        let comma ← Parser.symbol ","
        let rest ← loop fuel comma
        pure (mode :: rest)
  let modes ← loop (← Parser.fuel) false
  pure (if modes.isEmpty then "" else " " ++ commaList modes)

/-- The beginning of a transaction, after `BEGIN`. -/
def beginning : Parser String := do
  let grammar ← Parser.grammar
  let modifier ←
    if grammar == .sqlServer || grammar == .generic || grammar == .sqlite then
      Parser.oneOf ["DEFERRED", "IMMEDIATE", "EXCLUSIVE", "TRY", "CATCH"]
    else pure none
  let kind ← Parser.oneOf ["TRANSACTION", "WORK"]
  pure ("BEGIN" ++ afterBlank modifier ++ afterBlank kind ++ (← transactionModes))

/-- Whether a new transaction follows at once. -/
def chained : Parser String := do
  let _ ← Parser.oneOf ["TRANSACTION", "WORK"]
  if ← Parser.keyword "AND" then
    let negated ← Parser.keyword "NO"
    Parser.expectKeyword "CHAIN"
    pure (if negated then "" else " AND CHAIN")
  else pure ""

/-- The end of a transaction, after `END`. -/
def ending : Parser String := do
  let grammar ← Parser.grammar
  let modifier ←
    if grammar == .sqlServer || grammar == .generic then Parser.oneOf ["TRY", "CATCH"]
    else pure none
  pure ("END" ++ afterBlank modifier ++ (← chained))

/-- A rollback, after its keyword. -/
def rollback : Parser String := do
  let chain ← chained
  let savepoint ←
    if ← Parser.keyword "TO" then
      let _ ← Parser.keyword "SAVEPOINT"
      pure (" TO SAVEPOINT " ++ (← Identifier.parser).render)
    else pure ""
  pure ("ROLLBACK" ++ chain ++ savepoint)

/-- A query, which is shown in parentheses, or else an expression. -/
def valueOrQuery : Parser String := do
  if ← Phrases.seesQuery then pure ("(" ++ (← inner.query) ++ ")")
  else
    match ← Parser.attempt inner.exprText with
    | some text => pure text
    | none => Parser.expected "variable value"

/-- The values of a variable, at most `fuel` of them. -/
def variableValues : Nat → Parser (List String)
  | 0 => pure []
  | fuel + 1 => do
    let first ← valueOrQuery inner
    if ← Parser.symbol "," then
      let rest ← variableValues fuel
      pure (first :: rest)
    else pure [first]

/-- A switch of the session in the grammar that writes no operator in it. -/
def sessionSwitch : Parser String := do
  let onOrOff : Parser String := do
    match ← Parser.oneOf ["ON", "OFF"] with
    | some word => pure word
    | none => Parser.expected "ON or OFF"
  let names (what : String) : Parser String := do
    pure (commaList (← Parser.separated do
      let token ← Parser.next
      match token with
      | some ⟨⟨.word word, _, _⟩, _⟩ => pure word.render
      | _ => Parser.expectedAt what token))
  if ← Parser.keyword "STATISTICS" then
    match ← Parser.oneOf ["IO", "PROFILE", "TIME", "XML"] with
    | some topic => pure ("SET STATISTICS " ++ topic ++ " " ++ (← onOrOff))
    | none => Parser.expected "IO, PROFILE, TIME or XML"
  else if ← Parser.keyword "IDENTITY_INSERT" then
    let table ← ObjectName.parser
    pure ("SET IDENTITY_INSERT " ++ table.render ++ " " ++ (← onOrOff))
  else if ← Parser.keyword "OFFSETS" then
    let words ← names "SQL keyword"
    pure ("SET OFFSETS " ++ words ++ " " ++ (← onOrOff))
  else
    let words ← names "Session param name"
    pure ("SET " ++ words ++ " " ++ (← inner.exprText))

/-- The role of the session, after the modifier of a setting. -/
def sessionRole (modifier : Option String) : Parser String := do
  Parser.expectKeyword "ROLE"
  let head := "SET" ++ afterBlank modifier ++ " ROLE "
  if ← Parser.keyword "NONE" then pure (head ++ "NONE")
  else pure (head ++ (← Identifier.parser).render)

/-- A setting whose name has been read, with what follows the name. -/
def settingOf (modifier : Option String) (name : String) (many : Bool) : Parser String := do
  let grammar ← Parser.grammar
  let local' := if modifier == some "LOCAL" then "LOCAL " else ""
  let assigned ←
    if ← Parser.symbol "=" then pure true else Parser.keyword "TO"
  if assigned then
    if many then Parser.expectSymbol "("
    let values ← variableValues inner (← Parser.fuel)
    if many then Parser.expectSymbol ")"
    let values := commaList values
    pure ("SET " ++ local' ++ (if modifier == some "HIVEVAR" then "HIVEVAR:" else "") ++ name ++
      " = " ++ (if many then "(" ++ values ++ ")" else values))
  else if many then Parser.expected "set variable"
  else if Text.asciiUpper name.toList == "TIMEZONE".toList then
    match ← Parser.attempt inner.exprText with
    | some zone => pure ("SET " ++ local' ++ "TIME ZONE " ++ zone)
    | none => Parser.expected "timezone value"
  else if name == "CHARACTERISTICS" then
    Parser.expectKeywords ["AS", "TRANSACTION"]
    pure ("SET SESSION CHARACTERISTICS AS TRANSACTION" ++ (← transactionModes))
  else if name == "TRANSACTION" && modifier.isNone then
    if ← Parser.keyword "SNAPSHOT" then
      pure ("SET TRANSACTION SNAPSHOT " ++ (← Expr.value).text)
    else pure ("SET TRANSACTION" ++ (← transactionModes))
  else if grammar == .sqlServer then
    Parser.retreat
    sessionSwitch inner
  else Parser.expected "equals sign or TO"

/-- A setting, after its keyword. -/
def setting : Parser String := do
  let grammar ← Parser.grammar
  let modifier ← Parser.oneOf ["SESSION", "LOCAL", "HIVEVAR"]
  if modifier == some "HIVEVAR" then Parser.expectSymbol ":"
  let role ←
    if modifier == some "HIVEVAR" then pure none else Parser.optional (sessionRole modifier)
  match role with
  | some text => pure text
  | none =>
    if ← Parser.keywords ["TIME", "ZONE"] then settingOf inner modifier "TIMEZONE" false
    else if ← Parser.onlyIf ([Grammar.bigQuery, .generic, .snowflake].contains grammar)
        (Parser.symbol "(") then
      let names ← Parser.separated Identifier.parser
      Parser.expectSymbol ")"
      settingOf inner modifier ("(" ++ Identifier.renderAll names ++ ")") true
    else
      let name ← ObjectName.parser
      let text := name.render
      if Text.asciiUpper text.toList == "NAMES".toList &&
          (grammar == .mysql || grammar == .generic) then
        if ← Parser.keyword "DEFAULT" then pure "SET NAMES DEFAULT"
        else
          let charset ← Literal.text
          let collation ← Parser.clause ["COLLATE"] Literal.text
          pure ("SET NAMES " ++ charset ++ collation)
      else settingOf inner modifier text false

/-- What narrows a list that is shown. The pattern after `ILIKE` is shown without its
quotes. -/
def showFilter : Parser String := do
  match ← Parser.oneOf ["LIKE", "ILIKE", "WHERE"] with
  | some "WHERE" => pure (" WHERE " ++ (← inner.exprText))
  | some "LIKE" => pure (" LIKE " ++ quoteText (← Literal.text))
  | some _ => pure (" ILIKE " ++ escapeText (← Literal.text))
  | none =>
    match ← Parser.optional Literal.text with
    | some text => pure (" " ++ quoteText text)
    | none => pure ""

/-- Where the things that are shown come from. -/
def showSource : Parser String := do
  match ← Parser.oneOf ["FROM", "IN"] with
  | none => pure ""
  | some word =>
    match ← Parser.oneOf ["ACCOUNT", "DATABASE", "SCHEMA", "TABLE", "VIEW"] with
    | some kind =>
      let key ← Parser.peekKey
      let second := (← Parser.peekAt 1).elim "" (·.key)
      if (kind == "DATABASE" || kind == "SCHEMA") &&
          (key == "LIMIT" || (key == "STARTS" && second == "WITH")) then
        pure (" " ++ word ++ " " ++ kind)
      else
        match ← Parser.optional ObjectName.parser with
        | some name => pure (" " ++ word ++ " " ++ kind ++ " " ++ name.render)
        | none => pure (" " ++ word ++ " " ++ kind)
    | none =>
      let name ← ObjectName.parser
      match ← Parser.oneOf ["FROM", "IN"] with
      | some _ =>
        let owner ← Identifier.parser
        pure (" " ++ word ++ " " ++ ObjectName.render (owner :: name))
      | none => pure (" " ++ word ++ " " ++ name.render)

/-- The options of a list that is shown. -/
def showOptions : Parser String := do
  let filterFirst := (← Parser.grammar) == .snowflake
  let infixed ← if filterFirst then showFilter inner else pure ""
  let source ← showSource
  let suffixed ← if filterFirst then pure "" else showFilter inner
  let start ← Parser.clause ["STARTS", "WITH"] do pure (← Expr.value).text
  let limit ←
    if ← Parser.keywords ["LIMIT", "ALL"] then pure ""
    else Parser.clause ["LIMIT"] inner.exprText
  let after ← Parser.clause ["FROM"] do pure (← Expr.value).text
  pure (infixed ++ source ++ start ++ limit ++ after ++ suffixed)

/-- Every word up to the end of the text or an equals sign; terminators do not end the
list, and all that is no word is passed over. -/
def wordsToEnd : Nat → Parser (List String)
  | 0 => pure []
  | fuel + 1 => do
    match ← Parser.peekOfText 0 with
    | none | some ⟨⟨.symbol "=", _, _⟩, _⟩ => pure []
    | some ⟨⟨.word word, _, past⟩, _⟩ =>
      Parser.advance
      let rest ← wordsToEnd fuel
      pure ((word.toIdentifier past).render :: rest)
    | some _ =>
      Parser.advance
      wordsToEnd fuel

/-- What is shown, after `SHOW`. -/
def showing : Parser String := do
  let grammar ← Parser.grammar
  let flag (word : String) : Parser String := do
    pure (if ← Parser.keyword word then word ++ " " else "")
  let terse ← flag "TERSE"
  let extended ← flag "EXTENDED"
  let full ← flag "FULL"
  let session ← flag "SESSION"
  let global ← flag "GLOBAL"
  let external ← flag "EXTERNAL"
  let history : Parser String := do
    pure (if ← Parser.keyword "HISTORY" then " HISTORY" else "")
  if (← Parser.oneOf ["COLUMNS", "FIELDS"]).isSome then
    pure ("SHOW " ++ extended ++ full ++ "COLUMNS" ++ (← showOptions inner))
  else if ← Parser.keyword "TABLES" then
    let history ← if external.isEmpty then history else pure ""
    pure ("SHOW " ++ terse ++ extended ++ full ++ external ++ "TABLES" ++ history ++
      (← showOptions inner))
  else if ← Parser.keywords ["MATERIALIZED", "VIEWS"] then
    pure ("SHOW " ++ terse ++ "MATERIALIZED VIEWS" ++ (← showOptions inner))
  else if ← Parser.keyword "VIEWS" then
    pure ("SHOW " ++ terse ++ "VIEWS" ++ (← showOptions inner))
  else if ← Parser.keyword "FUNCTIONS" then pure ("SHOW FUNCTIONS" ++ (← showFilter inner))
  else if !extended.isEmpty || !full.isEmpty then
    Parser.fail (.refused "EXTENDED/FULL are not supported with this type of SHOW query"
      Location.none)
  else if ← Parser.keyword "CREATE" then
    let kind ← Parser.expectOneOf ["TABLE", "TRIGGER", "FUNCTION", "PROCEDURE", "EVENT", "VIEW"]
    pure ("SHOW CREATE " ++ kind ++ " " ++ (← ObjectName.parser).render)
  else if ← Parser.keyword "COLLATION" then pure ("SHOW COLLATION" ++ (← showFilter inner))
  else
    let settings := grammar == .mysql || grammar == .generic
    let listed ← Parser.keyword "VARIABLES"
    if listed && settings then
      pure ("SHOW" ++ (if global.isEmpty then "" else " GLOBAL") ++
        (if session.isEmpty then "" else " SESSION") ++ " VARIABLES" ++ (← showFilter inner))
    else
      let status ← Parser.keyword "STATUS"
      if status && settings then
        pure ("SHOW" ++ (if global.isEmpty then "" else " GLOBAL") ++
          (if session.isEmpty then "" else " SESSION") ++ " STATUS" ++ (← showFilter inner))
      else if ← Parser.keyword "DATABASES" then
        let history ← history
        pure ("SHOW " ++ terse ++ "DATABASES" ++ history ++ (← showOptions inner))
      else if ← Parser.keyword "SCHEMAS" then
        let history ← history
        pure ("SHOW " ++ terse ++ "SCHEMAS" ++ history ++ (← showOptions inner))
      else
        let words ← wordsToEnd (← Parser.fuel)
        pure ("SHOW" ++ String.join (words.map (" " ++ ·)))

/-- What the session works with from now on, after `USE`. -/
def use : Parser String := do
  let grammar ← Parser.grammar
  if ← Parser.keywordIn [.hive] "DEFAULT" then pure "USE DEFAULT"
  else
    let kind ← match grammar with
      | .databricks => Parser.oneOf ["CATALOG", "DATABASE", "SCHEMA"]
      | .snowflake => Parser.oneOf ["DATABASE", "SCHEMA", "WAREHOUSE", "ROLE", "SECONDARY"]
      | _ => pure none
    if kind == some "SECONDARY" then
      let _ ← Parser.expectOneOf ["ROLES", "ROLE"]
      if ← Parser.keyword "NONE" then pure "USE SECONDARY ROLES NONE"
      else if ← Parser.keyword "ALL" then pure "USE SECONDARY ROLES ALL"
      else
        pure ("USE SECONDARY ROLES " ++
          Identifier.renderAll (← Parser.separated Identifier.parser))
    else pure ("USE" ++ afterBlank kind ++ " " ++ (← ObjectName.parser).render)

/-- A prepared statement that is carried out, after the keyword. -/
def execution : Parser String := do
  let name ← ObjectName.parser
  let parentheses ← Parser.symbol "("
  let parameters ←
    if parentheses then Parser.separatedOrNone inner.exprText ")"
    else
      let token ← Parser.peek
      if token.all fun found => found.key == "USING" then pure [] else inner.exprTexts
  if parentheses then Parser.expectSymbol ")"
  let used ← Parser.clause ["USING"] do
    pure (commaList (← Parser.separatedBy none inner.exprText))
  let shown :=
    if parentheses then "(" ++ commaList parameters ++ ")"
    else if parameters.isEmpty then ""
    else " " ++ commaList parameters
  pure ("EXECUTE " ++ name.render ++ shown ++ used)

/-- A pragma, after its keyword. -/
def pragma : Parser String := do
  let value : Parser String := do
    let token ← Parser.peek
    let text ← Literal.value
    let allowed := match token with
      | some ⟨⟨.number .., _, _⟩, _⟩ | some ⟨⟨.string .single _, _, _⟩, _⟩
      | some ⟨⟨.string .double _, _, _⟩, _⟩ | some ⟨⟨.placeholder _, _, _⟩, _⟩
      | some ⟨⟨.symbol _, _, _⟩, _⟩ => true
      | some ⟨⟨.word word, _, _⟩, _⟩ => word.quote.isSome
      | _ => false
    if allowed then pure text
    else
      Parser.retreat
      Parser.expected "number or string or ? placeholder"
  let name ← ObjectName.parser
  if ← Parser.symbol "(" then
    let argument ← value
    Parser.expectSymbol ")"
    pure ("PRAGMA " ++ name.render ++ "(" ++ argument ++ ")")
  else if ← Parser.symbol "=" then pure ("PRAGMA " ++ name.render ++ " = " ++ (← value))
  else pure ("PRAGMA " ++ name.render)

end TableCatalog.Statement
