import TableCatalog.Query.Alias
import TableCatalog.Query.RowPattern

/-!
# Reading tables in queries

Tables, queries in their place, functions that give tables, and joins; and what may be
said of a table: a part or a version of it, a sample, hints, and how it is turned.
-/

namespace TableCatalog.Query

variable (inner : Phrases)

/-- A row of values, and whether it is marked as a row. -/
def valuesRow (mayBeEmpty : Bool) : Parser (Bool × String) := do
  let marked ← Parser.keyword "ROW"
  Parser.expectSymbol "("
  if ← Parser.onlyIf mayBeEmpty (Parser.symbol ")") then pure (marked, "()")
  else
    let items ← inner.exprTexts
    Parser.expectSymbol ")"
    pure (marked, "(" ++ commaList items ++ ")")

/-- Rows of values, after `VALUES`. A mark on one of them is a mark on all. -/
def values (mayBeEmpty : Bool) : Parser String := do
  let rows ← Parser.separated (valuesRow inner mayBeEmpty)
  let mark := if rows.any (·.1) then "ROW" else ""
  pure ("VALUES " ++ commaList (rows.map fun row => mark ++ row.2))

/-- A table that says nothing after the name that it is given, which is read here. -/
def renamed (text : String) : Parser TableFactor := do
  pure (.named text (← tableAlias? inner))

/-- An assignment of a setting. -/
def setting : Parser String := do
  let name ← Identifier.parser
  Parser.expectSymbol "="
  pure (name.render ++ " = " ++ (← Expr.value).text)

/-- Settings, where the grammar has them. -/
def settings? : Parser (Option String) := do
  if ← Parser.keywordIn [.clickHouse, .generic] "SETTINGS" then
    pure (some ("SETTINGS " ++ commaList (← Parser.separated setting)))
  else pure none

/-- The arguments of a table, at most `fuel` of them. Settings end the list. -/
def tableArguments : Nat → Parser (List String)
  | 0 => pure []
  | fuel + 1 => do
    match ← settings? with
    | some settings => pure [settings]
    | none =>
      let argument ← Expr.argument inner
      if ← Parser.listEnds (Parser.closers (← Parser.grammar)) then pure [argument]
      else
        let rest ← tableArguments fuel
        pure (argument :: rest)

/-- The arguments of a table in parentheses, if it has any. -/
def tableCall : Parser String := do
  if ← Parser.symbol "(" then
    if ← Parser.symbol ")" then pure "()"
    else
      let list ← tableArguments inner (← Parser.fuel)
      Parser.expectSymbol ")"
      pure ("(" ++ commaList list ++ ")")
  else pure ""

/-- Whether tables have versions. -/
def hasVersions : Grammar → Bool
  | .bigQuery | .sqlServer | .snowflake => true
  | _ => false

/-- The version of a table that is read, with a blank before it. -/
def version : Parser String := do
  if hasVersions (← Parser.grammar) then
    let key ← Parser.peekKey
    if ← Parser.keywords ["FOR", "SYSTEM_TIME", "AS", "OF"] then
      pure (" FOR SYSTEM_TIME AS OF " ++ (← inner.exprText))
    else if key == "AT" || key == "BEFORE" then
      let name ← ObjectName.parserOf true
      pure (" " ++ (← Expr.call inner name.render).text)
    else pure ""
  else pure ""

/-- The number from which a sample is drawn again. -/
def sampleSeed : Parser String := do
  match ← Parser.oneOf ["REPEATABLE", "SEED"] with
  | some word => pure (" " ++ word ++ " (" ++ (← Parser.parenthesized Literal.numberValue) ++ ")")
  | none => pure ""

/-- How much of a table is a sample. Any word may stand for a length. -/
def sampleSize : Parser String := do
  let size ←
    match ← Parser.optional inner.exprText with
    | some size => pure size
    | none =>
      match ← Parser.next with
      | some ⟨⟨.word word, _, _⟩, _⟩ => pure word.text
      | _ =>
        Parser.refusedHere "Expecting number or byte length e.g. 100M"
  pure (size ++ afterBlank (← Parser.oneOf ["ROWS", "PERCENT"]))

/-- A sample that is one of several buckets, after `BUCKET`. -/
def sampleBucket : Parser String := do
  let chosen ← Literal.numberValue
  Parser.expectKeywords ["OUT", "OF"]
  let total ← Literal.numberValue
  let on ← Parser.clause ["ON"] inner.exprText
  pure ("(BUCKET " ++ chosen ++ " OUT OF " ++ total ++ on ++ ")")

/-- A sample of a table, with a blank before it. A bucket is told after the seed. -/
def sample : Parser String := do
  match ← Parser.oneOf ["TABLESAMPLE", "SAMPLE"] with
  | none => pure ""
  | some word =>
    let manner := afterBlank (← Parser.oneOf ["BERNOULLI", "ROW", "SYSTEM", "BLOCK"])
    let isEnclosed ← Parser.symbol "("
    let (size, bucket) ←
      if ← Parser.onlyIf isEnclosed (Parser.keyword "BUCKET") then
        pure ("", " " ++ (← sampleBucket inner))
      else
        let size ← sampleSize inner
        pure (if isEnclosed then " (" ++ size ++ ")" else " " ++ size, "")
    if isEnclosed then Parser.expectSymbol ")"
    let seed ← sampleSeed
    let offset ← Parser.clause ["OFFSET"] inner.exprText
    pure (" " ++ word ++ manner ++ size ++ seed ++ bucket ++ offset)

/-- The hints on how a table is read. -/
def hints : Parser String := do
  if ← Parser.keyword "WITH" then
    if ← Parser.symbol "(" then
      let hints ← inner.exprTexts
      Parser.expectSymbol ")"
      pure (" WITH (" ++ commaList hints ++ ")")
    else
      Parser.retreat
      pure ""
  else pure ""

/-- An expression with the name that it may be given after `AS`. -/
def namedExpr : Parser String := do
  let expr ← inner.exprText
  pure (expr ++ (← Parser.clause ["AS"] do pure (← Identifier.parser).render))

/-- A function over the rows that a pivot brings together. Its name loses its quotes. -/
def pivotFunction : Parser String := do
  match ← Parser.next with
  | some ⟨⟨.word word, _, _⟩, _⟩ =>
    let call ← Expr.call inner word.text
    pure (call.text ++ (← Parser.clause ["AS"] do pure (← Identifier.parser).render))
  | _ => Parser.expected "a function identifier"

/-- The values that a pivot makes columns of. -/
def pivotValues : Parser String := do
  if ← Parser.keyword "ANY" then
    pure ("ANY" ++ (← Parser.clause ["ORDER", "BY"] (Expr.sortKeys inner)))
  else if ← Phrases.seesQuery then inner.query
  else pure (commaList (← Parser.separated (namedExpr inner)))

/-- The parts of a column name, at most `fuel` of them. -/
def dottedName : Nat → Parser (List Identifier)
  | 0 => pure []
  | fuel + 1 => do
    let part ← Identifier.parser
    if ← Parser.symbol "." then
      let rest ← dottedName fuel
      pure (part :: rest)
    else pure [part]

/-- A table whose rows are turned into columns, after `PIVOT`. -/
def pivot (table : TableFactor) : Parser TableFactor := do
  Parser.expectSymbol "("
  let functions ← Parser.separated (pivotFunction inner)
  Parser.expectKeyword "FOR"
  let column ← dottedName (← Parser.fuel)
  Parser.expectKeyword "IN"
  let values ← Parser.parenthesized (pivotValues inner)
  let default ←
    if ← Parser.keywords ["DEFAULT", "ON", "NULL"] then
      pure (" DEFAULT ON NULL (" ++ (← Parser.parenthesized inner.exprText) ++ ")")
    else pure ""
  Parser.expectSymbol ")"
  renamed inner (table.render ++ " PIVOT(" ++ commaList functions ++ " FOR " ++
    ObjectName.render column ++ " IN (" ++ values ++ ")" ++ default ++ ")")

/-- A table whose columns are turned into rows, after `UNPIVOT`. -/
def unpivot (table : TableFactor) : Parser TableFactor := do
  Parser.expectSymbol "("
  let value ← Identifier.parser
  Parser.expectKeyword "FOR"
  let name ← Identifier.parser
  Parser.expectKeyword "IN"
  let columns ← Identifier.requiredColumns
  Parser.expectSymbol ")"
  renamed inner (table.render ++ " UNPIVOT(" ++ value.render ++ " FOR " ++ name.render ++ " IN (" ++
    Identifier.renderAll columns ++ "))")

/-- The turns that follow a table, at most `fuel` of them. -/
def turns : Nat → TableFactor → Parser TableFactor
  | 0, table => pure table
  | fuel + 1, table => do
    match ← Parser.oneOf ["PIVOT", "UNPIVOT"] with
    | none => pure table
    | some word =>
      let table ← if word == "PIVOT" then pivot inner table else unpivot inner table
      turns fuel table

/-- What becomes of a value that a column of structured data cannot take. -/
def fallback? : Parser (Option String) := do
  let manner ←
    match ← Parser.oneOf ["NULL", "ERROR", "DEFAULT"] with
    | some "DEFAULT" => pure (some ("DEFAULT " ++ (← Expr.value).text))
    | found => pure found
  if manner.isSome then Parser.expectKeyword "ON"
  pure manner

/-- What becomes of missing and of faulty values, at most `fuel` times. The last word on
either counts. -/
def fallbacks : Nat → Option String → Option String → Parser String
  | 0, _, _ => pure ""
  | fuel + 1, onEmpty, onError => do
    match ← fallback? with
    | some manner =>
      if ← Parser.keyword "EMPTY" then fallbacks fuel (some manner) onError
      else
        Parser.expectKeyword "ERROR"
        fallbacks fuel onEmpty (some manner)
    | none =>
      pure ((onEmpty.elim "" fun manner => " " ++ manner ++ " ON EMPTY") ++
        (onError.elim "" fun manner => " " ++ manner ++ " ON ERROR"))

/-- A column of a table that structured data makes up, of at most `fuel` levels. -/
def dataColumn : Nat → Parser String
  | 0 => Parser.fail .nestedTooDeeply
  | fuel + 1 => do
    if ← Parser.keyword "NESTED" then
      let _ ← Parser.keyword "PATH"
      let path ← Expr.value
      Parser.expectKeyword "COLUMNS"
      let columns ← Parser.parenthesized (Parser.separated (dataColumn fuel))
      pure ("NESTED PATH " ++ path.text ++ " COLUMNS (" ++ commaList columns ++ ")")
    else
      let name ← Identifier.parser
      if ← Parser.keyword "FOR" then
        Parser.expectKeyword "ORDINALITY"
        pure (name.render ++ " FOR ORDINALITY")
      else
        let type ← DataType.parserOf inner.column
        let exists' := if ← Parser.keyword "EXISTS" then " EXISTS" else ""
        Parser.expectKeyword "PATH"
        let path ← Expr.value
        let fallbacks ← fallbacks (← Parser.fuel) none none
        pure (name.render ++ " " ++ type.render ++ exists' ++ " PATH " ++ path.text ++ fallbacks)

/-- A table that structured data makes up, after `JSON_TABLE` and the opening
parenthesis. -/
def dataTable : Parser TableFactor := do
  let source ← inner.exprText
  Parser.expectSymbol ","
  let path ← Expr.value
  Parser.expectKeyword "COLUMNS"
  let columns ← Parser.parenthesized do
    Parser.separated (dataColumn inner (← Parser.fuel))
  Parser.expectSymbol ")"
  renamed inner ("JSON_TABLE(" ++ source ++ ", " ++ path.text ++ " COLUMNS(" ++
    commaList columns ++ "))")

/-- A column that is picked out of structured data. -/
def pickedColumn : Parser String := do
  let name ← Identifier.parser
  let type ← DataType.parserOf inner.column
  let path ←
    match ← Parser.peek with
    | some ⟨⟨.string .single text, _, _⟩, _⟩ =>
      Parser.advance
      pure (" " ++ quoteText text)
    | _ => pure ""
  let isData ← Parser.keyword "AS"
  if isData then Parser.expectKeyword "JSON"
  pure (name.render ++ " " ++ type.render ++ path ++ (if isData then " AS JSON" else ""))

/-- A table that is picked out of structured data, after `OPENJSON`. -/
def pickedTable : Parser TableFactor := do
  let source ← Parser.parenthesized do
    let source ← inner.exprText
    let path ← if ← Parser.symbol "," then pure [(← Expr.value).text] else pure []
    pure (commaList (source :: path))
  let columns ←
    if ← Parser.keyword "WITH" then
      let columns ← Parser.parenthesized (Parser.separated (pickedColumn inner))
      pure (" WITH (" ++ commaList columns ++ ")")
    else pure ""
  renamed inner ("OPENJSON(" ++ source ++ ")" ++ columns)

/-- The elements of arrays as a table, after `UNNEST`. -/
def elements : Parser TableFactor := do
  let items ← Parser.parenthesized inner.exprTexts
  let ordinality := if ← Parser.keywords ["WITH", "ORDINALITY"] then " WITH ORDINALITY" else ""
  let name ← tableAlias? inner
  let hasOffset ← if ← Parser.keyword "WITH" then Parser.keyword "OFFSET" else pure false
  let offset ← if hasOffset then alias? Keyword.notColumnAlias else pure none
  pure {
    text := "UNNEST(" ++ commaList items ++ ")" ++ ordinality
    name
    tail := (if hasOffset then " WITH OFFSET" else "") ++
      (offset.elim "" fun name => " AS " ++ name.render)
    isJoin := false }

/-- A table by its name, with all that may be said of it. -/
def namedTable : Parser TableFactor := do
  let grammar ← Parser.grammar
  let samplesFirst := grammar == .hive
  let name ← ObjectName.parserOf true
  let path ← if Expr.hasPaths grammar && (← Parser.seesSymbol "[") then Expr.path inner else pure ""
  let parts ←
    if ← Parser.keywordIn [.mysql, .generic] "PARTITION" then
      pure ("PARTITION (" ++ Identifier.renderAll (← Identifier.listParser) ++ ")")
    else pure ""
  let version ← version inner
  let call ← tableCall inner
  let ordinality := if ← Parser.keywords ["WITH", "ORDINALITY"] then " WITH ORDINALITY" else ""
  let early ← if samplesFirst then sample inner else pure ""
  let label ← tableAlias? inner
  let hints ← hints inner
  let late ← if samplesFirst then pure "" else sample inner
  let table ← turns inner (← Parser.fuel) {
    text := name.render ++ path ++ parts ++ call ++ ordinality ++ early
    name := label
    tail := hints ++ version ++ late
    isJoin := false }
  if ← Parser.keywordIn [.snowflake, .generic] "MATCH_RECOGNIZE" then
    let search ← Parser.parenthesized (rowSearch inner)
    renamed inner (table.render ++ " MATCH_RECOGNIZE(" ++ search ++ ")")
  else pure table

/-- A table that may refer to those before it, after `LATERAL`. -/
def lateralTable : Parser TableFactor := do
  if ← Parser.symbol "(" then
    let query ← inner.query
    Parser.expectSymbol ")"
    renamed inner ("LATERAL (" ++ query ++ ")")
  else
    let name ← ObjectName.parser
    Parser.expectSymbol "("
    let args ←
      if ← Parser.symbol ")" then pure []
      else
        let args ← Parser.separated (Expr.argument inner)
        Parser.expectSymbol ")"
        pure args
    renamed inner ("LATERAL " ++ name.render ++ "(" ++ commaList args ++ ")")

/-- Whether a table may stand alone in parentheses, which then are dropped. -/
def hasLoneTables : Grammar → Bool
  | .snowflake | .generic => true
  | _ => false

/-- A table in parentheses, the opening one having been read: a query, a join, or a lone
table, which has one name only. -/
def enclosedTable : Parser TableFactor := do
  let derived ← Parser.optional do
    let query ← inner.query
    Parser.expectSymbol ")"
    renamed inner ("(" ++ query ++ ")")
  match derived with
  | some table => turns inner (← Parser.fuel) table
  | none =>
    let joined ← inner.joins
    if !joined.joins.isEmpty || joined.table.isJoin then
      Parser.expectSymbol ")"
      let table ← renamed inner ("(" ++ joined.render ++ ")")
      pure { table with isJoin := true }
    else if hasLoneTables (← Parser.grammar) then
      Parser.expectSymbol ")"
      match ← tableAlias? inner, joined.table.name with
      | some _, some name => Parser.fail (.refused ("duplicate alias " ++ name) Location.none)
      | some name, none => pure { joined.table with name := some name }
      | none, _ => pure joined.table
    else Parser.expected "joined table"

/-- Whether a keyword with an opening parenthesis after it is next. -/
def seesCall (word : String) : Parser Bool := do
  let second ← Parser.peekAt 1
  pure ((← Parser.sees word) && second.any (·.placed.token == .openParen))

/-- A table in the list after `FROM`. -/
def tableFactor : Parser TableFactor := do
  let hasBareValues ← Parser.grammarIn [.snowflake, .databricks, .generic]
  if ← Parser.keyword "LATERAL" then lateralTable inner
  else if ← Parser.keyword "TABLE" then
    renamed inner ("TABLE(" ++ (← Parser.parenthesized inner.exprText) ++ ")")
  else if ← Parser.symbol "(" then enclosedTable inner
  else if ← Parser.onlyIf hasBareValues (seesCall "VALUES") then
    Parser.advance
    renamed inner ("(" ++ (← values inner false) ++ ")")
  else if ← Parser.keywordIn [.bigQuery, .postgres, .generic] "UNNEST" then elements inner
  else if ← seesCall "JSON_TABLE" then
    Parser.advance
    Parser.advance
    dataTable inner
  else if ← seesCall "OPENJSON" then
    Parser.advance
    pickedTable inner
  else namedTable inner

/-- What joins two tables. -/
def joinConstraint : Parser String := do
  if ← Parser.keyword "ON" then pure (" ON " ++ (← inner.exprText))
  else if ← Parser.keyword "USING" then
    if ← Parser.seesSymbol "(" then
      let columns ← Parser.parenthesized (Parser.separated (ObjectName.parserOf true))
      pure (" USING(" ++ commaList (columns.map ObjectName.render) ++ ")")
    else Parser.expected "a list of columns in parentheses"
  else pure ""

/-- The words of a join as they are spelled, if one is next. -/
def joinWords (natural : Bool) : Parser (Option String) := do
  let key ← Parser.peekKey
  match key with
  | "INNER" | "JOIN" =>
    let _ ← Parser.keyword "INNER"
    Parser.expectKeyword "JOIN"
    pure (some "JOIN")
  | "LEFT" | "RIGHT" =>
    Parser.advance
    match ← Parser.oneOf ["OUTER", "SEMI", "ANTI", "JOIN"] with
    | some "OUTER" =>
      Parser.expectKeyword "JOIN"
      pure (some (key ++ " JOIN"))
    | some "JOIN" => pure (some (key ++ " JOIN"))
    | some kind =>
      Parser.expectKeyword "JOIN"
      pure (some (key ++ " " ++ kind ++ " JOIN"))
    | none =>
      Parser.fail (.refused ("expected OUTER, SEMI, ANTI or JOIN after " ++ key) Location.none)
  | "ANTI" | "SEMI" =>
    Parser.advance
    Parser.expectKeyword "JOIN"
    pure (some (key ++ " JOIN"))
  | "FULL" =>
    Parser.advance
    let _ ← Parser.keyword "OUTER"
    Parser.expectKeyword "JOIN"
    pure (some "FULL JOIN")
  | "OUTER" => Parser.expected "LEFT, RIGHT, or FULL"
  | _ => if natural then Parser.expected "a join type after NATURAL" else pure none

/-- One join after a table, with a blank before it. -/
def join? : Parser (Option String) := do
  let global := if ← Parser.keyword "GLOBAL" then " GLOBAL" else ""
  if ← Parser.keyword "CROSS" then
    match ← Parser.oneOf ["JOIN", "APPLY"] with
    | some word =>
      pure (some (global ++ " CROSS " ++ word ++ " " ++ (← tableFactor inner).render))
    | none => Parser.expected "JOIN or APPLY after CROSS"
  else if ← Parser.keyword "OUTER" then
    Parser.expectKeyword "APPLY"
    pure (some (global ++ " OUTER APPLY " ++ (← tableFactor inner).render))
  else if ← Parser.keyword "ASOF" then
    Parser.expectKeyword "JOIN"
    let table ← tableFactor inner
    Parser.expectKeyword "MATCH_CONDITION"
    let condition ← Parser.parenthesized inner.exprText
    let constraint ← joinConstraint inner
    pure (some (global ++ " ASOF JOIN " ++ table.render ++ " MATCH_CONDITION (" ++ condition ++
      ")" ++ constraint))
  else
    let natural ← Parser.keyword "NATURAL"
    match ← joinWords natural with
    | none => pure none
    | some words =>
      let table ← tableFactor inner
      let constraint ← if natural then pure "" else joinConstraint inner
      pure (some (global ++ (if natural then " NATURAL " else " ") ++ words ++ " " ++
        table.render ++ constraint))

/-- A table with its joins. -/
def joins : Parser JoinedTable := do
  let table ← tableFactor inner
  pure ⟨table, ← Parser.many (join? inner)⟩

/-- A table with its joins as it is written. -/
def joinedTable : Parser String := do
  pure (← joins inner).render

end TableCatalog.Query
