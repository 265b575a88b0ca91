import TableCatalog.Query.Table

/-!
# Reading selections

A selection: its items, the tables that they come from, the conditions on rows, and
how rows are grouped, windowed and connected.
-/

namespace TableCatalog.Query

variable (inner : Phrases)

/-- Columns in parentheses, or one of them without. -/
def oneOrMore (item : Parser String) : Parser String := do
  if ← Parser.symbol "(" then
    let items ← Parser.separated item
    Parser.expectSymbol ")"
    pure ("(" ++ commaList items ++ ")")
  else item

/-- The pattern of the columns that a star stands for. -/
def starPattern : Parser String :=
  Parser.clause ["ILIKE"] do
    let token ← Parser.next
    match token with
    | some ⟨⟨.string .single text, _, _⟩, _⟩ => pure (quoteText text)
    | _ => Parser.expectedAt "ilike pattern" token

/-- The columns that a star does not stand for, in the wording that always has
parentheses. -/
def starExceptions : Parser String :=
  Parser.clause ["EXCEPT"] do
    let names ←
      if ← Parser.seesSymbol "(" then Identifier.requiredColumns
      else pure [← Identifier.parser]
    pure ("(" ++ Identifier.renderAll names ++ ")")

/-- A value that takes the place of a column. -/
def replacement : Parser String := do
  let expr ← inner.exprText
  let mark := if ← Parser.keyword "AS" then " AS " else " "
  pure (expr ++ mark ++ (← Identifier.parser).render)

/-- The values that take the place of columns. -/
def replacements : Parser String :=
  Parser.clause ["REPLACE"] do
    let token ← Parser.next
    match token with
    | some ⟨⟨.symbol "(", _, _⟩, _⟩ =>
      let items ← Parser.separated (replacement inner)
      Parser.expectSymbol ")"
      pure ("(" ++ commaList items ++ ")")
    | _ => Parser.expectedAt "( after REPLACE but" token

/-- A column with another name. -/
def newName : Parser String := do
  let name ← Identifier.parser
  Parser.expectKeyword "AS"
  pure (name.render ++ " AS " ++ (← Identifier.parser).render)

/-- What narrows or changes a star in a select list. -/
def wildcardOptions : Parser String := do
  let grammar ← Parser.grammar
  let within (grammars : List Grammar) (parser : Parser String) : Parser String :=
    if grammars.contains grammar then parser else pure ""
  let pattern ← within [.generic, .snowflake] starPattern
  let excluded ←
    if pattern.isEmpty then
      within [.generic, .duckDb, .snowflake] <|
        Parser.clause ["EXCLUDE"] (oneOrMore do pure (← Identifier.parser).render)
    else pure ""
  let excepted ← within [.generic, .bigQuery, .clickHouse, .databricks] starExceptions
  let replaced ←
    within [.generic, .bigQuery, .clickHouse, .duckDb, .snowflake] (replacements inner)
  let renamed ← within [.generic, .snowflake] (Parser.clause ["RENAME"] (oneOrMore newName))
  pure (pattern ++ excluded ++ excepted ++ replaced ++ renamed)

/-- A select item with the name that it is given. -/
def renamedItem (text : String) : Parser String := do
  match ← itemAlias? with
  | some name => pure (text ++ " AS " ++ name.render)
  | none => pure text

/-- An item of a select list. An equation may be another way of giving a name. -/
def selectItem : Parser String := do
  match ← Expr.wildcard? with
  | some star => pure (star ++ (← wildcardOptions inner))
  | none =>
    let expr ← inner.anyExpr
    match expr.shape with
    | .name name =>
      if name.quote.isNone && Text.asciiLower name.text.toList == "from".toList then
        Parser.fail (.expectedExpression name.render (← Parser.place))
      else renamedItem expr.text
    | .equation name value =>
      if (← Parser.grammar) == .sqlServer then pure (value ++ " AS " ++ name.render)
      else renamedItem expr.text
    | _ => renamedItem expr.text

/-- A select list. -/
def selectList : Parser String := do
  let closers :=
    if Parser.trailingSelectCommas (← Parser.grammar) then some Keyword.notColumnAlias else none
  pure (commaList (← Parser.separatedBy closers (selectItem inner)))

/-- How many rows a selection gives at most, if it says so. -/
def top : Parser String :=
  Parser.clause ["TOP"] do
    let count ←
      if ← Parser.symbol "(" then
        let expr ← inner.exprText
        Parser.expectSymbol ")"
        pure ("(" ++ expr ++ ")")
      else pure (toString (← Literal.unsigned))
    let percent := if ← Parser.keyword "PERCENT" then " PERCENT" else ""
    let ties := if ← Parser.keywords ["WITH", "TIES"] then " WITH TIES" else ""
    pure (count ++ percent ++ ties)

/-- Whether equal rows are dropped. -/
def distinct : Parser String := do
  let place ← Parser.place
  let all ← Parser.keyword "ALL"
  if ← Parser.keyword "DISTINCT" then
    if all then
      Parser.fail (.refused "Cannot specify both ALL and DISTINCT" place)
    else if ← Parser.keyword "ON" then
      let items ← Parser.parenthesized do
        if ← Parser.seesSymbol ")" then pure [] else inner.exprTexts
      pure (" DISTINCT ON (" ++ commaList items ++ ")")
    else pure " DISTINCT"
  else pure ""

/-- The table that the rows of a selection go into. -/
def intoTable : Parser String := do
  let temporary :=
    if (← Parser.oneOf ["TEMP", "TEMPORARY"]).isSome then " TEMPORARY" else ""
  let unlogged := if ← Parser.keyword "UNLOGGED" then " UNLOGGED" else ""
  let table := if ← Parser.keyword "TABLE" then " TABLE" else ""
  pure (" INTO" ++ temporary ++ unlogged ++ table ++ " " ++ (← ObjectName.parser).render)

/-- The tables of a selection. -/
def tables : Parser String := do
  let closers := if (← Parser.grammar) == .snowflake then some Keyword.afterTables else none
  pure (commaList (← Parser.separatedBy closers (joinedTable inner)))

/-- A view of the elements of a column. -/
def lateralView? : Parser (Option String) := do
  if ← Parser.keywords ["LATERAL", "VIEW"] then
    let outer := if ← Parser.keyword "OUTER" then " OUTER" else ""
    let call ← inner.exprText
    let name ← ObjectName.parser
    let columns ← Parser.separated (alias? ["WHERE", "GROUP", "CLUSTER", "HAVING", "LATERAL"])
    let columns := columns.filterMap id
    pure (some (" LATERAL VIEW" ++ outer ++ " " ++ call ++ " " ++ name.render ++
      (if columns.isEmpty then "" else " AS " ++ Identifier.renderAll columns)))
  else pure none

/-- Whether groups may be formed by several lists of expressions. -/
def hasGroupingSets : Grammar → Bool
  | .postgres | .duckDb | .generic | .databricks => true
  | _ => false

/-- A list of expressions in parentheses, which may be empty. -/
def groupingSet : Parser (List String) :=
  Parser.parenthesized do
    if ← Parser.seesSymbol ")" then pure [] else inner.exprTexts

/-- A list of expressions in parentheses, or a single one, without the parentheses that
stand around it alone. -/
def groupingItem : Parser String := do
  if ← Parser.seesSymbol "(" then
    match ← groupingSet inner with
    | [single] => pure single
    | items => pure ("(" ++ commaList items ++ ")")
  else inner.exprText

/-- What rows are grouped by. -/
def grouping : Parser String := do
  if !hasGroupingSets (← Parser.grammar) then inner.exprText
  else if ← Parser.keywords ["GROUPING", "SETS"] then
    let sets ← Parser.parenthesized (Parser.separated (groupingSet inner))
    pure ("GROUPING SETS (" ++ commaList (sets.map fun set => "(" ++ commaList set ++ ")") ++ ")")
  else
    match ← Parser.oneOf ["CUBE", "ROLLUP"] with
    | some word =>
      let items ← Parser.parenthesized (Parser.separated (groupingItem inner))
      pure (word ++ " (" ++ commaList items ++ ")")
    | none => if ← Parser.symbols ["(", ")"] then pure "()" else inner.exprText

/-- What is added to the groups of a selection. -/
def groupModifier? : Parser (Option String) := do
  if ← Parser.keyword "WITH" then
    pure (some (" WITH " ++ (← Parser.expectOneOf ["ROLLUP", "CUBE", "TOTALS"])))
  else pure none

/-- The groups of a selection. -/
def groups : Parser String :=
  Parser.clause ["GROUP", "BY"] do
    let list ←
      if ← Parser.keyword "ALL" then pure "ALL"
      else pure (commaList (← Parser.separated (grouping inner)))
    let modifiers ←
      if ← Parser.grammarIn [.clickHouse, .generic] then Parser.many groupModifier? else pure []
    pure (list ++ String.join modifiers)

/-- A named window. In some grammars it may be another one's name. -/
def namedWindow : Parser String := do
  let name ← Identifier.parser
  Parser.expectKeyword "AS"
  if ← Parser.symbol "(" then
    pure (name.render ++ " AS (" ++ (← Expr.window inner) ++ ")")
  else if ← Parser.grammarIn [.bigQuery, .generic] then
    pure (name.render ++ " AS " ++ (← Identifier.parser).render)
  else Parser.expected "("

/-- Named windows, if there are any. -/
def windows : Parser String :=
  Parser.clause ["WINDOW"] do pure (commaList (← Parser.separated (namedWindow inner)))

/-- Whether the rows of a selection may be connected to each other. -/
def hasConnections : Grammar → Bool
  | .generic | .sqlServer | .redshift | .snowflake => true
  | _ => false

/-- How rows are connected to each other, from a root on. -/
def connection : Parser String := do
  let relations : Parser String := do
    pure (commaList (← Parser.withPrior inner.exprTexts))
  let root : Parser String := do
    Parser.expectKeywords ["START", "WITH"]
    inner.exprText
  let written (root relations : String) : String :=
    " START WITH " ++ root ++ " CONNECT BY " ++ relations
  if ← Parser.keywords ["CONNECT", "BY"] then
    let relations ← relations
    pure (written (← root) relations)
  else
    let root ← root
    Parser.expectKeywords ["CONNECT", "BY"]
    pure (written root (← relations))

/-- The connection of the rows of a selection, if there is one. -/
def connection? : Parser String := do
  let key ← Parser.peekKey
  if hasConnections (← Parser.grammar) && (key == "START" || key == "CONNECT") then
    connection inner
  else pure ""

/-- A selection. -/
def selection : Parser String := do
  let grammar ← Parser.grammar
  Parser.expectKeyword "SELECT"
  let mode ←
    if ← Parser.keywordIn [.bigQuery] "AS" then
      match ← Parser.oneOf ["VALUE", "STRUCT"] with
      | some word => pure (" AS " ++ word)
      | none => Parser.expected "VALUE or STRUCT"
    else pure ""
  let early ← if grammar == .redshift then top inner else pure ""
  let distinct ← distinct inner
  let late ← if grammar == .redshift then pure "" else top inner
  let list ←
    if (grammar == .postgres || grammar == .generic) && (← Parser.sees "FROM") then pure ""
    else pure (" " ++ (← selectList inner))
  let into ← if ← Parser.keyword "INTO" then intoTable else pure ""
  let source ← Parser.clause ["FROM"] (tables inner)
  let views ← Parser.many (lateralView? inner)
  let first ←
    if grammar == .clickHouse || grammar == .generic then Parser.clause ["PREWHERE"] inner.exprText
    else pure ""
  let condition ← Parser.clause ["WHERE"] inner.exprText
  let groups ← groups inner
  let lists ← ["CLUSTER", "DISTRIBUTE", "SORT"].mapM fun word =>
    Parser.clause [word, "BY"] do pure (commaList (← inner.exprTexts))
  let having ← Parser.clause ["HAVING"] inner.exprText
  let windowsFirst ← windows inner
  let qualify ← Parser.clause ["QUALIFY"] inner.exprText
  let windowsLast ←
    if windowsFirst.isEmpty && !qualify.isEmpty then windows inner else pure ""
  let connection ← connection? inner
  pure ("SELECT" ++ mode ++ early ++ distinct ++ late ++ list ++ into ++ source ++
    String.join views ++ first ++ condition ++ groups ++ String.join lists ++ having ++
    windowsFirst ++ qualify ++ windowsLast ++ connection)

end TableCatalog.Query
