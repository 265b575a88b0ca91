import TableCatalog.TableDefinition.Parser

/-!
# Statements that change rows

Insertions, updates, deletions and merges, read for their canonical spelling.
-/

namespace TableCatalog.Statement

variable (inner : Phrases)

/-- What an insertion does with a row that is there already, if that is told at once. -/
def conflictRule : Parser (Option String) := do
  let rules := ["REPLACE", "ROLLBACK", "ABORT", "FAIL", "IGNORE"]
  let second ← Parser.peekKeyAt 1
  if (← Parser.sees "OR") && rules.contains second then
    Parser.advance
    Parser.advance
    pure (some ("OR " ++ second))
  else if ← Parser.keyword "REPLACE" then pure (some "OR REPLACE")
  else pure none

/-- A new value for a column, or for several at once. -/
def assignment : Parser String := do
  let target ←
    if ← Parser.symbol "(" then
      let columns ← Parser.separated ObjectName.parser
      Parser.expectSymbol ")"
      pure ("(" ++ commaList (columns.map ObjectName.render) ++ ")")
    else pure (← ObjectName.parser).render
  Parser.expectSymbol "="
  pure (target ++ " = " ++ (← inner.exprText))

/-- New values with separators. -/
def assignments : Parser String := do
  pure (commaList (← Parser.separated (assignment inner)))

/-- The rows that a change gives back. -/
def returning : Parser String :=
  Parser.clause ["RETURNING"] do
    pure (commaList (← Parser.separated (Query.selectItem inner)))

/-- Columns in parentheses that may be missing; `mayBeEmpty` allows parentheses with
nothing in them. -/
def columnsOrNone (mayBeEmpty : Bool) : Parser String := do
  let second := (← Parser.peekAt 1).map (·.placed.token)
  if mayBeEmpty && (← Parser.seesSymbol "(") && second == some .closeParen then
    Parser.advance
    Parser.advance
    pure ""
  else
    let columns ← Identifier.optionalColumns
    pure (if columns.isEmpty then "" else "(" ++ Identifier.renderAll columns ++ ") ")

/-- What an insertion does about rows that are there already. -/
def onConflict : Parser String := do
  if ← Parser.keyword "ON" then
    if ← Parser.keyword "CONFLICT" then
      let target ←
        if ← Parser.keywords ["ON", "CONSTRAINT"] then
          pure (" ON CONSTRAINT " ++ (← ObjectName.parser).render)
        else if ← Parser.seesSymbol "(" then
          pure ("(" ++ Identifier.renderAll (← Identifier.requiredColumns) ++ ")")
        else pure ""
      Parser.expectKeyword "DO"
      if ← Parser.keyword "NOTHING" then pure (" ON CONFLICT" ++ target ++ " DO NOTHING")
      else
        Parser.expectKeywords ["UPDATE", "SET"]
        let values ← assignments inner
        let condition ← Parser.clause ["WHERE"] inner.exprText
        pure (" ON CONFLICT" ++ target ++ " DO UPDATE SET " ++ values ++ condition)
    else
      Parser.expectKeywords ["DUPLICATE", "KEY", "UPDATE"]
      pure (" ON DUPLICATE KEY UPDATE " ++ (← assignments inner))
  else pure ""

/-- The format of the rows that follow an insertion. -/
def inputFormat : Parser String := do
  let name ← Identifier.parser
  let values ← Parser.optional (Parser.separated inner.exprText)
  pure (name.render ++ (values.elim "" fun values => " " ++ commaList values))

/-- Where the rows of an insertion come from: the columns that they fill, with a blank
after them, and the rows if they are told. -/
structure RowSource where
  columns : String
  hasColumns : Bool
  rows : Option String

namespace RowSource

/-- An insertion of default values, or one whose rows only a format tells. -/
def untold : RowSource :=
  ⟨"", false, none⟩

/-- The rows of an insertion. If they are not told, a format tells them; without one,
and without columns, they are default values. -/
def render (source : RowSource) (settings : String) (format : Option String) : String :=
  let rows :=
    match source.rows, format with
    | some rows, _ => rows
    | none, some format => "FORMAT " ++ format
    | none, none => if source.hasColumns then "" else "DEFAULT VALUES"
  source.columns ++ (if settings.isEmpty then "" else settings ++ " ") ++ rows

/-- Where the rows of an insertion come from, columns first. -/
def parser : Parser RowSource := do
  let grammar ← Parser.grammar
  if ← Parser.keywords ["DEFAULT", "VALUES"] then pure untold
  else
    let second ← Parser.peekKeyAt 1
    let (columns, hasColumns) ←
      if (← Parser.seesSymbol "(") && second == "SELECT" then pure ("", false)
      else
        let columns ← columnsOrNone (grammar == .mysql)
        let partition ←
          if ← Parser.keyword "PARTITION" then
            let parts ← Parser.parenthesized inner.exprTexts
            pure ("PARTITION (" ++ commaList parts ++ ") ")
          else pure ""
        let later ← if grammar == .hive then columnsOrNone false else pure ""
        pure (columns ++ partition ++ later, !columns.isEmpty)
    if ["FORMAT", "SETTINGS"].contains (← Parser.peekKey) then pure ⟨columns, hasColumns, none⟩
    else if ← Parser.keywordIn [.mysql] "SET" then
      pure ⟨columns, hasColumns, some ("SET " ++ (← assignments inner))⟩
    else pure ⟨columns, hasColumns, some (← inner.query)⟩

end RowSource

/-- An insertion into a directory, after its keyword. -/
def intoDirectory (head : String) : Parser String := do
  let path ← Literal.text
  let format ←
    if ← Parser.keywords ["STORED", "AS"] then
      pure (" STORED AS " ++ (← TableDefinition.fileFormat))
    else pure ""
  pure (head ++ "DIRECTORY '" ++ path ++ "'" ++ format ++ " " ++ (← inner.query))

/-- The table that an insertion goes to. -/
def insertionTarget : Parser String := do
  if ← Parser.keywordIn [.clickHouse] "FUNCTION" then
    let name ← ObjectName.parser
    let call ← Expr.call inner name.render
    pure ("FUNCTION " ++ call.text)
  else
    let name ← ObjectName.parser
    if ← Parser.keywordIn [.postgres] "AS" then
      pure (name.render ++ " AS " ++ (← Identifier.parser).render)
    else pure name.render

/-- The names under which an update on conflict knows the new row. -/
def rowAlias : Parser String := do
  if ← Parser.keyword "AS" then
    let name ← ObjectName.parser
    let columns ← Identifier.optionalColumns
    pure (" AS " ++ name.render ++
      (if columns.isEmpty then "" else " (" ++ Identifier.renderAll columns ++ ")"))
  else pure ""

/-- An insertion, after its keyword, which is `word`. -/
def insertion (word : String) : Parser String := do
  let grammar ← Parser.grammar
  let loose := grammar == .mysql || grammar == .generic
  let rule ← conflictRule
  let priority ←
    if loose then Parser.oneOf ["LOW_PRIORITY", "DELAYED", "HIGH_PRIORITY"] else pure none
  let ignore := if ← Parser.onlyIf loose (Parser.keyword "IGNORE") then " IGNORE" else ""
  let overwrite ← Parser.keyword "OVERWRITE"
  let into := if ← Parser.keyword "INTO" then " INTO" else ""
  let local' ← Parser.keyword "LOCAL"
  if ← Parser.keyword "DIRECTORY" then
    intoDirectory inner ("INSERT" ++ (if overwrite then " OVERWRITE" else "") ++
      (if local' then " LOCAL " else " "))
  else
    let table := if ← Parser.keyword "TABLE" then " TABLE" else ""
    let target ← insertionTarget inner
    let source ← RowSource.parser inner
    let settings ← if grammar == .clickHouse then Query.settings? else pure none
    let format ←
      if ← Parser.keywordIn [.clickHouse] "FORMAT" then pure (some (← inputFormat inner))
      else pure none
    let renamed ← if loose then rowAlias else pure ""
    let conflict ← onConflict inner
    let returning ← returning inner
    let head := rule.elim
      (word ++ afterBlank priority ++ ignore ++ (if overwrite then " OVERWRITE" else "") ++ into ++
        table)
      fun rule => "INSERT " ++ rule ++ " INTO"
    pure (head ++ " " ++ target ++ " " ++ source.render (settings.getD "") format ++ renamed ++
      conflict ++ returning)

/-- An update, after its keyword. -/
def update : Parser String := do
  let grammar ← Parser.grammar
  let rule ← conflictRule
  let table ← inner.joins
  let before ← Parser.clause ["FROM"] do pure (← inner.joins).render
  Parser.expectKeyword "SET"
  let values ← assignments inner
  let after ←
    if ← Parser.onlyIf before.isEmpty (Parser.keyword "FROM") then
      if [Grammar.generic, .postgres, .duckDb, .bigQuery, .snowflake, .redshift, .sqlServer,
          .sqlite].contains grammar then
        pure (" FROM " ++ (← inner.joins).render)
      else pure ""
    else pure ""
  let condition ← Parser.clause ["WHERE"] inner.exprText
  let returning ← returning inner
  pure ("UPDATE" ++ afterBlank rule ++ " " ++ table.render ++ before ++ " SET " ++ values ++
    after ++ condition ++ returning)

/-- A deletion, after its keyword. -/
def deletion : Parser String := do
  let grammar ← Parser.grammar
  let tables ←
    if ← Parser.keyword "FROM" then pure "FROM "
    else if grammar == .bigQuery || grammar == .generic then pure ""
    else
      let tables ← Parser.separated ObjectName.parser
      Parser.expectKeyword "FROM"
      pure (commaList (tables.map ObjectName.render) ++ " FROM ")
  let joined : Parser String := do
    pure (commaList (← Parser.separated do pure (← inner.joins).render))
  let source ← joined
  let others ← Parser.clause ["USING"] joined
  let condition ← Parser.clause ["WHERE"] inner.exprText
  let returning ← returning inner
  let order ← Parser.clause ["ORDER", "BY"] (Expr.sortKeys inner)
  let limit ←
    if ← Parser.keyword "LIMIT" then
      if ← Parser.keyword "ALL" then pure "" else pure (" LIMIT " ++ (← inner.exprText))
    else pure ""
  pure ("DELETE " ++ tables ++ source ++ others ++ condition ++ returning ++ order ++ limit)

/-- What a merge does with the rows of one kind; `unmatched` rows can only be inserted. -/
def mergeAction (kind : String) (unmatched : Bool) : Parser String := do
  let grammar ← Parser.grammar
  let refuse (word : String) : Parser String :=
    let text := word ++ " is not allowed in a " ++ kind ++ " merge clause"
    Parser.fail (.refused text Location.none)
  match ← Parser.oneOf ["UPDATE", "INSERT", "DELETE"] with
  | some "UPDATE" =>
    if unmatched then refuse "UPDATE"
    else
      Parser.expectKeyword "SET"
      pure ("UPDATE SET " ++ (← assignments inner))
  | some "DELETE" => if unmatched then refuse "DELETE" else pure "DELETE"
  | some _ =>
    if !unmatched then refuse "INSERT"
    else
      let columns ← columnsOrNone (grammar == .mysql)
      if ← Parser.keywordIn [.bigQuery, .generic] "ROW" then
        pure ("INSERT " ++ columns ++ "ROW")
      else
        Parser.expectKeyword "VALUES"
        pure ("INSERT " ++ columns ++ (← Query.values inner (grammar == .mysql)))
  | none =>
    Parser.fail (.refused "expected UPDATE, DELETE or INSERT in merge clause" Location.none)

/-- What a merge does with the rows of one kind; none at the end of the statement. -/
def mergeClause? : Parser (Option String) := do
  if (← Parser.peek).isNone then pure none
  else
    Parser.expectKeyword "WHEN"
    let unmatched ← Parser.keyword "NOT"
    Parser.expectKeyword "MATCHED"
    let side ←
      if !unmatched then pure ""
      else if ← Parser.keywords ["BY", "SOURCE"] then pure " BY SOURCE"
      else if ← Parser.keywords ["BY", "TARGET"] then pure " BY TARGET"
      else pure ""
    let kind := (if unmatched then "NOT " else "") ++ "MATCHED" ++ side
    let condition ← Parser.clause ["AND"] inner.exprText
    Parser.expectKeyword "THEN"
    let action ← mergeAction inner kind (unmatched && side != " BY SOURCE")
    pure (some ("WHEN " ++ kind ++ condition ++ " THEN " ++ action))

/-- A merge, after its keyword. -/
def merge : Parser String := do
  let into := if ← Parser.keyword "INTO" then " INTO" else ""
  let table ← Query.tableFactor inner
  Parser.expectKeyword "USING"
  let source ← Query.tableFactor inner
  Parser.expectKeyword "ON"
  let condition ← inner.exprText
  let clauses ← Parser.many (mergeClause? inner)
  pure ("MERGE" ++ into ++ " " ++ table.render ++ " USING " ++ source.render ++ " ON " ++
    condition ++ " " ++ " ".intercalate clauses)

end TableCatalog.Statement
