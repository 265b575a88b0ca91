import TableCatalog.Statement
import TableCatalog.Statement.Change

/-!
# Statements that remove objects

What can be dropped, and the canonical spelling of doing so. Only the removal of a
table is told apart.
-/

namespace TableCatalog.Statement

variable (inner : Phrases)

/-- `IF EXISTS` with a blank before it, if it is next. -/
def ifExists : Parser String := do
  pure (if ← Parser.keywords ["IF", "EXISTS"] then " IF EXISTS" else "")

/-- `IF NOT EXISTS` with a blank after it, if it is next. -/
def ifNotExists : Parser String := do
  pure (if ← Parser.keywords ["IF", "NOT", "EXISTS"] then "IF NOT EXISTS " else "")

/-- What happens to the objects that depend on a dropped one. -/
def dropBehavior : Parser String := do
  pure (afterBlank (← Parser.oneOf ["CASCADE", "RESTRICT"]))

/-- An argument in the description of a function: its mode, its name, its type and its
default. A type that is known by its name alone is the name of the argument. -/
def functionArgument : Parser String := do
  let mode := (← Parser.oneOf ["IN", "OUT", "INOUT"]).elim "" (· ++ " ")
  let first ← DataType.parserOf inner.column
  let declared ←
    match first with
    | .custom name _ =>
      let type ← DataType.parserOf inner.column
      pure ((name.head?.elim "" Identifier.render) ++ " " ++ type.render)
    | type => pure type.render
  let default' ←
    if (← Parser.keyword "DEFAULT") then pure (" = " ++ (← inner.exprText))
    else if ← Parser.symbol "=" then pure (" = " ++ (← inner.exprText))
    else pure ""
  pure (mode ++ declared ++ default')

/-- A function or a procedure with the types by which it is told from others of its
name. -/
def functionDescription : Parser String := do
  let name ← ObjectName.parser
  if ← Parser.symbol "(" then
    if ← Parser.symbol ")" then pure name.render
    else
      let args ← Parser.separated (functionArgument inner)
      Parser.expectSymbol ")"
      pure (name.render ++ "(" ++ commaList args ++ ")")
  else pure name.render

/-- The removal of functions or procedures, after its keywords. -/
def routineRemoval (kind : String) : Parser Statement := do
  let guarded ← ifExists
  let routines ← Parser.separated (functionDescription inner)
  pure (.other ("DROP " ++ kind ++ guarded ++ " " ++ commaList routines ++ (← dropBehavior)))

/-- The removal of something that belongs to a table, after its keywords. -/
def attachedRemoval (kind : String) (nameParser : Parser String) : Parser Statement := do
  let guarded ← ifExists
  let name ← nameParser
  Parser.expectKeyword "ON"
  let table ← ObjectName.parser
  let behavior ← dropBehavior
  pure (.other ("DROP " ++ kind ++ guarded ++ " " ++ name ++ " ON " ++ table.render ++ behavior))

/-- The removal of a secret, after its keywords. It cannot be of both spans. -/
def secretRemoval (temporary persistent : Bool) : Parser Statement := do
  let guarded := if ← Parser.keywords ["IF", "EXISTS"] then "IF EXISTS " else ""
  let name ← Identifier.parser
  let source ←
    if ← Parser.keyword "FROM" then
      match ← Parser.attempt Identifier.parser with
      | some source => pure (" FROM " ++ source.render)
      | none => pure ""
    else pure ""
  if temporary && persistent then Parser.expected "TEMPORARY or PERSISTENT"
  else
    let span := if temporary then "TEMPORARY " else if persistent then "PERSISTENT " else ""
    pure (.other ("DROP " ++ span ++ "SECRET " ++ guarded ++ name.render ++ source))

/-- The removal of objects that are known by their names, after its keywords. -/
def namedRemoval (span kind : String) : Parser Statement := do
  let guarded ← ifExists
  let names ← Parser.separated ObjectName.parser
  let place ← Parser.place
  let cascade ← Parser.keyword "CASCADE"
  let restrict ← Parser.keyword "RESTRICT"
  let purge ← Parser.keyword "PURGE"
  if cascade && restrict then
    Parser.fail (.refused "Cannot specify both CASCADE and RESTRICT in DROP" place)
  else if kind == "ROLE" && (cascade || restrict || purge) then
    Parser.fail (.refused "Cannot specify CASCADE, RESTRICT, or PURGE in DROP ROLE" place)
  else
    let text := "DROP " ++ span ++ kind ++ guarded ++ " " ++
      commaList (names.map ObjectName.render) ++ (if cascade then " CASCADE" else "") ++
      (if restrict then " RESTRICT" else "") ++ (if purge then " PURGE" else "")
    pure (if kind == "TABLE" then .dropTable text else .other text)

/-- The kinds of objects that are dropped by their names. -/
def namedKinds : List String :=
  ["TABLE", "VIEW", "INDEX", "ROLE", "SCHEMA", "DATABASE", "SEQUENCE", "STAGE", "TYPE"]

/-- The removal of objects, after its keyword. -/
def removal : Parser Statement := do
  let grammar ← Parser.grammar
  let temporary ← Parser.keywordIn [.mysql, .generic, .duckDb] "TEMPORARY"
  let persistent ← Parser.keywordIn [.duckDb] "PERSISTENT"
  let span := if temporary then "TEMPORARY " else ""
  match ← Parser.oneOf namedKinds with
  | some kind => namedRemoval span kind
  | none =>
    if ← Parser.keyword "FUNCTION" then routineRemoval inner "FUNCTION"
    else if ← Parser.keyword "POLICY" then
      attachedRemoval "POLICY" do pure (← Identifier.parser).render
    else if ← Parser.keyword "PROCEDURE" then routineRemoval inner "PROCEDURE"
    else if ← Parser.keyword "SECRET" then secretRemoval temporary persistent
    else if ← Parser.sees "TRIGGER" then
      if grammar == .postgres || grammar == .generic then
        Parser.advance
        attachedRemoval "TRIGGER" do pure (← ObjectName.parser).render
      else Parser.expected "an object type after DROP"
    else if ← Parser.keyword "EXTENSION" then
      let guarded ← ifExists
      let names ← Parser.separated Identifier.parser
      pure (.other ("DROP EXTENSION" ++ guarded ++ " " ++ Identifier.renderAll names ++
        (← dropBehavior)))
    else
      Parser.expected ("DATABASE, EXTENSION, FUNCTION, INDEX, POLICY, PROCEDURE, ROLE, SCHEMA, " ++
        "SECRET, SEQUENCE, STAGE, TABLE, TRIGGER, TYPE, or VIEW after DROP")

end TableCatalog.Statement
