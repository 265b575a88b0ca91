import TableCatalog.Statement.Removal

/-!
# Declarations

Cursors and variables, which grammars declare in ways of their own, and the rows that
are taken from cursors.
-/

namespace TableCatalog.Statement.Declaration

variable (inner : Phrases)

/-- A cursor. -/
def cursor : Parser String := do
  let name ← Identifier.parser
  let binary := if ← Parser.keyword "BINARY" then " BINARY" else ""
  let sensitive := afterBlank (← Parser.oneOf ["INSENSITIVE", "ASENSITIVE"])
  let scroll ←
    if ← Parser.keyword "SCROLL" then pure " SCROLL"
    else if ← Parser.keywords ["NO", "SCROLL"] then pure " NO SCROLL"
    else pure ""
  Parser.expectKeyword "CURSOR"
  let hold ←
    match ← Parser.oneOf ["WITH", "WITHOUT"] with
    | some word =>
      Parser.expectKeyword "HOLD"
      pure (" " ++ word ++ " HOLD")
    | none => pure ""
  Parser.expectKeyword "FOR"
  let query ← inner.query
  pure (name.render ++ binary ++ sensitive ++ scroll ++ " CURSOR" ++ hold ++ " FOR " ++ query)

/-- A variable whose name begins with an at sign. -/
def markedVariable : Parser String := do
  let name ← Identifier.parser
  if !name.text.startsWith "@" then
    Parser.fail (.refused "Invalid MsSql variable declaration." Location.none)
  else
    let type ←
      if ← Parser.keyword "CURSOR" then pure " CURSOR"
      else
        let _ ← Parser.keyword "AS"
        pure (" " ++ (← DataType.parserOf inner.column).render)
    let value ← if ← Parser.symbol "=" then pure (" = " ++ (← inner.exprText)) else pure ""
    pure (name.render ++ type ++ value)

/-- Variables of one type. -/
def typedVariables : Parser String := do
  let names ← Parser.separated Identifier.parser
  let typed := !(← Parser.sees "DEFAULT")
  let type ←
    if typed then pure (" " ++ (← DataType.parserOf inner.column).render) else pure ""
  let value ← Parser.clause ["DEFAULT"] inner.exprText
  pure (Identifier.renderAll names ++ type ++ value)

/-- The first value of a variable, if it is told. -/
def firstValue : Parser String := do
  if ← Parser.keyword "DEFAULT" then pure (" DEFAULT " ++ (← inner.exprText))
  else if ← Parser.symbol ":=" then pure (" := " ++ (← inner.exprText))
  else pure ""

/-- What a name in Snowflake's grammar stands for: a cursor, a set of results, an
exception or a variable. -/
def snowflakeItem : Parser String := do
  let name ← Identifier.parser
  let meaning ←
    match ← Parser.oneOf ["CURSOR", "RESULTSET", "EXCEPTION"] with
    | some "CURSOR" =>
      Parser.expectKeyword "FOR"
      if ← Parser.sees "SELECT" then pure (" CURSOR FOR " ++ (← inner.query))
      else pure (" CURSOR FOR " ++ (← inner.exprText))
    | some "RESULTSET" => pure (" RESULTSET" ++ (← firstValue inner))
    | some _ =>
      if ← Parser.seesSymbol "(" then pure (" EXCEPTION " ++ (← inner.exprText))
      else pure " EXCEPTION"
    | none =>
      let value ← firstValue inner
      match value.isEmpty, ← Parser.peek with
      | true, some ⟨⟨.word _, _, _⟩, _⟩ =>
        let type ← DataType.parserOf inner.column
        pure (" " ++ type.render ++ (← firstValue inner))
      | _, _ => pure value
  pure (name.render ++ meaning)

/-- Declarations in Snowflake's grammar, at most `fuel` of them, each after a terminator.
A keyword after a terminator, even in quotes, belongs to the next statement. -/
def snowflakeItems : Nat → Parser (List String)
  | 0 => pure []
  | fuel + 1 => do
    let first ← snowflakeItem inner
    if ← Parser.terminator then
      match ← Parser.peek with
      | some ⟨⟨.word word, _, _⟩, _⟩ =>
        if Keyword.isKeyword (Text.keywordKey word.text) then
          Parser.retreat
          pure [first]
        else
          let rest ← snowflakeItems fuel
          pure (first :: rest)
      | _ =>
        Parser.retreat
        pure [first]
    else pure [first]

/-- Declarations, after their keyword. -/
def parser : Parser String := do
  let items ←
    match ← Parser.grammar with
    | .sqlServer => Parser.separated (markedVariable inner)
    | .snowflake => snowflakeItems inner (← Parser.fuel)
    | .bigQuery => pure [← typedVariables inner]
    | _ => pure [← cursor inner]
  pure ("DECLARE " ++ "; ".intercalate items)

/-- The rows that are taken from a cursor, after `FETCH`. -/
def fetching : Parser String := do
  let count (word : String) : Parser String := do
    pure (word ++ " " ++ (← Literal.numberValue))
  let direction ←
    match ← Parser.oneOf ["NEXT", "PRIOR", "FIRST", "LAST", "ABSOLUTE", "RELATIVE", "ALL",
        "FORWARD", "BACKWARD"] with
    | some "ABSOLUTE" => count "ABSOLUTE"
    | some "RELATIVE" => count "RELATIVE"
    | some word =>
      if word == "FORWARD" || word == "BACKWARD" then
        if ← Parser.keyword "ALL" then pure (word ++ " ALL") else count word
      else pure word
    | none => Literal.numberValue
  let _ ← Parser.expectOneOf ["FROM", "IN"]
  let name ← Identifier.parser
  let target ← Parser.clause ["INTO"] do pure (← ObjectName.parser).render
  pure ("FETCH " ++ direction ++ " IN " ++ name.render ++ target)

end TableCatalog.Statement.Declaration
