import TableCatalog.Expr.Parser

/-!
# Names given in queries

A select item or a table may be renamed, with `AS` or without. Without it, the words
that may go on with the query are no names.
-/

namespace TableCatalog.Query

variable (inner : Phrases)

/-- A name that something is given. `accepts` decides on words, told whether `AS` stands
before them; quoted texts are always names. -/
def aliasBy (accepts : Bool → String → Parser Bool) : Parser (Option Identifier) := do
  let afterAs ← Parser.keyword "AS"
  let token ← Parser.peek
  match token with
  | some ⟨⟨.word word, _, past⟩, key⟩ =>
    if ← accepts afterAs key then
      Parser.advance
      pure (some (word.toIdentifier past))
    else pure none
  | some ⟨⟨.string .single _, _, _⟩, _⟩ | some ⟨⟨.string .double _, _, _⟩, _⟩ =>
    pure (some (← Identifier.parser))
  | _ => if afterAs then Parser.expected "an identifier after AS" else pure none

/-- A name that something is given, unless it is one of `reserved` and no `AS` stands
before it. -/
def alias? (reserved : List String) : Parser (Option Identifier) :=
  aliasBy fun afterAs key => pure (afterAs || !reserved.contains key)

/-- Whether a word renames a select item in Snowflake's grammar. Some words do so only
if nothing follows them that would go on with the query. -/
def renamesInSnowflake (afterAs : Bool) (key : String) : Parser Bool := do
  if afterAs then pure true
  else if ["EXCEPT", "LIMIT", "OFFSET", "RETURNING"].contains key then
    match ← Parser.peekOfText 1 with
    | none | some ⟨⟨.symbol ",", _, _⟩, _⟩ => pure true
    | _ => pure false
  else if key == "FETCH" then
    let second ← Parser.peekKeyAt 1
    pure !(second == "FIRST" || second == "NEXT")
  else pure !(Keyword.notSnowflakeAlias.contains key)

/-- The name that a select item is given. -/
def itemAlias? : Parser (Option Identifier) := do
  if (← Parser.grammar) == .snowflake then aliasBy renamesInSnowflake
  else alias? Keyword.notColumnAlias

/-- A column of a renamed table. -/
def aliasColumn : Parser String := do
  let name ← Identifier.parser
  let type ← Parser.optional (DataType.parserOf inner.column)
  pure (name.render ++ afterBlank (type.map DataType.render))

/-- The names of the columns of a renamed table. -/
def aliasColumns : Parser String := do
  if ← Parser.symbol "(" then
    let columns ← Parser.separated (aliasColumn inner)
    Parser.expectSymbol ")"
    pure (" (" ++ commaList columns ++ ")")
  else pure ""

/-- The name that a table is given, with those of its columns. -/
def tableAlias? : Parser (Option String) := do
  match ← alias? Keyword.notTableAlias with
  | some name => pure (some (name.render ++ (← aliasColumns inner)))
  | none => pure none

end TableCatalog.Query
