import TableCatalog.ColumnDefinition.Parser

/-!
# Reading table constraints

Constraints stand among the columns of a table. They are read for their extent and
their canonical spelling; no column is reported from them.
-/

namespace TableCatalog.Constraint

/-- How an index is built. -/
def indexMethod? : Parser (Option String) := do
  if ← Parser.keyword "USING" then
    match ← Parser.oneOf ["BTREE", "HASH"] with
    | some word => pure (some word)
    | none => Parser.expected "index type \x7bBTREE | HASH\x7d"
  else pure none

/-- An option of an index. -/
def indexOption? : Parser (Option String) := do
  match ← indexMethod? with
  | some word => pure (some (" USING " ++ word))
  | none =>
    if ← Parser.keyword "COMMENT" then
      pure (some (" COMMENT " ++ quoteText (← Literal.text)))
    else pure none

/-- What follows the words of a key: a name, a method, columns and options. -/
def keyBody : Parser String := do
  let name ← Parser.optional Identifier.parser
  let method ← indexMethod?
  let columns ← Identifier.requiredColumns
  let options ← Parser.many indexOption?
  let characteristics ← constraintCharacteristics
  pure (afterBlank (name.map Identifier.render) ++
    (method.elim "" fun word => " USING " ++ word) ++ " (" ++ Identifier.renderAll columns ++ ")" ++
    String.join options ++ characteristics)

/-- Whether nulls count as different in a unique key. -/
def nullsDistinct : Parser String := do
  if ← Parser.keyword "NULLS" then
    let negation := if ← Parser.keyword "NOT" then "NOT " else ""
    Parser.expectKeyword "DISTINCT"
    pure (" NULLS " ++ negation ++ "DISTINCT")
  else pure ""

/-- A reference to another table, after `FOREIGN`. -/
def foreignKey : Parser String := do
  Parser.expectKeyword "KEY"
  let columns ← Identifier.requiredColumns
  Parser.expectKeyword "REFERENCES"
  let table ← ObjectName.parser
  let referred ← Identifier.optionalColumns
  let actions ← referentialActions
  let characteristics ← constraintCharacteristics
  pure ("FOREIGN KEY (" ++ Identifier.renderAll columns ++ ") REFERENCES " ++ table.render ++
    (if referred.isEmpty then "" else "(" ++ Identifier.renderAll referred ++ ")") ++ actions ++
    characteristics)

/-- An index, after its first word. -/
def plainIndex (word : String) : Parser String := do
  let name ←
    if ← Parser.sees "USING" then pure none else Parser.optional Identifier.parser
  let method ← indexMethod?
  let columns ← Identifier.requiredColumns
  pure (word ++ afterBlank (name.map Identifier.render) ++
    (method.elim "" fun word => " USING " ++ word) ++ " (" ++ Identifier.renderAll columns ++ ")")

/-- A full-text or spatial index, after its first word. -/
def specialIndex (word : String) : Parser String := do
  let kind := afterBlank (← Parser.oneOf ["KEY", "INDEX"])
  let name ← Parser.optional Identifier.parser
  let columns ← Identifier.requiredColumns
  pure (word ++ kind ++ afterBlank (name.map Identifier.render) ++ " (" ++
    Identifier.renderAll columns ++ ")")

/-- A constraint; none if something else is next. -/
def parser? (inner : Phrases) : Parser (Option String) := do
  let grammar ← Parser.grammar
  let indexes := grammar == .generic || grammar == .mysql
  let name ←
    if ← Parser.keyword "CONSTRAINT" then pure (some (← Identifier.parser)) else pure none
  let label := name.elim "" fun name => "CONSTRAINT " ++ name.render ++ " "
  let token ← Parser.next
  let key := token.elim "" (·.key)
  match key with
  | "UNIQUE" =>
    let kind := afterBlank (← Parser.oneOf ["KEY", "INDEX"])
    if !indexes && !kind.isEmpty then
      Parser.expected "\x60index_name\x60 or \x60(column_name [, ...])\x60"
    else
      let nulls ← nullsDistinct
      pure (some (label ++ "UNIQUE" ++ nulls ++ kind ++ (← keyBody)))
  | "PRIMARY" =>
    Parser.expectKeyword "KEY"
    pure (some (label ++ "PRIMARY KEY" ++ (← keyBody)))
  | "FOREIGN" => pure (some (label ++ (← foreignKey)))
  | "CHECK" =>
    let expr ← Parser.parenthesized inner.exprText
    pure (some (label ++ "CHECK (" ++ expr ++ ")"))
  | _ =>
    if (key == "INDEX" || key == "KEY") && indexes && name.isNone then
      pure (some (← plainIndex key))
    else if (key == "FULLTEXT" || key == "SPATIAL") && indexes then
      match name, token with
      | some name, some found =>
        Parser.expectedAt "FULLTEXT or SPATIAL option without constraint name"
          (some { found with placed := { found.placed with token := .word ⟨name.render, none⟩ } })
      | _, _ => pure (some (← specialIndex key))
    else if name.isSome then Parser.expectedAt "PRIMARY, UNIQUE, FOREIGN, or CHECK" token
    else
      Parser.retreat
      pure none

end TableCatalog.Constraint
