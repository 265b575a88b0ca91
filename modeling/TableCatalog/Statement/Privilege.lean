import TableCatalog.Statement.Removal

/-!
# Statements about privileges

Granting and revoking, read for their canonical spelling.
-/

namespace TableCatalog.Statement

/-- One privilege, with the columns that it is for. -/
def privilege : Parser String := do
  match ← Parser.oneOf ["CONNECT", "CREATE", "DELETE", "EXECUTE", "INSERT", "REFERENCES", "SELECT",
      "TEMPORARY", "TRIGGER", "TRUNCATE", "UPDATE", "USAGE"] with
  | some word =>
    if ["INSERT", "REFERENCES", "SELECT", "UPDATE"].contains word then
      let columns ← Identifier.optionalColumns
      pure (word ++ (if columns.isEmpty then "" else " (" ++ Identifier.renderAll columns ++ ")"))
    else pure word
  | none => Parser.expected "a privilege keyword"

/-- Privileges with separators between them. -/
def privileges : Parser String := do
  let closers := if Parser.trailingCommas (← Parser.grammar) then some ["ON"] else none
  pure (commaList (← Parser.separatedBy closers privilege))

/-- Privileges and the objects that they are about. -/
def privilegesAndObjects : Parser String := do
  let privileges ←
    if ← Parser.keyword "ALL" then
      pure (if ← Parser.keyword "PRIVILEGES" then "ALL PRIVILEGES" else "ALL")
    else privileges
  Parser.expectKeyword "ON"
  let names : Parser String := do
    pure (commaList ((← Parser.separated ObjectName.wildParser).map ObjectName.render))
  let objects ←
    if ← Parser.keywords ["ALL", "TABLES", "IN", "SCHEMA"] then
      pure ("ALL TABLES IN SCHEMA " ++ (← names))
    else if ← Parser.keywords ["ALL", "SEQUENCES", "IN", "SCHEMA"] then
      pure ("ALL SEQUENCES IN SCHEMA " ++ (← names))
    else
      match ← Parser.oneOf ["SEQUENCE", "SCHEMA", "TABLE"] with
      | some "TABLE" | none => names
      | some word => pure (word ++ " " ++ (← names))
  pure (privileges ++ " ON " ++ objects)

/-- The name of a user: a user of a host, in the grammars that have such, or a plain
name. `true` marks the former. -/
def userName : Parser (String × Bool) := do
  let name ← ObjectName.parser
  let grammar ← Parser.grammar
  let hosted := (grammar == .mysql || grammar == .generic) && name.length == 1
  if ← Parser.onlyIf hosted (Parser.symbol "@") then
    pure (name.render ++ "@" ++ (← Identifier.parser).render, true)
  else pure (name.render, false)

/-- One who is granted privileges; a kind that is told holds for those that follow. -/
def grantee (kind : String) : Parser (String × String) := do
  let kind ←
    if ← Parser.keywords ["DATABASE", "ROLE"] then pure "DATABASE ROLE"
    else if ← Parser.keywords ["APPLICATION", "ROLE"] then pure "APPLICATION ROLE"
    else
      pure ((← Parser.oneOf ["ROLE", "USER", "SHARE", "GROUP", "PUBLIC", "APPLICATION"]).getD kind)
  let mark := if kind.isEmpty then "" else kind ++ " "
  if kind == "PUBLIC" then pure (kind, mark)
  else
    let (name, hosted) ← userName
    if ← Parser.symbol ":" then
      let group ← Identifier.parser
      pure (kind, mark ++ (if hosted then name else name ++ ":" ++ group.render))
    else pure (kind, mark ++ name)

/-- Those who are granted privileges, at most `fuel` of them. -/
def grantees : Nat → String → Parser (List String)
  | 0, _ => pure []
  | fuel + 1, kind => do
    let (kind, first) ← grantee kind
    if ← Parser.symbol "," then
      let rest ← grantees fuel kind
      pure (first :: rest)
    else pure [first]

/-- Who grants privileges. -/
def grantor : Parser String :=
  Parser.clause ["GRANTED", "BY"] do pure (← Identifier.parser).render

/-- A grant, after its keyword. -/
def grant : Parser String := do
  let subject ← privilegesAndObjects
  Parser.expectKeyword "TO"
  let receivers ← grantees (← Parser.fuel) ""
  let option := if ← Parser.keywords ["WITH", "GRANT", "OPTION"] then " WITH GRANT OPTION" else ""
  pure ("GRANT " ++ subject ++ " TO " ++ commaList receivers ++ option ++ (← grantor))

/-- A revocation, after its keyword. -/
def revocation : Parser String := do
  let subject ← privilegesAndObjects
  Parser.expectKeyword "FROM"
  let holders ← grantees (← Parser.fuel) ""
  let grantor ← grantor
  pure ("REVOKE " ++ subject ++ " FROM " ++ commaList holders ++ grantor ++ (← dropBehavior))

end TableCatalog.Statement
