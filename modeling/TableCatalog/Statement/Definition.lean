import TableCatalog.Statement.Alteration
import TableCatalog.Statement.Privilege

/-!
# Statements that define objects other than tables

Views, indexes, schemas, databases, roles, sequences, types, routines and the like,
read for their canonical spelling. What a routine does is read as far as it is an
expression, a text or a query.
-/

namespace TableCatalog.Statement

variable (inner : Phrases)

/-- The words that a definition may begin with, as far as they are told apart. -/
structure DefinitionHead where
  orReplace : Bool
  orAlter : Bool
  global : Option Bool
  transient : Bool
  temporary : Bool
  persistent : Bool
  /-- How a view is carried out and for whom, as it is shown. -/
  manner : String

namespace DefinitionHead

/-- `OR REPLACE` with a blank after it. -/
def replacing (head : DefinitionHead) : String :=
  if head.orReplace then "OR REPLACE " else ""

/-- `TEMPORARY` with a blank after it. -/
def lasting (head : DefinitionHead) : String :=
  if head.temporary then "TEMPORARY " else ""

/-- What stands before the word `TABLE` and the name of a table. -/
def ofTable (head : DefinitionHead) : String :=
  "CREATE " ++ head.replacing ++
    (head.global.elim "" fun everywhere => if everywhere then "GLOBAL " else "LOCAL ") ++
    head.lasting ++ (if head.transient then "TRANSIENT " else "") ++ "TABLE "

end DefinitionHead

/-- How a view is carried out and for whom, each part with a blank after it. -/
def viewManner : Parser String := do
  let algorithm ←
    if ← Parser.keyword "ALGORITHM" then
      Parser.expectSymbol "="
      pure ("ALGORITHM = " ++ (← Parser.expectOneOf ["UNDEFINED", "MERGE", "TEMPTABLE"]) ++ " ")
    else pure ""
  let definer ←
    if ← Parser.keyword "DEFINER" then
      Parser.expectSymbol "="
      pure ("DEFINER = " ++ (← userName).1 ++ " ")
    else pure ""
  let security ←
    if ← Parser.keywords ["SQL", "SECURITY"] then
      pure ("SQL SECURITY " ++ (← Parser.expectOneOf ["DEFINER", "INVOKER"]) ++ " ")
    else pure ""
  pure (algorithm ++ definer ++ security)

/-- A column of a view. -/
def viewColumn : Parser String := do
  let grammar ← Parser.grammar
  let name ← Identifier.parser
  let optioned :=
    ((grammar == .bigQuery || grammar == .generic) && (← Parser.sees "OPTIONS")) ||
      ((grammar == .snowflake || grammar == .generic) && (← Parser.sees "COMMENT"))
  let option ← if optioned then ColumnDefinition.option? inner else pure none
  let type ←
    if grammar == .clickHouse then pure (" " ++ (← DataType.parserOf inner.column).render)
    else pure ""
  pure (name.render ++ type ++ (option.elim "" fun option => " " ++ option.render))

/-- The columns of a view. -/
def viewColumns : Parser String := do
  if ← Parser.symbol "(" then
    if ← Parser.symbol ")" then pure ""
    else
      let columns ← Parser.separated (viewColumn inner)
      Parser.expectSymbol ")"
      pure (" (" ++ commaList columns ++ ")")
  else pure ""

/-- The comment of a view. -/
def viewComment : Parser String := do
  if ← Parser.keyword "COMMENT" then
    Parser.expectSymbol "="
    let token ← Parser.next
    match token with
    | some ⟨⟨.string .single text, _, _⟩, _⟩ => pure (" COMMENT = " ++ quoteText text)
    | _ => Parser.expectedAt "string literal" token
  else pure ""

/-- A view, from `MATERIALIZED` or `VIEW` on. -/
def view (head : DefinitionHead) : Parser String := do
  let grammar ← Parser.grammar
  let grammarIn (grammars : List Grammar) : Bool := grammars.contains grammar
  let materialized := if ← Parser.keyword "MATERIALIZED" then "MATERIALIZED " else ""
  Parser.expectKeyword "VIEW"
  let guarded ← if grammarIn [.bigQuery, .sqlite, .generic] then ifNotExists else pure ""
  let name ← ObjectName.parserOf true
  let columns ← viewColumns inner
  let withOptions ← TableDefinition.spelledOptions inner "WITH"
  let cluster ←
    if ← Parser.keyword "CLUSTER" then
      Parser.expectKeyword "BY"
      let columns ← Identifier.optionalColumns
      pure (if columns.isEmpty then "" else " CLUSTER BY (" ++ Identifier.renderAll columns ++ ")")
    else pure ""
  let options ←
    if grammarIn [.bigQuery, .generic] then
      match ← keyedOptions inner ["OPTIONS"] with
      | some (first :: rest) => pure (" OPTIONS(" ++ commaList (first :: rest) ++ ")")
      | _ => pure ""
    else pure ""
  let target ←
    if ← Parser.keywordIn [.clickHouse, .generic] "TO" then
      pure (" TO " ++ (← ObjectName.parser).render)
    else pure ""
  let comment ← if grammarIn [.snowflake, .generic] then viewComment else pure ""
  Parser.expectKeyword "AS"
  let query ← inner.query
  let unbound ← Parser.onlyIf (grammarIn [.redshift, .generic])
    (Parser.keywords ["WITH", "NO", "SCHEMA", "BINDING"])
  pure ("CREATE " ++ head.replacing ++ head.manner ++ materialized ++ head.lasting ++ "VIEW " ++
    guarded ++ name.render ++ target ++ columns ++
    (if options.isEmpty then withOptions else "") ++ comment ++ cluster ++ options ++
    " AS " ++ query ++ (if unbound then " WITH NO SCHEMA BINDING" else ""))

/-- An index, after its keywords. -/
def index (unique : Bool) : Parser String := do
  let concurrently := if ← Parser.keyword "CONCURRENTLY" then "CONCURRENTLY " else ""
  let guarded ← ifNotExists
  let name ←
    if ← Parser.onlyIf guarded.isEmpty (Parser.keyword "ON") then pure ""
    else
      let name ← ObjectName.parser
      Parser.expectKeyword "ON"
      pure (name.render ++ " ")
  let table ← ObjectName.parser
  let method ←
    if ← Parser.keyword "USING" then pure (" USING " ++ (← Identifier.parser).render ++ " ")
    else pure ""
  let columns ← Parser.parenthesized (Parser.separated (Expr.sortKey inner))
  let included ←
    if ← Parser.keyword "INCLUDE" then
      let names ← Identifier.listParser
      pure (" INCLUDE (" ++ ",".intercalate (names.map Identifier.render) ++ ")")
    else pure ""
  let nulls ← Constraint.nullsDistinct
  let parameters ←
    if ← Parser.keywordIn [.postgres, .generic] "WITH" then
      let items ← Parser.parenthesized inner.exprTexts
      pure (" WITH (" ++ commaList items ++ ")")
    else pure ""
  let condition ← Parser.clause ["WHERE"] inner.exprText
  pure ("CREATE " ++ (if unique then "UNIQUE " else "") ++ "INDEX " ++ concurrently ++ guarded ++
    name ++ "ON " ++ table.render ++ method ++ "(" ++ ",".intercalate columns ++ ")" ++ included ++
    nulls ++ parameters ++ condition)

/-- A table that a module provides, after the first keyword. -/
def virtualTable : Parser String := do
  Parser.expectKeyword "TABLE"
  let guarded ← ifNotExists
  let name ← ObjectName.parser
  Parser.expectKeyword "USING"
  let module' ← Identifier.parser
  let args ← Identifier.optionalColumns
  pure ("CREATE VIRTUAL TABLE " ++ guarded ++ name.render ++ " USING " ++ module'.render ++
    (if args.isEmpty then "" else " (" ++ Identifier.renderAll args ++ ")"))

/-- A schema, after its keyword. -/
def schema : Parser String := do
  let guarded ← ifNotExists
  let name ←
    if ← Parser.keyword "AUTHORIZATION" then
      pure ("AUTHORIZATION " ++ (← Identifier.parser).render)
    else
      let name ← ObjectName.parser
      if ← Parser.keyword "AUTHORIZATION" then
        pure (name.render ++ " AUTHORIZATION " ++ (← Identifier.parser).render)
      else pure name.render
  pure ("CREATE SCHEMA " ++ guarded ++ name)

/-- The places where a database is kept, at most `fuel` times told. -/
def databasePlaces : Nat → String → String → Parser String
  | 0, location, managed => pure (location ++ managed)
  | fuel + 1, location, managed => do
    match ← Parser.oneOf ["LOCATION", "MANAGEDLOCATION"] with
    | some "LOCATION" => databasePlaces fuel (" LOCATION '" ++ (← Literal.text) ++ "'") managed
    | some _ => databasePlaces fuel location (" MANAGEDLOCATION '" ++ (← Literal.text) ++ "'")
    | none => pure (location ++ managed)

/-- A database, after its keyword. -/
def database : Parser String := do
  let guarded ← ifNotExists
  let name ← ObjectName.parser
  pure ("CREATE DATABASE " ++ guarded ++ name.render ++ (← databasePlaces (← Parser.fuel) "" ""))

/-- The properties of a role in the order in which they are shown: the name under which
each may be told only once, and the words that tell it. -/
def roleSlots : List (String × List String) := [
  ("SUPERUSER or NOSUPERUSER", ["SUPERUSER", "NOSUPERUSER"]),
  ("CREATEDB or NOCREATEDB", ["CREATEDB", "NOCREATEDB"]),
  ("CREATEROLE or NOCREATEROLE", ["CREATEROLE", "NOCREATEROLE"]),
  ("INHERIT or NOINHERIT", ["INHERIT", "NOINHERIT"]),
  ("LOGIN or NOLOGIN", ["LOGIN", "NOLOGIN"]),
  ("REPLICATION or NOREPLICATION", ["REPLICATION", "NOREPLICATION"]),
  ("BYPASSRLS or NOBYPASSRLS", ["BYPASSRLS", "NOBYPASSRLS"]),
  ("CONNECTION LIMIT", ["CONNECTION"]), ("PASSWORD", ["PASSWORD"]), ("VALID UNTIL", ["VALID"]),
  ("IN ROLE", []), ("IN GROUP", []), ("ROLE", ["ROLE"]), ("USER", ["USER"]), ("ADMIN", ["ADMIN"]),
  ("AUTHORIZATION", ["AUTHORIZATION"])]

/-- The name of the property that a word tells. A few words take a second one with them. -/
def roleSlot (word : String) : Parser String := do
  match word with
  | "CONNECTION" => Parser.expectKeyword "LIMIT"
  | "VALID" => Parser.expectKeyword "UNTIL"
  | _ => pure ()
  if word == "IN" then
    match ← Parser.oneOf ["ROLE", "GROUP"] with
    | some second => pure ("IN " ++ second)
    | none => Parser.expected "ROLE or GROUP after IN"
  else pure ((roleSlots.find? fun slot => slot.2.contains word).elim word (·.1))

/-- The spelling of a property, after the words that tell it. -/
def roleProperty (slot word : String) : Parser String := do
  match slot with
  | "AUTHORIZATION" => pure ("AUTHORIZATION " ++ (← ObjectName.parser).render)
  | "CONNECTION LIMIT" => pure ("CONNECTION LIMIT " ++ (← Literal.numberValue))
  | "PASSWORD" => rolePassword
  | "VALID UNTIL" => pure ("VALID UNTIL " ++ (← Literal.value))
  | _ =>
    if ["IN ROLE", "IN GROUP", "ROLE", "USER", "ADMIN"].contains slot then
      pure (slot ++ " " ++ Identifier.renderAll (← Parser.separated Identifier.parser))
    else pure word

/-- The properties of a role that `words` tell, at most `fuel` of them, none of them told
twice. -/
def roleProperties (words : List String) :
    Nat → List (String × String) → Parser (List (String × String))
  | 0, told => pure told
  | fuel + 1, told => do
    let place ← Parser.place
    match ← Parser.oneOf words with
    | none => pure told
    | some word =>
      let slot ← roleSlot word
      if told.any (·.1 == slot) then
        Parser.fail (.refused ("Found multiple " ++ slot) place)
      else
        let property ← roleProperty slot word
        roleProperties words fuel (told ++ [(slot, property)])

/-- A role, after its keyword. -/
def role : Parser String := do
  let guarded ← ifNotExists
  let names ← Parser.separated ObjectName.parser
  let _ ← Parser.keyword "WITH"
  let words := match ← Parser.grammar with
    | .sqlServer => ["AUTHORIZATION"]
    | .postgres => "IN" :: (roleSlots.flatMap (·.2)).filter (· != "AUTHORIZATION")
    | _ => []
  let told ← roleProperties words (← Parser.fuel) []
  let shown := roleSlots.map fun slot => (told.lookup slot.1).elim "" (" " ++ ·)
  pure ("CREATE ROLE " ++ guarded ++ commaList (names.map ObjectName.render) ++ String.join shown)

/-- A sequence of numbers, after its keyword. -/
def sequence (head : DefinitionHead) : Parser String := do
  let guarded ← ifNotExists
  let name ← ObjectName.parser
  let type ←
    if ← Parser.keyword "AS" then pure (" AS " ++ (← DataType.parserOf inner.column).render)
    else pure ""
  let options ← sequenceOptions
  let owner ←
    if ← Parser.keywords ["OWNED", "BY"] then
      if ← Parser.keyword "NONE" then pure " OWNED BY NONE"
      else pure (" OWNED BY " ++ (← ObjectName.parser).render)
    else pure ""
  pure ("CREATE " ++ head.lasting ++ "SEQUENCE " ++ guarded ++ name.render ++ type ++ options ++
    owner)

/-- An attribute of a composite type. -/
def typeAttribute : Parser String := do
  let name ← Identifier.parser
  let type ← DataType.parserOf inner.column
  let collation ← Parser.clause ["COLLATE"] do pure (← ObjectName.parser).render
  pure (name.render ++ " " ++ type.render ++ collation)

/-- The attributes of a composite type, at most `fuel` of them. -/
def attributes : Nat → Parser (List String)
  | 0 => pure []
  | fuel + 1 => do
    let first ← typeAttribute inner
    let comma ← Parser.symbol ","
    if ← Parser.symbol ")" then pure [first]
    else if !comma then Parser.expected "',' or ')' after attribute definition"
    else
      let rest ← attributes fuel
      pure (first :: rest)

/-- A type of named labels, after the words up to `ENUM`. -/
def enumeration (name : ObjectName) : Parser String := do
  if ← Parser.symbol "(" then
    let labels ← Parser.separatedOrNone Identifier.parser ")"
    if ← Parser.symbol ")" then
      pure ("CREATE TYPE " ++ name.render ++ " AS ENUM (" ++ Identifier.renderAll labels ++ ")")
    else Parser.expected "')' after CREATE TYPE AS ENUM"
  else Parser.expected "'(' after CREATE TYPE AS ENUM"

/-- The words up to `ENUM` of a type of named labels, from the first one on, and the name
of the type. -/
def enumerationHead : Parser ObjectName := do
  Parser.expectKeywords ["CREATE", "TYPE"]
  let name ← ObjectName.parser
  Parser.expectKeywords ["AS", "ENUM"]
  pure name

/-- A composite type, after its keyword. -/
def type : Parser String := do
  let name ← ObjectName.parser
  Parser.expectKeyword "AS"
  let opened ← Parser.symbol "("
  let closed ← Parser.onlyIf opened (Parser.symbol ")")
  let items ← if opened && !closed then attributes inner (← Parser.fuel) else pure []
  pure ("CREATE TYPE " ++ name.render ++ " AS (" ++ commaList items ++ ")")

/-- An extension of the database, after its keyword. -/
def extension : Parser String := do
  let guarded ← ifNotExists
  let name ← Identifier.parser
  let parts ←
    if ← Parser.keyword "WITH" then
      let place ← Parser.clause ["SCHEMA"] do pure (← Identifier.parser).render
      let version ← Parser.clause ["VERSION"] do pure (← Identifier.parser).render
      let cascade := if ← Parser.keyword "CASCADE" then " CASCADE" else ""
      pure (place ++ version ++ cascade)
    else pure ""
  pure ("CREATE EXTENSION " ++ guarded ++ name.render ++
    (if parts.isEmpty then "" else " WITH" ++ parts))

/-- A row policy, after its keyword. -/
def policy : Parser String := do
  let name ← Identifier.parser
  Parser.expectKeyword "ON"
  let table ← ObjectName.parser
  let kind ← Parser.clause ["AS"] (Parser.expectOneOf ["PERMISSIVE", "RESTRICTIVE"])
  let command ←
    Parser.clause ["FOR"] (Parser.expectOneOf ["ALL", "SELECT", "INSERT", "UPDATE", "DELETE"])
  let roles ← Parser.clause ["TO"] do pure (commaList (← Parser.separated owner))
  let condition ← guardedBy inner ["USING"]
  let check ← guardedBy inner ["WITH", "CHECK"]
  pure ("CREATE POLICY " ++ name.render ++ " ON " ++ table.render ++ kind ++ command ++ roles ++
    condition ++ check)

/-- A secret, after its keyword. -/
def secret (head : DefinitionHead) : Parser String := do
  let guarded ← ifNotExists
  let nameOrPlace : Parser (String × String) := do
    if ← Parser.seesSymbol "(" then pure ("", "")
    else
      let place : Parser String := do
        match ← Parser.attempt Identifier.parser with
        | some place => pure ("IN " ++ place.render ++ " ")
        | none => pure ""
      if ← Parser.keyword "IN" then pure ("", ← place)
      else
        let name ← Parser.attempt Identifier.parser
        let name := name.elim "" fun name => name.render ++ " "
        if ← Parser.keyword "IN" then pure (name, ← place) else pure (name, "")
  let (name, place) ← nameOrPlace
  Parser.expectSymbol "("
  Parser.expectKeyword "TYPE"
  let kind ← Identifier.parser
  let options ←
    if ← Parser.symbol "," then
      Parser.separated do
        let key ← Identifier.parser
        pure (key.render ++ " " ++ (← Identifier.parser).render)
    else pure []
  Parser.expectSymbol ")"
  if head.temporary && head.persistent then Parser.expected "TEMPORARY or PERSISTENT"
  else
    pure ("CREATE " ++ head.replacing ++ head.lasting ++
      (if head.persistent then "PERSISTENT " else "") ++ "SECRET " ++ guarded ++ name ++ place ++
      "( TYPE " ++ kind.render ++ String.join (options.map (", " ++ ·)) ++ " )")

/-- A macro, after its keyword. -/
def queryMacro (head : DefinitionHead) : Parser String := do
  let name ← ObjectName.parser
  let argument : Parser String := do
    let name ← Identifier.parser
    if (← Parser.seesSymbol ":=") || (← Parser.seesSymbol "=>") then
      Parser.advance
      pure (name.render ++ " := " ++ (← inner.exprText))
    else pure name.render
  let args ← Parser.parenthesized do
    if ← Parser.seesSymbol ")" then pure [] else Parser.separated argument
  Parser.expectKeyword "AS"
  let body ←
    if ← Parser.keyword "TABLE" then pure ("TABLE " ++ (← inner.query)) else inner.exprText
  pure ("CREATE " ++ head.replacing ++ head.lasting ++ "MACRO " ++ name.render ++
    (if args.isEmpty then "" else "(" ++ commaList args ++ ")") ++ " AS " ++ body)

/-- The body of a function as a text. -/
def bodyText : Parser String := do
  let grammar ← Parser.grammar
  match ← Parser.peek with
  | some ⟨⟨.dollarString tag content, _, _⟩, _⟩ =>
    if grammar == .postgres || grammar == .generic then
      Parser.advance
      pure (Token.dollarString tag content).render
    else pure (quoteText (← Literal.text))
  | _ => pure (quoteText (← Literal.text))

/-- The properties of a function in the order in which they are shown, under the names
in which a second one is refused. -/
def functionSlots : List String := [
  "LANGUAGE", "IMMUTABLE | STABLE | VOLATILE",
  "CALLED ON NULL INPUT | RETURNS NULL ON NULL INPUT | STRICT",
  "PARALLEL \x7b UNSAFE | RESTRICTED | SAFE \x7d", "AS"]

/-- The first words of a property of a function, and the slot that it fills. -/
def functionWords : List (List String × String) := [
  (["AS"], "AS"), (["LANGUAGE"], "LANGUAGE"),
  (["IMMUTABLE"], "IMMUTABLE | STABLE | VOLATILE"),
  (["STABLE"], "IMMUTABLE | STABLE | VOLATILE"),
  (["VOLATILE"], "IMMUTABLE | STABLE | VOLATILE"),
  (["CALLED", "ON", "NULL", "INPUT"],
    "CALLED ON NULL INPUT | RETURNS NULL ON NULL INPUT | STRICT"),
  (["RETURNS", "NULL", "ON", "NULL", "INPUT"],
    "CALLED ON NULL INPUT | RETURNS NULL ON NULL INPUT | STRICT"),
  (["STRICT"], "CALLED ON NULL INPUT | RETURNS NULL ON NULL INPUT | STRICT"),
  (["PARALLEL"], "PARALLEL \x7b UNSAFE | RESTRICTED | SAFE \x7d"), (["RETURN"], "AS")]

/-- The spelling of a property of a function, after its first words. -/
def functionProperty (words : List String) : Parser String := do
  let shown := " " ++ " ".intercalate words
  match words with
  | ["AS"] => pure (shown ++ " " ++ (← bodyText))
  | ["LANGUAGE"] => pure (shown ++ " " ++ (← Identifier.parser).render)
  | ["RETURN"] => pure (shown ++ " " ++ (← inner.exprText))
  | ["PARALLEL"] =>
    match ← Parser.oneOf ["UNSAFE", "RESTRICTED", "SAFE"] with
    | some word => pure (shown ++ " " ++ word)
    | none => Parser.expected "one of UNSAFE | RESTRICTED | SAFE"
  | _ => pure shown

/-- The properties of a function, at most `fuel` of them, none of them told twice. -/
def functionProperties : Nat → List (String × String) → Parser (List (String × String))
  | 0, told => pure told
  | fuel + 1, told => do
    let found ← functionWords.foldlM (fun (found : Option (List String × String)) choice => do
      if found.isSome then pure found
      else if ← Parser.keywords choice.1 then pure (some choice)
      else pure none) none
    match found with
    | none => pure told
    | some (words, slot) =>
      if told.any (·.1 == slot) then
        let name := if words == ["RETURN"] then "RETURN" else slot
        Parser.fail (.refused (name ++ " specified more than once") Location.none)
      else
        let text ← functionProperty inner words
        functionProperties fuel (told ++ [(slot, text)])

/-- A function in the grammars that take its properties in any order. -/
def loggedFunction (head : DefinitionHead) : Parser String := do
  let name ← ObjectName.parser
  Parser.expectSymbol "("
  let args ← Parser.separatedOrNone (functionArgument inner) ")"
  Parser.expectSymbol ")"
  let result ← Parser.clause ["RETURNS"] do pure (← DataType.parserOf inner.column).render
  let properties ← functionProperties inner (← Parser.fuel) []
  let shown := functionSlots.map fun slot => (properties.lookup slot).getD ""
  pure ("CREATE " ++ head.replacing ++ head.lasting ++ "FUNCTION " ++ name.render ++ "(" ++
    commaList args ++ ")" ++ result ++ String.join shown)

/-- A function that a class implements. -/
def classFunction (head : DefinitionHead) : Parser String := do
  let name ← ObjectName.parser
  Parser.expectKeyword "AS"
  let body ← bodyText
  let resource ←
    if ← Parser.keyword "USING" then
      let word ← Parser.expectOneOf ["JAR", "FILE", "ARCHIVE"]
      pure (" USING " ++ word ++ " '" ++ (← Literal.text) ++ "'")
    else pure ""
  pure ("CREATE " ++ head.replacing ++ head.lasting ++ "FUNCTION " ++ name.render ++ " AS " ++
    body ++ resource)

/-- A function whose body is an expression, or that another service carries out. -/
def expressionFunction (head : DefinitionHead) : Parser String := do
  let guarded ← ifNotExists
  let name ← ObjectName.parser
  Parser.expectSymbol "("
  let args ← Parser.separatedOrNone (do
    let name ← Identifier.parser
    pure (name.render ++ " " ++ (← DataType.parserOf inner.column).render)) ")"
  Parser.expectSymbol ")"
  let result ← Parser.clause ["RETURNS"] do pure (← DataType.parserOf inner.column).render
  let determinism ←
    if ← Parser.keyword "DETERMINISTIC" then pure " DETERMINISTIC"
    else if ← Parser.keywords ["NOT", "DETERMINISTIC"] then pure " NOT DETERMINISTIC"
    else pure ""
  let language ← Parser.clause ["LANGUAGE"] do pure (← Identifier.parser).render
  let remote ← Parser.clause ["REMOTE", "WITH", "CONNECTION"] do pure (← ObjectName.parser).render
  let options : Parser String := do
    match ← keyedOptions inner ["OPTIONS"] with
    | some options => pure (" OPTIONS(" ++ commaList options ++ ")")
    | none => pure ""
  let first ← options
  let rest ←
    if remote.isEmpty then
      Parser.expectKeyword "AS"
      let body ← inner.exprText
      if first.isEmpty then pure (" AS " ++ body ++ (← options))
      else pure (first ++ " AS " ++ body)
    else pure first
  pure ("CREATE " ++ head.replacing ++ head.lasting ++ "FUNCTION " ++ guarded ++ name.render ++
    "(" ++ commaList args ++ ")" ++ result ++ determinism ++ language ++ remote ++ rest)

/-- A function, from its keyword on. -/
def function (head : DefinitionHead) : Parser String := do
  match ← Parser.grammar with
  | .hive =>
    Parser.advance
    classFunction head
  | .postgres | .generic =>
    Parser.advance
    loggedFunction inner head
  | .duckDb =>
    Parser.advance
    queryMacro inner head
  | .bigQuery =>
    Parser.advance
    expressionFunction inner head
  | _ => Parser.expected "an object type after CREATE"

/-- What a trigger waits for. -/
def triggerEvent : Parser String := do
  match ← Parser.expectOneOf ["INSERT", "UPDATE", "DELETE", "TRUNCATE"] with
  | "UPDATE" =>
    if ← Parser.keyword "OF" then
      let columns ← Parser.separated Identifier.parser
      pure ("UPDATE OF " ++ Identifier.renderAll columns)
    else pure "UPDATE"
  | word => pure word

/-- The events of a trigger, at most `fuel` of them. -/
def triggerEvents : Nat → Parser (List String)
  | 0 => pure []
  | fuel + 1 => do
    let first ← triggerEvent
    if ← Parser.keyword "OR" then
      let rest ← triggerEvents fuel
      pure (first :: rest)
    else pure [first]

/-- A table of old or new rows that a trigger refers to. The word for the side is read
even if no table follows it. -/
def transitionTable? : Parser (Option String) := do
  match ← Parser.oneOf ["OLD", "NEW"] with
  | none => pure none
  | some side =>
    if ← Parser.keyword "TABLE" then
      let mark := if ← Parser.keyword "AS" then " AS " else " "
      pure (some (" " ++ side ++ " TABLE" ++ mark ++ (← ObjectName.parser).render))
    else pure none

/-- A trigger, after its keywords. -/
def trigger (head : DefinitionHead) (asConstraint : Bool) : Parser String := do
  let name ← ObjectName.parser
  let period ←
    match ← Parser.expectOneOf ["BEFORE", "AFTER", "INSTEAD"] with
    | "INSTEAD" =>
      Parser.expectKeyword "OF"
      pure "INSTEAD OF"
    | word => pure word
  let events ← triggerEvents (← Parser.fuel)
  Parser.expectKeyword "ON"
  let table ← ObjectName.parser
  let referred ←
    if ← Parser.keyword "FROM" then
      match ← Parser.attempt (ObjectName.parserOf true) with
      | some name => pure (" FROM " ++ name.render)
      | none => pure ""
    else pure ""
  let characteristics ← constraintCharacteristics
  let tables ←
    if ← Parser.keyword "REFERENCING" then
      let tables ← Parser.many transitionTable?
      pure (if tables.isEmpty then "" else " REFERENCING" ++ String.join tables)
    else pure ""
  Parser.expectKeyword "FOR"
  let each := if ← Parser.keyword "EACH" then " EACH" else ""
  let unit ← Parser.expectOneOf ["ROW", "STATEMENT"]
  let condition ← Parser.clause ["WHEN"] inner.exprText
  Parser.expectKeyword "EXECUTE"
  let kind ← Parser.expectOneOf ["FUNCTION", "PROCEDURE"]
  let routine ← functionDescription inner
  pure ("CREATE " ++ head.replacing ++ (if asConstraint then "CONSTRAINT " else "") ++ "TRIGGER " ++
    name.render ++ " " ++ period ++ " " ++ " OR ".intercalate events ++ " ON " ++ table.render ++
    referred ++ characteristics ++ tables ++ " FOR" ++ each ++ " " ++ unit ++ condition ++
    " EXECUTE " ++ kind ++ " " ++ routine)

/-- The parameters of a procedure up to the closing parenthesis, at most `fuel` of them.
A separator may stand where a parameter is missing. -/
def procedureParameters : Nat → Parser (List String)
  | 0 => pure []
  | fuel + 1 => do
    let here ← match ← Parser.peek with
      | some ⟨⟨.word _, _, _⟩, _⟩ => do
        let name ← Identifier.parser
        pure [name.render ++ " " ++ (← DataType.parserOf inner.column).render]
      | _ => pure []
    let comma ← Parser.symbol ","
    if ← Parser.symbol ")" then pure here
    else if comma then
      let rest ← procedureParameters fuel
      pure (here ++ rest)
    else Parser.expected "',' or ')' after parameter definition"

/-- A procedure, after its keyword; `statements` reads what it does. -/
def procedure (head : DefinitionHead) (statements : Parser (List Statement)) : Parser String := do
  let name ← ObjectName.parser
  let opened ← Parser.symbol "("
  let closed ← Parser.onlyIf opened (Parser.symbol ")")
  let parameters ←
    if opened && !closed then procedureParameters inner (← Parser.fuel) else pure []
  Parser.expectKeywords ["AS", "BEGIN"]
  let body ← statements
  Parser.expectKeyword "END"
  pure ("CREATE " ++ (if head.orAlter then "OR ALTER " else "") ++ "PROCEDURE " ++ name.render ++
    (if parameters.isEmpty then "" else " (" ++ commaList parameters ++ ")") ++ " AS BEGIN " ++
    "; ".intercalate (body.map Statement.render) ++ " END")

end TableCatalog.Statement
