import TableCatalog.Query.Selection

/-!
# Reading queries

A query is selections and their unions, with names for other queries before them, and
an order and bounds after them. Queries are read for their canonical spelling only:
keywords in upper case, single blanks, lists with a comma and a blank.
-/

namespace TableCatalog.Query

variable (inner : Phrases)

/-- All rows of a table, after `TABLE`. Three tokens are read, whether or not the second
one is a dot; names lose their quotes. -/
def wholeTable : Parser String := do
  let first ← Parser.nextOfText
  let second ← Parser.nextOfText
  let third ← Parser.nextOfText
  match first, second, third with
  | some ⟨⟨.word schema, _, _⟩, _⟩, some ⟨⟨.symbol ".", _, _⟩, _⟩,
      some ⟨⟨.word table, _, _⟩, _⟩ => pure ("TABLE " ++ schema.text ++ "." ++ table.text)
  | some ⟨⟨.word _, _, _⟩, _⟩, some ⟨⟨.symbol ".", _, _⟩, _⟩, found =>
    Parser.expectedAt "Table name" found
  | found, some ⟨⟨.symbol ".", _, _⟩, _⟩, _ => Parser.expectedAt "Schema name" found
  | some ⟨⟨.word table, _, _⟩, _⟩, _, _ => pure ("TABLE " ++ table.text)
  | found, _, _ => Parser.expectedAt "Table name" found

/-- An operand of a union. -/
def bodyOperand : Parser String := do
  if ← Parser.sees "SELECT" then selection inner
  else if ← Parser.symbol "(" then
    let query ← inner.query
    Parser.expectSymbol ")"
    pure ("(" ++ query ++ ")")
  else if ← Parser.keyword "VALUES" then values inner ((← Parser.grammar) == .mysql)
  else if ← Parser.keyword "TABLE" then wholeTable
  else Parser.expected "SELECT, VALUES, or a subquery in the query body"

/-- Whether a union keeps or drops equal rows, and whether it goes by names. -/
def setQuantifier : Parser String := do
  let byName : Parser String := do
    if ← Parser.keywords ["BY", "NAME"] then pure " BY NAME" else pure ""
  if ← Parser.keyword "ALL" then pure (" ALL" ++ (← byName))
  else if ← Parser.keyword "DISTINCT" then pure (" DISTINCT" ++ (← byName))
  else byName

/-- Selections and their unions, at most `fuel` of them. -/
def bodyOf : Nat → Parser String
  | 0 => Parser.fail .nestedTooDeeply
  | fuel + 1 => do
    let first ← bodyOperand inner
    match ← Parser.oneOf ["UNION", "EXCEPT", "INTERSECT", "MINUS"] with
    | none => pure first
    | some word =>
      let quantifier ← setQuantifier
      pure (first ++ " " ++ word ++ quantifier ++ " " ++ (← bodyOf fuel))

/-- Selections and their unions. -/
def body : Parser String := do
  bodyOf inner (← Parser.fuel)

/-- A query under a name for the query after it. -/
def named : Parser String := do
  let grammar ← Parser.grammar
  let name ← Identifier.parser
  let columns ← if ← Parser.sees "AS" then pure "" else aliasColumns inner
  Parser.expectKeyword "AS"
  let kept ←
    if grammar == .postgres then
      if ← Parser.keyword "MATERIALIZED" then pure " MATERIALIZED"
      else if ← Parser.keywords ["NOT", "MATERIALIZED"] then pure " NOT MATERIALIZED"
      else pure ""
    else pure ""
  let query ← Parser.parenthesized inner.query
  let source ← Parser.clause ["FROM"] do pure (← Identifier.parser).render
  pure (name.render ++ columns ++ " AS" ++ kept ++ " (" ++ query ++ ")" ++ source)

/-- A column whose missing values are filled in. -/
def interpolation : Parser String := do
  let column ← Identifier.parser
  pure (column.render ++ (← Parser.clause ["AS"] inner.exprText))

/-- How missing values between sorted rows are filled in. -/
def interpolations : Parser String := do
  if ← Parser.keywordIn [.clickHouse, .generic] "INTERPOLATE" then
    if ← Parser.symbol "(" then
      let columns ← Parser.separatedOrNone (interpolation inner) ")"
      Parser.expectSymbol ")"
      pure (" INTERPOLATE (" ++ commaList columns ++ ")")
    else pure " INTERPOLATE"
  else pure ""

/-- The order of the rows of a query. -/
def order : Parser String :=
  Parser.clause ["ORDER", "BY"] do
    let keys ← Expr.sortKeys inner
    pure (keys ++ (← interpolations inner))

/-- How many rows are skipped, after `OFFSET`. -/
def offset : Parser String := do
  let count ← inner.exprText
  pure (count ++ afterBlank (← Parser.oneOf ["ROW", "ROWS"]))

/-- The bounds on the number of rows, in either order; `LIMIT a, b` skips `a` rows. -/
def bounds : Parser String := do
  let grammar ← Parser.grammar
  let limitOnce (limit : Option String) : Parser (Option String) := do
    if ← Parser.onlyIf limit.isNone (Parser.keyword "LIMIT") then
      if ← Parser.keyword "ALL" then pure none else pure (some (← inner.exprText))
    else pure limit
  let offsetOnce (skip : Option String) : Parser (Option String) := do
    if ← Parser.onlyIf skip.isNone (Parser.keyword "OFFSET") then pure (some (← offset inner))
    else pure skip
  let commaOnce (limit skip : Option String) : Parser (Option String × Option String) := do
    let mayCount := [Grammar.mysql, .sqlite, .clickHouse, .generic].contains grammar
    if ← Parser.onlyIf (mayCount && limit.isSome && skip.isNone) (Parser.symbol ",") then
      pure (some (← inner.exprText), limit)
    else pure (limit, skip)
  let limit ← limitOnce none
  let skip ← offsetOnce none
  let (limit, skip) ← commaOnce limit skip
  let limit ← limitOnce limit
  let skip ← offsetOnce skip
  let (limit, skip) ← commaOnce limit skip
  pure ((limit.elim "" fun text => " LIMIT " ++ text) ++
    (skip.elim "" fun text => " OFFSET " ++ text))

/-- The rows that `FETCH` asks for. -/
def fetch : Parser String := do
  let _ ← Parser.expectOneOf ["FIRST", "NEXT"]
  let count ←
    if (← Parser.oneOf ["ROW", "ROWS"]).isSome then pure ""
    else
      let count ← Expr.value
      let percent := if ← Parser.keyword "PERCENT" then " PERCENT" else ""
      let _ ← Parser.expectOneOf ["ROW", "ROWS"]
      pure (" " ++ count.text ++ percent)
  let ties ←
    if ← Parser.keyword "ONLY" then pure " ONLY"
    else if ← Parser.keywords ["WITH", "TIES"] then pure " WITH TIES"
    else Parser.expected "one of ONLY or WITH TIES"
  pure (" FETCH FIRST" ++ count ++ " ROWS" ++ ties)

/-- A name in parentheses for the outermost element of a document. -/
def rootName : Parser String :=
  Parser.parenthesized do pure ("('" ++ (← Literal.text) ++ "')")

/-- The options of a document that the rows of a query make up, each after a separator,
at most `fuel` of them. What is no option is left alone after its separator. -/
def documentOptions (option : Parser (Option (String × String))) :
    Nat → Parser (List (String × String))
  | 0 => pure []
  | fuel + 1 => do
    if ← Parser.symbol "," then
      let found ← option
      let rest ← documentOptions option fuel
      pure (found.toList ++ rest)
    else pure []

/-- Options in the order of their names, the last one of each name. -/
def orderedOptions (names : List String) (options : List (String × String)) : String :=
  String.join (names.map fun name => (options.reverse.lookup name).getD "")

/-- The rows of a query as an XML document, after `FOR XML`. -/
def xmlDocument : Parser String := do
  let shape ←
    match ← Parser.oneOf ["RAW", "AUTO", "EXPLICIT", "PATH"] with
    | some word =>
      if (word == "RAW" || word == "PATH") && (← Parser.seesSymbol "(") then
        pure (word ++ (← rootName))
      else pure word
    | none =>
      Parser.fail (.refused "Expected FOR XML [RAW | AUTO | EXPLICIT | PATH ]" Location.none)
  let options ← documentOptions (do
    match ← Parser.oneOf ["ELEMENTS", "BINARY", "ROOT", "TYPE"] with
    | some "BINARY" =>
      Parser.expectKeyword "BASE64"
      pure (some ("BINARY", ", BINARY BASE64"))
    | some "ROOT" => pure (some ("ROOT", ", ROOT" ++ (← rootName)))
    | found => pure (found.map fun word => (word, ", " ++ word))) (← Parser.fuel)
  pure (" FOR XML " ++ shape ++ orderedOptions ["BINARY", "TYPE", "ROOT", "ELEMENTS"] options)

/-- The rows of a query as a JSON document, after `FOR JSON`. -/
def jsonDocument : Parser String := do
  let shape ←
    match ← Parser.oneOf ["AUTO", "PATH"] with
    | some word => pure word
    | none => Parser.fail (.refused "Expected FOR JSON [AUTO | PATH ]" Location.none)
  let names := ["ROOT", "INCLUDE_NULL_VALUES", "WITHOUT_ARRAY_WRAPPER"]
  let options ← documentOptions (do
    match ← Parser.oneOf names with
    | some "ROOT" => pure (some ("ROOT", ", ROOT" ++ (← rootName)))
    | found => pure (found.map fun word => (word, ", " ++ word))) (← Parser.fuel)
  pure (" FOR JSON " ++ shape ++ orderedOptions names options)

/-- A lock on the rows of a query, after `FOR`. -/
def lock : Parser String := do
  let kind ← Parser.expectOneOf ["UPDATE", "SHARE"]
  let table ← Parser.clause ["OF"] do pure (← ObjectName.parser).render
  let wait ←
    if ← Parser.keyword "NOWAIT" then pure " NOWAIT"
    else if ← Parser.keywords ["SKIP", "LOCKED"] then pure " SKIP LOCKED"
    else pure ""
  pure (" FOR " ++ kind ++ table ++ wait)

/-- What the rows of a query are for, at most `fuel` times: locks, and at the end of them
a document or a browser. -/
def purposes : Nat → Parser String
  | 0 => pure ""
  | fuel + 1 => do
    if ← Parser.keyword "FOR" then
      match ← Parser.oneOf ["XML", "JSON", "BROWSE"] with
      | some "XML" => xmlDocument
      | some "JSON" => jsonDocument
      | some _ => pure " FOR BROWSE"
      | none =>
        let first ← lock
        pure (first ++ (← purposes fuel))
    else pure ""

/-- The form in which the rows of a query are given. -/
def format : Parser String := do
  if ← Parser.keywordIn [.clickHouse, .generic] "FORMAT" then
    if ← Parser.keyword "NULL" then pure " FORMAT NULL"
    else pure (" FORMAT " ++ (← Identifier.parser).render)
  else pure ""

/-- A selection with its order and its bounds. -/
def bounded : Parser String := do
  let body ← body inner
  let order ← order inner
  let bounds ← bounds inner
  let perGroup ←
    if ← Parser.keywordIn [.clickHouse, .generic] "BY" then
      pure (" BY " ++ commaList (← inner.exprTexts))
    else pure ""
  let settings := afterBlank (← settings?)
  let fetch ← if ← Parser.keyword "FETCH" then fetch else pure ""
  let purposes ← purposes (← Parser.fuel)
  let format ← format
  pure (body ++ order ++ bounds ++ perGroup ++ settings ++ fetch ++ purposes ++ format)

/-- A query with everything that may surround it. -/
def parser : Parser String :=
  Parser.nested do
    let names ←
      if ← Parser.keyword "WITH" then
        let recursive := if ← Parser.keyword "RECURSIVE" then "RECURSIVE " else ""
        pure ("WITH " ++ recursive ++ commaList (← Parser.separated (named inner)) ++ " ")
      else pure ""
    match ← Parser.oneOf ["INSERT", "UPDATE"] with
    | some word => pure (names ++ (← inner.change word))
    | none => pure (names ++ (← bounded inner))

end TableCatalog.Query
