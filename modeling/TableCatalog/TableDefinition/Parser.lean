import TableCatalog.Query.Parser
import TableCatalog.TableDefinition.Clause
import TableCatalog.TableDefinition.Constraint

/-!
# Reading table definitions

After the columns most grammars allow options in one fixed order; Snowflake allows its
own in any order, and there the columns may even come after options.
-/

namespace TableCatalog.TableDefinition

variable (inner : Phrases)

/-- Whether the elements of a table may end with a separator. -/
def elementsMayTrail (grammar : Grammar) : Bool :=
  Parser.trailingCommas grammar

/-- The elements of a table after the opening parenthesis, at most `fuel` of them. -/
def elementsOf : Nat → Parser Elements
  | 0 => pure ⟨[], []⟩
  | fuel + 1 => do
    let first ← element
    let comma ← Parser.symbol ","
    let closes ← Parser.seesSymbol ")"
    if !comma && !closes then
      Parser.expected "',' or ')' after column definition"
    else if closes && (!comma || elementsMayTrail (← Parser.grammar)) then
      Parser.advance
      pure first
    else
      let rest ← elementsOf fuel
      pure ⟨first.columns ++ rest.columns, first.constraints ++ rest.constraints⟩
where
  /-- One element. -/
  element : Parser Elements := do
    match ← Constraint.parser? inner with
    | some constraint => pure ⟨[], [constraint]⟩
    | none =>
      match ← Parser.peek with
      | some ⟨⟨.word _, _, _⟩, _⟩ => pure ⟨[← ColumnDefinition.parser inner], []⟩
      | _ => Parser.expected "column name or constraint definition"

/-- The elements of a table, none without parentheses or with nothing in them. -/
def elements : Parser Elements := do
  if ← Parser.symbol "(" then
    if ← Parser.symbol ")" then pure ⟨[], []⟩
    else elementsOf inner (← Parser.fuel)
  else pure ⟨[], []⟩

/-- A text constant, which is required under the name of a comment. -/
def commentText : Parser String := do
  let token ← Parser.next
  match token with
  | some ⟨⟨.string .single text, _, _⟩, _⟩ => pure text
  | _ => Parser.expectedAt "comment" token

/-- A comment on a table, with or without an equals sign. -/
def tableComment : Parser String := do
  if ← Parser.keyword "COMMENT" then
    let equals := if ← Parser.symbol "=" then " = " else " "
    pure (" COMMENT" ++ equals ++ "'" ++ (← commentText) ++ "'")
  else pure ""

/-- The words after an equals sign that name an engine, a character set or the like. -/
def wordAfterEquals : Parser String := do
  Parser.expectSymbol "="
  let token ← Parser.next
  match token with
  | some ⟨⟨.word word, _, _⟩, _⟩ => pure word.text
  | _ => Parser.expectedAt "identifier" token

/-- The partition columns of a table. -/
def partitioned : Parser (Option (List ColumnDefinition)) := do
  if ← Parser.keywords ["PARTITIONED", "BY"] then
    pure (some (← Parser.parenthesized (Parser.separated (ColumnDefinition.parser inner))))
  else pure none

/-- The buckets of a table. -/
def clustered : Parser String := do
  let grammar ← Parser.grammar
  if ← Parser.onlyIf (grammar == .hive || grammar == .generic)
      (Parser.keywords ["CLUSTERED", "BY"]) then
    let columns ← Identifier.requiredColumns
    let sorted ←
      if ← Parser.keywords ["SORTED", "BY"] then
        let keys ← Parser.parenthesized (Expr.sortKeys inner)
        pure (" SORTED BY (" ++ keys ++ ")")
      else pure ""
    Parser.expectKeyword "INTO"
    let count ← Literal.numberValue
    Parser.expectKeyword "BUCKETS"
    pure (" CLUSTERED BY (" ++ Identifier.renderAll columns ++ ")" ++ sorted ++ " INTO " ++ count ++
      " BUCKETS")
  else pure ""

/-- One of the marks that separate the fields of a row. -/
def rowDelimiter? : Parser (Option String) := do
  let marked (first : String) (words : List String) : Parser (Option String) := do
    if ← Parser.keywords words then
      let mark ← Identifier.parser
      pure (some (" " ++ first ++ " " ++ " ".intercalate words ++ " " ++ mark.render))
    else pure none
  match ← Parser.oneOf ["FIELDS", "COLLECTION", "MAP", "LINES", "NULL"] with
  | some "FIELDS" =>
    match ← marked "FIELDS" ["TERMINATED", "BY"] with
    | some text =>
      if ← Parser.keywords ["ESCAPED", "BY"] then
        pure (some (text ++ " ESCAPED BY " ++ (← Identifier.parser).render))
      else pure (some text)
    | none => pure none
  | some "COLLECTION" => marked "COLLECTION" ["ITEMS", "TERMINATED", "BY"]
  | some "MAP" => marked "MAP" ["KEYS", "TERMINATED", "BY"]
  | some "LINES" => marked "LINES" ["TERMINATED", "BY"]
  | some _ => marked "NULL" ["DEFINED", "AS"]
  | none => pure none

/-- How rows are written, after `ROW`. -/
def rowFormat : Parser String := do
  Parser.expectKeyword "FORMAT"
  match ← Parser.oneOf ["SERDE", "DELIMITED"] with
  | some "SERDE" => pure (" ROW FORMAT SERDE '" ++ (← Literal.text) ++ "'")
  | _ => pure (" ROW FORMAT DELIMITED" ++ String.join (← Parser.many rowDelimiter?))

/-- How a file is written. -/
def fileFormat : Parser String := do
  let token ← Parser.next
  let key := token.elim "" (·.key)
  if ["AVRO", "JSONFILE", "ORC", "PARQUET", "RCFILE", "SEQUENCEFILE", "TEXTFILE"].contains key then
    pure key
  else Parser.expectedAt "fileformat" token

/-- How and where a table is stored, told at most `fuel` times; what is told last
counts. -/
def storageOf : Nat → Storage → Parser Storage
  | 0, storage => pure storage
  | fuel + 1, storage => do
    match ← Parser.oneOf ["ROW", "STORED", "LOCATION"] with
    | some "ROW" => storageOf fuel { storage with rows := ← rowFormat }
    | some "STORED" =>
      Parser.expectKeyword "AS"
      if ← Parser.keyword "INPUTFORMAT" then
        let input ← inner.exprText
        Parser.expectKeyword "OUTPUTFORMAT"
        let output ← inner.exprText
        let classes := " STORED AS INPUTFORMAT " ++ input ++ " OUTPUTFORMAT " ++ output
        storageOf fuel { storage with classes, file := "" }
      else
        let format ← fileFormat
        storageOf fuel { storage with classes := "", file := " STORED AS " ++ format }
    | some _ =>
      let path ← Literal.text
      storageOf fuel { storage with location := " LOCATION '" ++ path ++ "'" }
    | none =>
      match ← keyedOptions inner ["WITH", "SERDEPROPERTIES"] with
      | some options =>
        let serializer := " WITH SERDEPROPERTIES (" ++ commaList options ++ ")"
        storageOf fuel { storage with serializer }
      | none => pure storage

/-- What happens to a temporary table at the end of a transaction. -/
def onCommit : Parser String := do
  if ← Parser.keywords ["DELETE", "ROWS"] then pure " ON COMMIT DELETE ROWS"
  else if ← Parser.keywords ["PRESERVE", "ROWS"] then pure " ON COMMIT PRESERVE ROWS"
  else if ← Parser.keyword "DROP" then pure " ON COMMIT DROP"
  else
    Parser.failWith (fun found =>
      .refused ("Expecting DELETE ROWS, PRESERVE ROWS or DROP" ++
        found.elim "EOF" fun found => found.token.render) Location.none)
      (fun _ => rfl) fun _ => .inl rfl

/-- Options in parentheses after one keyword, as they are shown if there are any. -/
def spelledOptions (word : String) : Parser String := do
  match ← keyedOptions inner [word] with
  | some (first :: rest) => pure (" " ++ word ++ " (" ++ commaList (first :: rest) ++ ")")
  | _ => pure ""

/-- An engine with its parameters. -/
def engine : Parser String := do
  if ← Parser.keyword "ENGINE" then
    let name ← wordAfterEquals
    if ← Parser.seesSymbol "(" then
      pure (" ENGINE=" ++ name ++ "(" ++ Identifier.renderAll (← Identifier.listParser) ++ ")")
    else pure (" ENGINE=" ++ name)
  else pure ""

/-- The first number of a counter. -/
def autoIncrement : Parser String := do
  if ← Parser.keyword "AUTO_INCREMENT" then
    let _ ← Parser.symbol "="
    pure (s!" AUTO_INCREMENT {← Literal.unsigned32}")
  else pure ""

/-- How the rows of a table are ordered. -/
def orderedBy : Parser String := do
  if ← Parser.keywords ["ORDER", "BY"] then
    if ← Parser.symbol "(" then
      let columns ← if ← Parser.seesSymbol ")" then pure [] else inner.exprTexts
      Parser.expectSymbol ")"
      pure (" ORDER BY (" ++ commaList columns ++ ")")
    else pure (" ORDER BY " ++ (← inner.exprText))
  else pure ""

/-- The clauses between the order and the character set of a table, added to those that
were read before. -/
def layout (clauses : Clauses) : Parser Clauses := do
  let grammar ← Parser.grammar
  let partitionKey ←
    if [Grammar.bigQuery, .postgres, .generic].contains grammar then
      Parser.clause ["PARTITION", "BY"] inner.exprText
    else pure ""
  if grammar == .bigQuery || grammar == .generic then
    let clusterKey ← Parser.clause ["CLUSTER", "BY"] do
      pure (Identifier.renderAll (← Parser.separated Identifier.parser))
    let options ← keyedOptions inner ["OPTIONS"]
    let settings := options.elim "" fun options => " OPTIONS(" ++ commaList options ++ ")"
    pure { clauses with partitionKey, clusterKey, settings }
  else pure { clauses with partitionKey }

/-- The list of partition columns as it is shown. -/
def partitionList (partitions : Option (List ColumnDefinition)) : String :=
  partitions.elim "" fun columns =>
    " PARTITIONED BY (" ++ commaList (columns.map ColumnDefinition.render) ++ ")"

/-- A table that another one is made from, after one of several words, and as it is
shown after `mark`; a fault in its name is forgiven. -/
def modelTable (words : List String) (mark : String) : Parser String := do
  if (← Parser.oneOf words).isSome then
    match ← Parser.attempt (ObjectName.parserOf true) with
    | some name => pure (mark ++ name.render)
    | none => pure ""
  else pure ""

/-- The cluster that a table is created on. -/
def onCluster : Parser String := do
  if ← Parser.keywords ["ON", "CLUSTER"] then
    pure (" ON CLUSTER " ++ (← Identifier.parser).render)
  else pure ""

/-- A comment right after the columns. -/
def columnComment : Parser String := do
  if ← Parser.keywordIn [.hive] "COMMENT" then
    pure (" COMMENT '" ++ (← commentText) ++ "'")
  else pure ""

/-- The primary key as a clause. -/
def primaryKey (grammar : Grammar) : Parser String :=
  if grammar == .clickHouse || grammar == .generic then
    Parser.clause ["PRIMARY", "KEY"] inner.exprText
  else pure ""

/-- The character set of a table. -/
def charset : Parser String := do
  if ← Parser.keywords ["DEFAULT", "CHARSET"] then
    pure (" DEFAULT CHARSET=" ++ (← wordAfterEquals))
  else pure ""

/-- The collation of a table. -/
def collation : Parser String := do
  if ← Parser.keyword "COLLATE" then pure (" COLLATE=" ++ (← wordAfterEquals)) else pure ""

/-- What is said of the end of a transaction. -/
def commit : Parser String := do
  if ← Parser.keywords ["ON", "COMMIT"] then onCommit else pure ""

/-- The comment behind the clauses. -/
def closingComment (grammar : Grammar) : Parser String :=
  if grammar == .hive then pure "" else tableComment

/-- The query that a table is made from. -/
def source (grammar : Grammar) : Parser String := do
  if ← Parser.keyword "AS" then pure (" AS " ++ (← inner.query))
  else if grammar == .mysql then
    if ← Parser.sees "SELECT" then pure (" AS " ++ (← inner.query)) else pure ""
  else pure ""

/-- A table in any grammar but Snowflake's, after the words before its name. -/
def general (head : String) : Parser TableDefinition := do
  let grammar ← Parser.grammar
  let guarded := if ← Parser.keywords ["IF", "NOT", "EXISTS"] then "IF NOT EXISTS " else ""
  let name ← ObjectName.parserOf true
  let cluster ← onCluster
  let like ← modelTable ["LIKE", "ILIKE"] " LIKE "
  let clone ← modelTable ["CLONE"] " CLONE "
  let elements ← elements inner
  let columnComment ← columnComment
  let withoutRowid := if ← Parser.keywords ["WITHOUT", "ROWID"] then " WITHOUT ROWID" else ""
  let partitions ← partitioned inner
  let buckets ← clustered inner
  let storage ← storageOf inner (← Parser.fuel) {}
  let options ← spelledOptions inner "WITH"
  let properties ← spelledOptions inner "TBLPROPERTIES"
  let engine ← engine
  let counter ← autoIncrement
  let primaryKey ← primaryKey inner grammar
  let order ← orderedBy inner
  let clauses ← layout inner {
    columnComment, withoutRowid, like, clone, buckets, storage, options, properties, engine,
    counter, primaryKey, order
    partitions := partitionList partitions }
  let charset ← charset
  let collation ← collation
  let commit ← commit
  let strict := if ← Parser.keyword "STRICT" then " STRICT" else ""
  let comment ← closingComment grammar
  let query ← source inner grammar
  let clauses := { clauses with charset, collation, commit, strict, comment, query }
  pure (ofParts (head ++ guarded ++ name.render ++ cluster) name elements partitions clauses false)

/-- An external table, after the words before its name. -/
def external (head : String) : Parser TableDefinition := do
  let guarded := if ← Parser.keywords ["IF", "NOT", "EXISTS"] then "IF NOT EXISTS " else ""
  let name ← ObjectName.parser
  let elements ← elements inner
  let partitions ← partitioned inner
  let storage ← storageOf inner (← Parser.fuel) {}
  let properties ← spelledOptions inner "TBLPROPERTIES"
  let clauses := { storage, properties, partitions := partitionList partitions }
  pure (ofParts (head ++ guarded ++ name.render) name elements partitions clauses true)

/-- What has been read of a Snowflake table after its name. -/
structure SnowflakeParts where
  elements : Elements
  clauses : Clauses

/-- A clause of a Snowflake table that is a setting, after its word; none if the word
begins no setting. `token` is what is told if a flag is missing. -/
def snowflakeSetting? (key : String) (token : Option Lexeme) (clauses : Clauses) :
    Parser (Option Clauses) := do
  let setting (parser : Parser String) : Parser String := do
    Parser.expectSymbol "="
    pure (" " ++ key ++ "=" ++ (← parser))
  let flag : Parser String := do
    match ← Parser.oneOf ["TRUE", "FALSE"] with
    | some word => pure word
    | none => Parser.expectedAt "TRUE or FALSE" token
  let count : Parser String := do
    pure (toString (← Literal.unsigned))
  match key with
  | "ENABLE_SCHEMA_EVOLUTION" => pure (some { clauses with evolution := ← setting flag })
  | "CHANGE_TRACKING" => pure (some { clauses with tracking := ← setting flag })
  | "DATA_RETENTION_TIME_IN_DAYS" => pure (some { clauses with retention := ← setting count })
  | "MAX_DATA_EXTENSION_TIME_IN_DAYS" =>
    pure (some { clauses with extension := ← setting count })
  | "DEFAULT_DDL_COLLATION" =>
    let ddlCollation ← setting do pure ("'" ++ (← Literal.text) ++ "'")
    pure (some { clauses with ddlCollation })
  | _ => pure none

/-- A clause of a Snowflake table, after its word; none if the word begins no clause. -/
def snowflakeClause? (key : String) (token : Option Lexeme) (clauses : Clauses) :
    Parser (Option Clauses) := do
  match key with
  | "COPY" =>
    Parser.expectKeyword "GRANTS"
    pure (some { clauses with grants := " COPY GRANTS" })
  | "COMMENT" =>
    Parser.retreat
    pure (some { clauses with comment := ← tableComment })
  | "CLUSTER" =>
    Parser.expectKeyword "BY"
    let columns ← Identifier.listParser
    let clusterKey := " CLUSTER BY (" ++ Identifier.renderAll columns ++ ")"
    pure (some { clauses with clusterKey })
  | "WITH" =>
    let _ ← Parser.expectOneOf ["AGGREGATION", "TAG", "ROW"]
    Parser.retreat
    pure (some clauses)
  | "AGGREGATION" =>
    Parser.expectKeyword "POLICY"
    let policy ← ObjectName.parser
    pure (some { clauses with aggregation := " WITH AGGREGATION POLICY " ++ policy.render })
  | "ROW" =>
    Parser.expectKeywords ["ACCESS", "POLICY"]
    let policy ← ObjectName.parser
    Parser.expectKeyword "ON"
    let columns ← Identifier.listParser
    let access := " WITH ROW ACCESS POLICY " ++ policy.render ++ " ON (" ++
      Identifier.renderAll columns ++ ")"
    pure (some { clauses with access })
  | "TAG" =>
    let tags ← Parser.parenthesized (Parser.separated ColumnDefinition.snowflakeTag)
    pure (some { clauses with tags := " WITH TAG (" ++ commaList tags ++ ")" })
  | _ =>
    if key == "ON" && (← Parser.sees "COMMIT") then
      Parser.advance
      pure (some { clauses with commit := ← onCommit })
    else snowflakeSetting? key token clauses

/-- The columns and the clauses of a Snowflake table, at most `fuel` of them. A query or
another table that it is made from ends them. -/
def snowflakeParts : Nat → SnowflakeParts → Parser SnowflakeParts
  | 0, parts => pure parts
  | fuel + 1, parts => do
    let nameOf : Parser String := do
      match ← Parser.attempt ObjectName.parser with
      | some name => pure name.render
      | none => pure ""
    let token ← Parser.next
    match token with
    | none =>
      if parts.elements.columns.isEmpty then Parser.fail .missingColumns
      else
        Parser.retreat
        pure parts
    | some ⟨⟨.symbol "(", _, _⟩, _⟩ =>
      Parser.retreat
      let elements ← elements inner
      snowflakeParts fuel { parts with elements := elements }
    | some ⟨⟨.word _, _, _⟩, "AS"⟩ =>
      let query ← inner.query
      pure { parts with clauses := { parts.clauses with query := " AS " ++ query } }
    | some ⟨⟨.word _, _, _⟩, "CLONE"⟩ =>
      let name ← nameOf
      let clone := if name.isEmpty then "" else " CLONE " ++ name
      pure { parts with clauses := { parts.clauses with clone } }
    | some ⟨⟨.word _, _, _⟩, "LIKE"⟩ =>
      let name ← nameOf
      let like := if name.isEmpty then "" else " LIKE " ++ name
      pure { parts with clauses := { parts.clauses with like } }
    | some ⟨⟨.word _, _, _⟩, key⟩ =>
      match ← snowflakeClause? key token parts.clauses with
      | some clauses => snowflakeParts fuel { parts with clauses := clauses }
      | none => Parser.expectedAt "end of statement" token
    | _ => Parser.expectedAt "end of statement" token

/-- A table in Snowflake's grammar, after the words before its name. -/
def snowflake (head : String) : Parser TableDefinition := do
  let guarded := if ← Parser.keywords ["IF", "NOT", "EXISTS"] then "IF NOT EXISTS " else ""
  let name ← ObjectName.parser
  let parts ← snowflakeParts inner (← Parser.fuel) ⟨⟨[], []⟩, {}⟩
  pure (ofParts (head ++ guarded ++ name.render) name parts.elements none parts.clauses false)

end TableCatalog.TableDefinition
