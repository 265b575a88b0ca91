import TableCatalog.ColumnDefinition
import TableCatalog.Expr.Parser

/-!
# Reading column definitions

A column is a name, a type and options until something follows that is no option. A
grammar that lacks an option may still read over its keyword; the text then goes on
with whatever follows.
-/

namespace TableCatalog

/-- When a constraint is checked, and whether it is at all. -/
def constraintCharacteristics : Parser String := do
  let rec loop : Nat → Option Bool → Option String → Option Bool → Parser String
    | 0, _, _, _ => pure ""
    | fuel + 1, deferrable, initially, enforced => do
      let done : String :=
        (deferrable.elim "" fun yes => if yes then " DEFERRABLE" else " NOT DEFERRABLE") ++
        (initially.elim "" fun word => " INITIALLY " ++ word) ++
        (enforced.elim "" fun yes => if yes then " ENFORCED" else " NOT ENFORCED")
      if ← Parser.onlyIf deferrable.isNone (Parser.keywords ["NOT", "DEFERRABLE"]) then
        loop fuel (some false) initially enforced
      else if ← Parser.onlyIf deferrable.isNone (Parser.keyword "DEFERRABLE") then
        loop fuel (some true) initially enforced
      else if ← Parser.onlyIf initially.isNone (Parser.keyword "INITIALLY") then
        match ← Parser.oneOf ["DEFERRED", "IMMEDIATE"] with
        | some word => loop fuel deferrable (some word) enforced
        | none => Parser.expected "one of DEFERRED or IMMEDIATE"
      else if ← Parser.onlyIf enforced.isNone (Parser.keyword "ENFORCED") then
        loop fuel deferrable initially (some true)
      else if ← Parser.onlyIf enforced.isNone (Parser.keywords ["NOT", "ENFORCED"]) then
        loop fuel deferrable initially (some false)
      else pure done
  loop 4 none none none

/-- What happens to a row when the row that it refers to goes or changes. -/
def referentialAction : Parser String := do
  if ← Parser.keyword "RESTRICT" then pure "RESTRICT"
  else if ← Parser.keyword "CASCADE" then pure "CASCADE"
  else if ← Parser.keywords ["SET", "NULL"] then pure "SET NULL"
  else if ← Parser.keywords ["NO", "ACTION"] then pure "NO ACTION"
  else if ← Parser.keywords ["SET", "DEFAULT"] then pure "SET DEFAULT"
  else Parser.expected "one of RESTRICT, CASCADE, SET NULL, NO ACTION or SET DEFAULT"

/-- The actions of a reference, one of each kind at most. -/
def referentialActions : Parser String := do
  let rec loop : Nat → Option String → Option String → Parser String
    | 0, onDelete, onUpdate => pure (render onDelete onUpdate)
    | fuel + 1, onDelete, onUpdate => do
      if ← Parser.onlyIf onDelete.isNone (Parser.keywords ["ON", "DELETE"]) then
        loop fuel (some (← referentialAction)) onUpdate
      else if ← Parser.onlyIf onUpdate.isNone (Parser.keywords ["ON", "UPDATE"]) then
        loop fuel onDelete (some (← referentialAction))
      else pure (render onDelete onUpdate)
  loop 3 none none
where
  /-- The actions in their fixed order. -/
  render (onDelete onUpdate : Option String) : String :=
    (onDelete.elim "" fun action => " ON DELETE " ++ action) ++
      (onUpdate.elim "" fun action => " ON UPDATE " ++ action)

/-- The options of a sequence of numbers, each at most once and in a fixed order. -/
def sequenceOptions : Parser String := do
  let counted (word filler : String) : Parser String := do
    if ← Parser.keyword word then
      if ← Parser.onlyIf (!filler.isEmpty) (Parser.keyword filler) then
        pure (" " ++ word ++ " " ++ filler ++ " " ++ (← Literal.number))
      else pure (" " ++ word ++ " " ++ (← Literal.number))
    else pure ""
  let bound (word : String) : Parser String := do
    if ← Parser.keyword word then pure (" " ++ word ++ " " ++ (← Literal.number))
    else if ← Parser.keywords ["NO", word] then pure (" NO " ++ word)
    else pure ""
  let increment ← counted "INCREMENT" "BY"
  let low ← bound "MINVALUE"
  let high ← bound "MAXVALUE"
  let start ← counted "START" "WITH"
  let cache ← counted "CACHE" ""
  let cycle ←
    if ← Parser.keywords ["NO", "CYCLE"] then pure " NO CYCLE"
    else if ← Parser.keyword "CYCLE" then pure " CYCLE"
    else pure ""
  pure (increment ++ low ++ high ++ start ++ cache ++ cycle)

/-- Options in parentheses, each a name and a value. -/
def keyedOption (inner : Phrases) : Parser String := do
  let grammar ← Parser.grammar
  let key ← Parser.peekKey
  let special := grammar == .sqlServer || grammar == .generic
  if special && key == "HEAP" then pure (← Identifier.parser).render
  else if special && key == "PARTITION" then
    Parser.advance
    Parser.expectSymbol "("
    let column ← Identifier.parser
    Parser.expectKeyword "RANGE"
    let side := afterBlank (← Parser.oneOf ["LEFT", "RIGHT"])
    Parser.expectKeywords ["FOR", "VALUES"]
    Parser.expectSymbol "("
    let values ← inner.exprTexts
    Parser.expectSymbol ")"
    Parser.expectSymbol ")"
    pure ("PARTITION (" ++ column.render ++ " RANGE" ++ side ++ " FOR VALUES (" ++
      commaList values ++ "))")
  else if special && key == "CLUSTERED" then
    if ← Parser.keywords ["CLUSTERED", "COLUMNSTORE", "INDEX", "ORDER"] then
      pure ("CLUSTERED COLUMNSTORE INDEX ORDER (" ++
        Identifier.renderAll (← Identifier.requiredColumns) ++ ")")
    else if ← Parser.keywords ["CLUSTERED", "COLUMNSTORE", "INDEX"] then
      pure "CLUSTERED COLUMNSTORE INDEX"
    else if ← Parser.keywords ["CLUSTERED", "INDEX"] then
      let columns ← Parser.parenthesized <| Parser.separated do
        let name ← Identifier.parser
        let direction ← Parser.oneOf ["ASC", "DESC"]
        pure (name.render ++ afterBlank direction)
      pure ("CLUSTERED INDEX (" ++ commaList columns ++ ")")
    else
      Parser.fail (.refused "invalid CLUSTERED sequence" Location.none)
  else
    let name ← Identifier.parser
    Parser.expectSymbol "="
    pure (name.render ++ " = " ++ (← inner.exprText))

/-- Options in parentheses after keywords; none if the keywords are not next. Only after
a single keyword may the parentheses be empty. -/
def keyedOptions (inner : Phrases) (words : List String) : Parser (Option (List String)) := do
  if ← Parser.keywords words then
    let options ← Parser.parenthesized do
      if words.length == 1 then Parser.separatedOrNone (keyedOption inner) ")"
      else Parser.separated (keyedOption inner)
    pure (some options)
  else pure none

namespace ColumnDefinition

variable (inner : Phrases)

/-- An option that computes the column, after `GENERATED`; none if what follows is not
complete. -/
def generated? : Parser (Option ColumnOption) := do
  let identity (kind : String) : Parser (Option ColumnOption) := do
    let head := "GENERATED " ++ kind ++ " AS IDENTITY"
    if ← Parser.symbol "(" then
      let options ← sequenceOptions
      Parser.expectSymbol ")"
      pure (some (.further (if options.isEmpty then head else head ++ "(" ++ options ++ " )")))
    else pure (some (.further head))
  if ← Parser.keywords ["ALWAYS", "AS", "IDENTITY"] then identity "ALWAYS"
  else if ← Parser.keywords ["BY", "DEFAULT", "AS", "IDENTITY"] then identity "BY DEFAULT"
  else if ← Parser.keywords ["ALWAYS", "AS"] then
    if ← Parser.symbol "(" then
      let expr ← inner.exprText
      Parser.expectSymbol ")"
      let head := "GENERATED ALWAYS AS (" ++ expr ++ ")"
      if ← Parser.keyword "STORED" then pure (some (.further (head ++ " STORED")))
      else if (← Parser.grammar) == .postgres then Parser.expected "STORED"
      else if ← Parser.keyword "VIRTUAL" then pure (some (.further (head ++ " VIRTUAL")))
      else pure (some (.further head))
    else pure none
  else pure none

/-- An option that computes the column, after `AS`. -/
def computed : Parser ColumnOption := do
  let expr ← Parser.parenthesized inner.exprText
  let mode := afterBlank (← Parser.oneOf ["STORED", "VIRTUAL"])
  pure (.further ("AS (" ++ expr ++ ")" ++ mode))

/-- Seed and increment in parentheses. -/
def seedAndIncrement : Parser String :=
  Parser.parenthesized do
    let seed ← Literal.number
    Parser.expectSymbol ","
    let increment ← Literal.number
    pure ("(" ++ seed ++ ", " ++ increment ++ ")")

/-- The properties of a numbered column in Snowflake, after its keyword. -/
def snowflakeIdentity (word : String) : Parser ColumnOption := do
  let parameters ←
    if ← Parser.seesSymbol "(" then seedAndIncrement
    else if ← Parser.keyword "START" then
      let seed ← Literal.number
      Parser.expectKeyword "INCREMENT"
      let increment ← Literal.number
      pure (" START " ++ seed ++ " INCREMENT " ++ increment)
    else pure ""
  let order := afterBlank (← Parser.oneOf ["ORDER", "NOORDER"])
  pure (.further (word ++ parameters ++ order))

/-- A tag of a Snowflake column or table. -/
def snowflakeTag : Parser String := do
  let name ← Identifier.parser
  Parser.expectSymbol "="
  pure (name.render ++ "=" ++ quoteText (← Literal.text))

/-- The policy of a Snowflake column, after its keywords. -/
def snowflakePolicy (words : String) : Parser ColumnOption := do
  let name ← Identifier.parser
  if ← Parser.keyword "USING" then
    let columns ← Identifier.listParser
    let names := Identifier.renderAll columns
    pure (.further (words ++ " " ++ name.render ++ " USING (" ++ names ++ ")"))
  else pure (.further (words ++ " " ++ name.render))

/-- The options of a column that only Snowflake has. -/
def snowflakeOption? : Parser (Option ColumnOption) := do
  let ahead ← Parser.sees "WITH"
  let second := (← Parser.peekAt (if ahead then 1 else 0)).elim "" (·.key)
  let third := (← Parser.peekAt (if ahead then 2 else 1)).elim "" (·.key)
  let mark := if ahead then "WITH " else ""
  let skip (count : Nat) : Parser Unit := do
    if ahead then Parser.advance
    for _ in List.range count do Parser.advance
  match second, third with
  | "IDENTITY", _ | "AUTOINCREMENT", _ =>
    skip 1
    pure (some (← snowflakeIdentity second))
  | "MASKING", "POLICY" | "PROJECTION", "POLICY" =>
    skip 2
    pure (some (← snowflakePolicy (mark ++ second ++ " POLICY")))
  | "TAG", _ =>
    skip 1
    let tags ← Parser.parenthesized (Parser.separated snowflakeTag)
    pure (some (.further (mark ++ "TAG (" ++ commaList tags ++ ")")))
  | _, _ => pure none

/-- Whether columns may be marked as ascending or descending. -/
def hasDirection : Grammar → Bool
  | .sqlite | .generic => true
  | _ => false

/-- A reference to another table, after `REFERENCES`. -/
def reference : Parser ColumnOption := do
  let table ← ObjectName.parser
  let columns ← Identifier.optionalColumns
  let actions ← referentialActions
  let characteristics ← constraintCharacteristics
  pure (.further ("REFERENCES " ++ table.render ++
    (if columns.isEmpty then "" else " (" ++ Identifier.renderAll columns ++ ")") ++ actions ++
    characteristics))

/-- An option that begins with one of the words that are read in every grammar, even
where they mean nothing and leave no option behind. -/
def wordOption? : Parser (Option ColumnOption) := do
  let grammar ← Parser.grammar
  let grammarIn (grammars : List Grammar) : Bool := grammars.contains grammar
  let marked (words : List String) (test : Bool) : Parser Bool := do
    pure ((← Parser.keywords words) && test)
  if ← marked ["AUTO_INCREMENT"] (grammarIn [.mysql, .generic]) then
    pure (some (.further "AUTO_INCREMENT"))
  else if ← marked ["AUTOINCREMENT"] (grammarIn [.sqlite, .generic]) then
    pure (some (.further "AUTOINCREMENT"))
  else if ← marked ["ASC"] (hasDirection grammar) then pure (some (.further "ASC"))
  else if ← marked ["DESC"] (hasDirection grammar) then pure (some (.further "DESC"))
  else if ← marked ["ON", "UPDATE"] (grammarIn [.mysql, .generic]) then
    pure (some (.further ("ON UPDATE " ++ (← inner.exprText))))
  else if ← Parser.keyword "GENERATED" then generated? inner
  else if grammarIn [.bigQuery, .generic] && (← Parser.sees "OPTIONS") then
    let options ← keyedOptions inner ["OPTIONS"]
    pure (some (.further ("OPTIONS(" ++ commaList (options.getD []) ++ ")")))
  else if ← marked ["AS"] (grammarIn [.mysql, .sqlite, .duckDb, .generic]) then
    pure (some (← computed inner))
  else if ← marked ["IDENTITY"] (grammarIn [.sqlServer, .generic]) then
    if ← Parser.seesSymbol "(" then
      pure (some (.further ("IDENTITY" ++ (← seedAndIncrement))))
    else pure (some (.further "IDENTITY"))
  else if ← Parser.onlyIf (grammarIn [.sqlite, .generic]) (Parser.keywords ["ON", "CONFLICT"]) then
    let action ← Parser.expectOneOf ["ROLLBACK", "ABORT", "FAIL", "IGNORE", "REPLACE"]
    pure (some (.further ("ON CONFLICT " ++ action)))
  else pure none

/-- An option of a column; none if something else follows. -/
def option? : Parser (Option ColumnOption) := do
  let grammar ← Parser.grammar
  let special ← if grammar == .snowflake then snowflakeOption? else pure none
  if special.isSome then pure special
  else
    let clickHouse := grammar == .clickHouse || grammar == .generic
    if ← Parser.keywords ["CHARACTER", "SET"] then
      pure (some (.further ("CHARACTER SET " ++ (← ObjectName.parser).render)))
    else if ← Parser.keywords ["NOT", "NULL"] then pure (some .notNull)
    else if ← Parser.keyword "COMMENT" then
      let token ← Parser.next
      match token with
      | some ⟨⟨.string .single text, _, _⟩, _⟩ => pure (some (.comment text))
      | _ => Parser.expectedAt "string" token
    else if ← Parser.keyword "NULL" then pure (some .null)
    else if ← Parser.keyword "DEFAULT" then pure (some (.default (← inner.exprText)))
    else if ← Parser.onlyIf clickHouse (Parser.keyword "MATERIALIZED") then
      pure (some (.further ("MATERIALIZED " ++ (← inner.exprText))))
    else if ← Parser.onlyIf clickHouse (Parser.keyword "ALIAS") then
      pure (some (.further ("ALIAS " ++ (← inner.exprText))))
    else if ← Parser.onlyIf clickHouse (Parser.keyword "EPHEMERAL") then
      if (← Parser.seesSymbol ",") || (← Parser.seesSymbol ")") then
        pure (some (.further "EPHEMERAL"))
      else pure (some (.further ("EPHEMERAL " ++ (← inner.exprText))))
    else if ← Parser.keywords ["PRIMARY", "KEY"] then
      pure (some (.unique true (← constraintCharacteristics)))
    else if ← Parser.keyword "UNIQUE" then
      pure (some (.unique false (← constraintCharacteristics)))
    else if ← Parser.keyword "REFERENCES" then pure (some (← reference))
    else if ← Parser.keyword "CHECK" then
      let expr ← Parser.parenthesized inner.exprText
      pure (some (.further ("CHECK (" ++ expr ++ ")")))
    else wordOption? inner

/-- The options and the last collation of a column, at most `fuel` of them. -/
def optionsOf (collates : Bool) :
    Nat → Option ObjectName → Parser (List NamedOption × Option ObjectName)
  | 0, collation => pure ([], collation)
  | fuel + 1, collation => do
    if ← Parser.keyword "CONSTRAINT" then
      let name ← Identifier.parser
      match ← option? inner with
      | some option =>
        let (rest, collation) ← optionsOf collates fuel collation
        pure (⟨some name, option⟩ :: rest, collation)
      | none => Parser.expected "constraint details after CONSTRAINT <name>"
    else
      match ← option? inner with
      | some option =>
        let (rest, collation) ← optionsOf collates fuel collation
        pure (⟨none, option⟩ :: rest, collation)
      | none =>
        if ← Parser.onlyIf collates (Parser.keyword "COLLATE") then
          optionsOf collates fuel (some (← ObjectName.parser))
        else pure ([], collation)

/-- Whether a column has no type: in SQLite the type may be left out. -/
def lacksType : Parser Bool := do
  if (← Parser.grammar) == .sqlite then
    match ← Parser.peek with
    | some ⟨⟨.word _, _, _⟩, key⟩ =>
      pure (["CONSTRAINT", "PRIMARY", "NOT", "UNIQUE", "CHECK", "DEFAULT", "COLLATE",
        "REFERENCES", "GENERATED", "AS"].contains key)
    | _ => pure true
  else pure false

/-- The definition of a column. -/
def parser : Parser ColumnDefinition := do
  let name ← Identifier.parser
  let type ← if ← lacksType then pure .unspecified else DataType.parserOf inner.column
  let collation ←
    if ← Parser.keyword "COLLATE" then pure (some (← ObjectName.parser)) else pure none
  let collates ← Parser.grammarIn [.mysql, .snowflake, .generic]
  let (options, collation) ← optionsOf inner collates (← Parser.fuel) collation
  pure ⟨name, type, collation, options⟩

end ColumnDefinition

end TableCatalog
