import TableCatalog.Expr.Window

/-!
# Calls of functions

Stars and arguments, named or not, and the clauses that follow the arguments of a
function inside and outside its parentheses.
-/

namespace TableCatalog.Expr

variable (inner : Phrases)

/-- A constant. -/
def value : Parser Expr := do
  pure (ofText (← Literal.value))

/-- A star, alone or after a name with dots, as an argument or a select item. -/
def wildcard : Parser (Option String) := do
  let rec parts : Nat → List String → Parser (Option String)
    | 0, _ => pure none
    | fuel + 1, names => do
      if ← Parser.symbol "." then
        let token ← Parser.next
        match token with
        | some ⟨⟨.word word, _, past⟩, _⟩ =>
          parts fuel ((word.toIdentifier past).render :: names)
        | some ⟨⟨.string .single text, _, _⟩, _⟩ => parts fuel (quoteText text :: names)
        | some ⟨⟨.symbol "*", _, _⟩, _⟩ => pure (some (".".intercalate names.reverse ++ ".*"))
        | _ => Parser.expectedAt "an identifier or a '*' after '.'" token
      else pure none
  let token ← Parser.peek
  match token with
  | some ⟨⟨.symbol "*", _, _⟩, _⟩ =>
    Parser.advance
    pure (some "*")
  | some ⟨⟨.word word, _, past⟩, _⟩ =>
    Parser.advance
    parts (← Parser.fuel) [(word.toIdentifier past).render]
  | some ⟨⟨.string .single text, _, _⟩, _⟩ =>
    Parser.advance
    parts (← Parser.fuel) [quoteText text]
  | _ => pure none

/-- A star, or nothing read if the next expression is none. -/
def wildcard? : Parser (Option String) :=
  Parser.someOrBack wildcard

/-- A star or any expression, as an argument. -/
def starOrExpr : Parser String := do
  match ← wildcard? with
  | some star => pure star
  | none => inner.exprText

/-- Whether the name of an argument may be any expression. -/
def namesArgumentsByExprs : Grammar → Bool
  | .postgres | .sqlServer => true
  | _ => false

/-- The marks that may stand between the name of an argument and its value. -/
def argumentMarks : Grammar → List String
  | .duckDb | .generic => ["=>", "=", ":="]
  | .postgres | .sqlServer => ["=>", ":"]
  | _ => ["=>"]

/-- The mark between the name of an argument and its value. -/
def argumentMark : Parser String := do
  if ← Parser.keyword "VALUE" then pure "VALUE"
  else
    let marks := argumentMarks (← Parser.grammar)
    match ← Parser.peekSymbol with
    | some text =>
      if marks.contains text then
        Parser.advance
        pure text
      else Parser.expected "argument operator"
    | none => Parser.expected "argument operator"

/-- A named argument. -/
def namedArgument : Parser String := do
  let name ←
    if namesArgumentsByExprs (← Parser.grammar) then inner.exprText
    else pure (← Identifier.parser).render
  let mark ← argumentMark
  pure (name ++ " " ++ mark ++ " " ++ (← starOrExpr inner))

/-- An argument of a function. -/
def argument : Parser String := do
  match ← Parser.optional (namedArgument inner) with
  | some text => pure text
  | none => starOrExpr inner

/-- `IGNORE NULLS` or `RESPECT NULLS`. -/
def nullTreatment : Parser (Option String) := do
  match ← Parser.oneOf ["RESPECT", "IGNORE"] with
  | some word =>
    Parser.expectKeyword "NULLS"
    pure (some (word ++ " NULLS"))
  | none => pure none

/-- What becomes of nulls in structured data. -/
def nullMembers : Parser (Option String) := do
  if ← Parser.keywords ["ABSENT", "ON", "NULL"] then pure (some "ABSENT ON NULL")
  else if ← Parser.keywords ["NULL", "ON", "NULL"] then pure (some "NULL ON NULL")
  else pure none

/-- Whether equal arguments are dropped. -/
def duplicates : Parser (Option String) := do
  let place ← Parser.place
  let all ← Parser.keyword "ALL"
  let distinct ← Parser.keyword "DISTINCT"
  if all && distinct then
    Parser.fail (.refused "Cannot specify both ALL and DISTINCT" place)
  else pure (if all then some "ALL" else if distinct then some "DISTINCT" else none)

/-- What becomes of a list that is too long to be joined. -/
def overflow : Parser (Option String) := do
  if ← Parser.keywords ["ON", "OVERFLOW"] then
    if ← Parser.keyword "ERROR" then pure (some "ON OVERFLOW ERROR")
    else
      Parser.expectKeyword "TRUNCATE"
      let filler ←
        match ← Parser.peek with
        | some ⟨⟨.word _, _, _⟩, key⟩ =>
          if key == "WITH" || key == "WITHOUT" then pure ""
          else Parser.expected "either filler, WITH, or WITHOUT in LISTAGG"
        | some ⟨⟨.string style _, _, _⟩, _⟩ =>
          if [StringStyle.single, .escaped, .unicode, .national, .hex].contains style then
            pure (" " ++ (← inner.exprText))
          else Parser.expected "either filler, WITH, or WITHOUT in LISTAGG"
        | _ => Parser.expected "either filler, WITH, or WITHOUT in LISTAGG"
      let counted ←
        if ← Parser.keyword "WITH" then pure " WITH"
        else if ← Parser.keyword "WITHOUT" then pure " WITHOUT"
        else Parser.expected "either WITH or WITHOUT in LISTAGG"
      Parser.expectKeyword "COUNT"
      pure (some ("ON OVERFLOW TRUNCATE" ++ filler ++ counted ++ " COUNT"))
  else pure none

/-- The arguments of a function as they stand in parentheses, and whether they say how
nulls are treated. -/
structure Arguments where
  text : String
  treatsNulls : Bool

/-- Whether nulls may be told of inside the parentheses of a function. -/
def hasNullTreatmentInside : Grammar → Bool
  | .bigQuery | .generic | .snowflake => true
  | _ => false

/-- The clauses after the last argument. -/
def argumentClauses (nulls : Option String) : Parser (List (Option String)) := do
  let grammar ← Parser.grammar
  let order ← Parser.after? ["ORDER", "BY"] do pure ("ORDER BY " ++ (← sortKeys inner))
  let limit ← Parser.after? ["LIMIT"] do pure ("LIMIT " ++ (← inner.exprText))
  let bound ←
    if ← Parser.onlyIf (grammar == .generic || grammar == .bigQuery) (Parser.keyword "HAVING") then
      let word ← Parser.expectOneOf ["MIN", "MAX"]
      pure (some ("HAVING " ++ word ++ " " ++ (← inner.exprText)))
    else pure none
  let separator ←
    if ← Parser.onlyIf (grammar == .generic || grammar == .mysql) (Parser.keyword "SEPARATOR") then
      pure (some ("SEPARATOR " ++ (← value).text))
    else pure none
  let tooLong ← overflow inner
  let members ← nullMembers
  pure [nulls, order, limit, bound, separator, tooLong, members]

/-- The arguments of a function, after the opening parenthesis and through the closing
one. -/
def arguments : Parser Arguments := do
  let grammar ← Parser.grammar
  let before ← nullMembers
  if ← Parser.symbol ")" then pure ⟨before.getD "", false⟩
  else
    let duplicates ← duplicates
    let args ← Parser.separated (argument inner)
    let nulls ← if hasNullTreatmentInside grammar then nullTreatment else pure none
    let clauses ← argumentClauses inner nulls
    Parser.expectSymbol ")"
    pure {
      text := (duplicates.elim "" fun word => word ++ " ") ++ commaList args ++
        String.join ((before :: clauses).map afterBlank)
      treatsNulls := nulls.isSome }

/-- Whether the rows that a function sees may be filtered. -/
def hasFilters : Grammar → Bool
  | .sqlite | .postgres | .duckDb | .generic | .databricks | .hive | .clickHouse => true
  | _ => false

/-- The rows that a function sees. Where the words are not followed up they are passed
over. -/
def filterClause : Parser String := do
  if ← Parser.keyword "FILTER" then
    if ← Parser.symbol "(" then
      if ← Parser.keyword "WHERE" then
        let condition ← inner.exprText
        Parser.expectSymbol ")"
        pure (" FILTER (WHERE " ++ condition ++ ")")
      else pure ""
    else pure ""
  else pure ""

/-- The arguments of a call with what follows them, from the opening parenthesis on. -/
def callTail : Parser String := do
  let grammar ← Parser.grammar
  Parser.expectSymbol "("
  if ← Parser.onlyIf (grammar == .snowflake) Phrases.seesQuery then
    let query ← inner.query
    Parser.expectSymbol ")"
    pure ("(" ++ query ++ ")")
  else
    let first ← arguments inner
    let parametric ←
      Parser.onlyIf (grammar == .clickHouse || grammar == .generic) (Parser.symbol "(")
    let last ← if parametric then arguments inner else pure first
    let group ←
      if ← Parser.keywords ["WITHIN", "GROUP"] then
        let order ← Parser.parenthesized do
          Parser.expectKeywords ["ORDER", "BY"]
          sortKeys inner
        pure (" WITHIN GROUP (ORDER BY " ++ order ++ ")")
      else pure ""
    let filter ← if hasFilters grammar then filterClause inner else pure ""
    let nulls ← if last.treatsNulls then pure none else nullTreatment
    let rows ←
      if ← Parser.keyword "OVER" then
        if ← Parser.symbol "(" then pure (" OVER (" ++ (← window inner) ++ ")")
        else pure (" OVER " ++ (← Identifier.parser).render)
      else pure ""
    pure ((if parametric then "(" ++ first.text ++ ")" else "") ++ "(" ++ last.text ++ ")" ++
      group ++ filter ++ afterBlank nulls ++ rows)

/-- A call of a function by a name, from its opening parenthesis on. -/
def call (name : String) : Parser Expr := do
  pure (ofText (name ++ (← callTail inner)))

/-- A call of a method with the dot before it. -/
def methodCall : Parser String := do
  Parser.expectSymbol "."
  let token ← Parser.next
  match token with
  | some ⟨⟨.word word, _, past⟩, _⟩ =>
    pure ("." ++ (word.toIdentifier past).render ++ (← callTail inner))
  | _ => Parser.expectedAt "identifier" token

/-- The calls of methods that follow an operand, where the grammar has them. All of them
are taken, or none. -/
def methods (expr : Expr) : Parser Expr := do
  if (← Parser.grammar) == .sqlServer then
    let calls ← Parser.optional <| Parser.many do
      if ← Parser.seesSymbol "." then pure (some (← methodCall inner)) else pure none
    match calls with
    | some (first :: rest) => pure (ofText (expr.text ++ String.join (first :: rest)))
    | _ => pure expr
  else pure expr

end TableCatalog.Expr
