import TableCatalog.Expr.Phrase

/-!
# Operands

Where an operand begins with a word, the phrase that the word may begin is tried first;
if it fails, most words may still be names. Operands may have methods and a collation
after them.
-/

namespace TableCatalog.Expr

variable (inner : Phrases)

/-- The phrase that a word begins, the word having been read; none if it begins none. -/
def ofReserved (word : Word) (start : Location) (key : String) : Parser (Option Expr) := do
  let grammar ← Parser.grammar
  let foundIf (test : Bool) (parser : Parser Expr) : Parser (Option Expr) :=
    if test then do pure (some (← parser)) else pure none
  let found := foundIf true
  match key with
  | "TRUE" | "FALSE" =>
    foundIf (Literal.hasBooleans grammar) do
      pure (ofText (String.ofList (Text.asciiLower key.toList)))
  | "NULL" => found (pure (ofText key))
  | "CURRENT_CATALOG" | "CURRENT_USER" | "SESSION_USER" | "USER" =>
    foundIf (grammar == .postgres || grammar == .generic) (pure (ofText word.text))
  | "CURRENT_TIMESTAMP" | "CURRENT_TIME" | "CURRENT_DATE" | "LOCALTIME" | "LOCALTIMESTAMP" =>
    found (timeFunction inner word.text)
  | "CASE" => found (caseExpr inner)
  | "CONVERT" => found (convertExpr inner key)
  | "TRY_CONVERT" => foundIf (grammar == .sqlServer || grammar == .generic) (convertExpr inner key)
  | "CAST" | "TRY_CAST" | "SAFE_CAST" => found (castExpr inner key)
  | "EXISTS" =>
    let second ← Parser.peekKeyAt 1
    foundIf (grammar != .databricks || second == "SELECT" || second == "WITH")
      (existsExpr inner "")
  | "EXTRACT" => found (extractExpr inner)
  | "CEIL" | "FLOOR" => found (roundExpr inner key)
  | "POSITION" => foundIf (← Parser.seesSymbol "(") (positionExpr inner word.text)
  | "SUBSTRING" => found (substringExpr inner)
  | "OVERLAY" => found (overlayExpr inner)
  | "TRIM" => found (trimExpr inner)
  | "INTERVAL" => found (duration inner)
  | "ARRAY" =>
    if ← Parser.symbol "[" then found (arrayExpr inner key)
    else
      let holdsQuery := !(grammar == .clickHouse || grammar == .databricks)
      foundIf (holdsQuery && (← Parser.seesSymbol "(")) do
        pure (ofText (word.text ++ "(" ++ (← Parser.parenthesized inner.query) ++ ")"))
  | "NOT" => found (notExpr inner)
  | "MATCH" => foundIf (grammar == .mysql || grammar == .generic) matchExpr
  | "STRUCT" =>
    foundIf ([Grammar.bigQuery, .databricks, .generic].contains grammar) (structExpr inner start)
  | "PRIOR" =>
    foundIf (← Parser.hasPrior) do
      pure (ofText ("PRIOR " ++ (← inner.expr (Precedence.sum.strength grammar)).text))
  | "MAP" =>
    foundIf ((grammar == .duckDb || grammar == .generic) && (← Parser.seesSymbol "\x7b")) do
      pure (ofText ("MAP " ++ (← dictionary inner inner.exprText)))
  | _ => pure none

/-- A function value with one parameter, its arrow being next. -/
def lambdaOf (name : Identifier) : Parser Expr := do
  Parser.expectSymbol "->"
  pure (ofText (name.render ++ " -> " ++ (← inner.exprText)))

/-- The name, the call or the part of a value that a word begins, the word having been
read. -/
def ofUnreserved (word : Word) (past : Location) : Parser Expr := do
  let grammar ← Parser.grammar
  let name := word.toIdentifier past
  match ← Parser.peek with
  | some ⟨⟨.symbol ".", _, _⟩, _⟩ => accesses inner name.render true
  | some ⟨⟨.symbol "(", _, _⟩, _⟩ =>
    if ← Parser.onlyIf (marksOuterJoins grammar) (Parser.symbols ["(", "+", ")"]) then
      pure (ofText (name.render ++ " (+)"))
    else
      let result ← methods inner (← call inner name.render)
      accesses inner result.text false
  | some ⟨⟨.symbol "[", _, _⟩, _⟩ =>
    if hasSubscripts grammar then
      let brackets ← subscripts inner
      accesses inner (name.render ++ brackets) false
    else pure (ofName name)
  | some ⟨⟨.string style _, _, _⟩, _⟩ =>
    if word.text.startsWith "_" && [StringStyle.single, .double, .hex].contains style then
      pure (ofText (word.text ++ " " ++ (← value).text))
    else pure (ofName name)
  | some ⟨⟨.symbol "->", _, _⟩, _⟩ =>
    if grammar == .databricks then lambdaOf inner name else pure (ofName name)
  | _ => pure (ofName name)

/-- Whether a keyword can never be a name in an expression. -/
def isNeverName (grammar : Grammar) (key : String) : Bool :=
  Keyword.notColumnName.contains key && !(grammar == .snowflake && key == "INTERVAL")

/-- What has been read as an operand: whole if nothing more belongs to it. -/
structure Primary where
  expr : Expr
  isWhole : Bool

/-- The operand that a word begins, the word having been read. A name that a phrase has
given way to is whole. -/
def ofWord (word : Word) (start past : Location) (key : String) : Parser Primary := do
  let phrase : Parser (Option Primary) := do
    pure ((← ofReserved inner word start key).map fun expr => ⟨expr, false⟩)
  let found ← Parser.recover phrase (fun _ => true) fun _ => do
    if isNeverName (← Parser.grammar) key then pure none
    else
      let name ← Parser.attemptBack (ofUnreserved inner word past)
      pure (name.map fun expr => some ⟨expr, true⟩)
  match found with
  | some primary => pure primary
  | none => pure ⟨← ofUnreserved inner word past, false⟩

/-- A function value whose parameters stand in parentheses, the opening one having been
read. -/
def lambda : Parser (Option Expr) := do
  if (← Parser.grammar) == .databricks then
    Parser.optional do
      let names ← Parser.separated Identifier.parser
      Parser.expectSymbol ")"
      Parser.expectSymbol "->"
      pure (ofText ("(" ++ Identifier.renderAll names ++ ") -> " ++ (← inner.exprText)))
  else pure none

/-- A value in parentheses, after the closing one: methods, and a field of it. -/
def closedValue (expr : Expr) : Parser Primary := do
  Parser.expectSymbol ")"
  let expr ← methods inner expr
  if ← Parser.symbol "." then
    let token ← Parser.next
    match token with
    | some ⟨⟨.word word, _, past⟩, _⟩ =>
      pure ⟨ofText (expr.text ++ "." ++ (word.toIdentifier past).render), false⟩
    | _ =>
      Parser.failOver fun found =>
        .refused ("Expected identifier, found: " ++ found.elim "EOF" fun found => found.token.render)
          (found.elim Location.none (·.first))
  else pure ⟨expr, false⟩

/-- What follows an opening parenthesis: a query, a function value, or expressions. -/
def inParentheses : Parser Primary := do
  if ← Phrases.seesQuery then closedValue inner (ofQuery (← inner.query))
  else
    match ← lambda inner with
    | some expr => pure ⟨expr, true⟩
    | none => closedValue inner (ofText ("(" ++ commaList (← inner.exprTexts) ++ ")"))

/-- Whether there are dictionaries of names in braces. -/
def hasDictionaries : Grammar → Bool
  | .duckDb | .clickHouse | .generic => true
  | _ => false

/-- What stands in braces: a call in the notation of database connectors, or a
dictionary. The opening brace has been read. -/
def inBraces (brace : Option Lexeme) : Parser Expr := do
  let called ← Parser.optional do
    Parser.expectKeyword "FN"
    let name ← ObjectName.parser
    call inner name.render
  match called with
  | some expr =>
    Parser.expectSymbol "\x7d"
    pure (ofText ("\x7bfn " ++ expr.text ++ "\x7d"))
  | none =>
    if hasDictionaries (← Parser.grammar) then
      Parser.retreat
      pure (ofText (← dictionary inner do pure (← Identifier.parser).render))
    else Parser.expectedAt "an expression" brace

/-- An operator with the operand after it. -/
def unary (mark : String) (precedence : Precedence) : Parser Primary := do
  let expr ← inner.expr (precedence.strength (← Parser.grammar))
  pure ⟨ofText (mark ++ expr.text), false⟩

/-- The operand that a symbol begins, the symbol having been read; none if it begins
none. -/
def ofSymbol (token : Option Lexeme) (mark : String) : Parser Primary := do
  let grammar ← Parser.grammar
  let none' : Parser Primary := Parser.expectedAt "an expression" token
  let placeholder : Parser Primary := do
    Parser.retreat
    pure ⟨← value, false⟩
  match mark with
  | "[" => pure ⟨← arrayExpr inner "", false⟩
  | "-" | "+" => unary inner mark .product
  | "!" =>
    if [Grammar.databricks, .hive, .mysql, .sqlite].contains grammar then
      unary inner mark .unaryNot
    else none'
  | "!!" | "|/" | "||/" | "~" => if grammar == .postgres then unary inner mark .sum else none'
  | "@" => if grammar == .postgres then unary inner mark .sum else placeholder
  | ":" => placeholder
  | "(" => inParentheses inner
  | "\x7b" => pure ⟨← inBraces inner token, false⟩
  | _ => none'

/-- An operand before what belongs to it. -/
def primary : Parser Primary := do
  let grammar ← Parser.grammar
  let token ← Parser.next
  match token with
  | some ⟨⟨.word word, start, past⟩, key⟩ => ofWord inner word start past key
  | some ⟨⟨.string style _, _, _⟩, _⟩ =>
    if style == .escaped && !(grammar == .postgres || grammar == .generic) then
      Parser.expectedAt "an expression" token
    else
      Parser.retreat
      pure ⟨← value, false⟩
  | some ⟨⟨.number .., _, _⟩, _⟩ | some ⟨⟨.dollarString .., _, _⟩, _⟩
  | some ⟨⟨.placeholder _, _, _⟩, _⟩ =>
    Parser.retreat
    pure ⟨← value, false⟩
  | some ⟨⟨.symbol mark, _, _⟩, _⟩ => ofSymbol inner token mark
  | _ => Parser.expectedAt "an expression" token

/-- The methods and the collation of an operand. -/
def completed (expr : Expr) : Parser Expr := do
  let expr ← methods inner expr
  if ← Parser.keyword "COLLATE" then
    pure (ofText (expr.text ++ " COLLATE " ++ (← ObjectName.parser).render))
  else pure expr

/-- An operand. -/
def operand : Parser Expr := do
  match ← Parser.optional (typedConstant inner) with
  | some expr => pure expr
  | none =>
    let found ← primary inner
    if found.isWhole then pure found.expr else completed inner found.expr

end TableCatalog.Expr
