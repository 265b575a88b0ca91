import TableCatalog.Expr.Access
import TableCatalog.Expr.Precedence

/-!
# Phrases that keywords begin

Conditionals, conversions, functions whose arguments are told apart by keywords, and
the constructors of arrays, structs and dictionaries.
-/

namespace TableCatalog.Expr

variable (inner : Phrases)

/-- A keyword with the expression after it, or nothing. -/
def whenSeen (word : String) : Parser String :=
  Parser.clause [word] inner.exprText

/-- The branches of a `CASE`, at most `fuel` of them. -/
def caseBranches : Nat → Parser (List String)
  | 0 => pure []
  | fuel + 1 => do
    let condition ← inner.exprText
    Parser.expectKeyword "THEN"
    let result ← inner.exprText
    let branch := " WHEN " ++ condition ++ " THEN " ++ result
    if ← Parser.keyword "WHEN" then
      let rest ← caseBranches fuel
      pure (branch :: rest)
    else pure [branch]

/-- What follows `CASE`. -/
def caseExpr : Parser Expr := do
  let operand ←
    if ← Parser.keyword "WHEN" then pure ""
    else
      let operand ← inner.exprText
      Parser.expectKeyword "WHEN"
      pure (" " ++ operand)
  let branches ← caseBranches inner (← Parser.fuel)
  let otherwise ← whenSeen inner "ELSE"
  Parser.expectKeyword "END"
  pure (ofText ("CASE" ++ operand ++ String.join branches ++ otherwise ++ " END"))

/-- How a text is formatted in a conversion. -/
def castFormat : Parser String :=
  Parser.clause ["FORMAT"] do
    let format ← value
    let zone ← Parser.clause ["AT", "TIME", "ZONE"] do pure (← value).text
    pure (format.text ++ zone)

/-- What follows `CAST` and the words like it. -/
def castExpr (word : String) : Parser Expr :=
  Parser.parenthesized do
    let expr ← inner.exprText
    Parser.expectKeyword "AS"
    let type ← DataType.parserOf inner.column
    let format ← castFormat
    pure (ofText (word ++ "(" ++ expr ++ " AS " ++ type.render ++ format ++ ")"))

/-- Whether the type comes first in a conversion. -/
def convertsTypeFirst : Grammar → Bool
  | .sqlServer | .redshift => true
  | _ => false

/-- A conversion that names the type first, between its parentheses. -/
def typeThenValue : Parser String := do
  let type ← DataType.parserOf inner.column
  Parser.expectSymbol ","
  let expr ← inner.exprText
  let styles ← if ← Parser.symbol "," then inner.exprTexts else pure []
  pure (commaList (type.render :: expr :: styles))

/-- A conversion that names the type or a character set last, between its
parentheses. -/
def valueThenType : Parser String := do
  let expr ← inner.exprText
  if ← Parser.keyword "USING" then
    pure (expr ++ " USING " ++ (← ObjectName.parser).render)
  else
    Parser.expectSymbol ","
    let type ← DataType.parserOf inner.column
    let charset ← Parser.clause ["CHARACTER", "SET"] do pure (← ObjectName.parser).render
    pure (expr ++ ", " ++ type.render ++ charset)

/-- What follows `CONVERT` and the word like it. -/
def convertExpr (word : String) : Parser Expr := do
  let typeFirst := convertsTypeFirst (← Parser.grammar)
  let body ← Parser.parenthesized (if typeFirst then typeThenValue inner else valueThenType inner)
  pure (ofText (word ++ "(" ++ body ++ ")"))

/-- What follows `EXTRACT`. -/
def extractExpr : Parser Expr := do
  let hasComma := [Grammar.snowflake, .generic].contains (← Parser.grammar)
  Parser.parenthesized do
    let unit ← temporalUnit
    let mark ←
      if ← Parser.keyword "FROM" then pure " FROM "
      else if ← Parser.onlyIf hasComma (Parser.symbol ",") then pure ", "
      else Parser.fail (.refused "Expected 'FROM' or ','" Location.none)
    pure (ofText ("EXTRACT(" ++ unit ++ mark ++ (← inner.exprText) ++ ")"))

/-- What follows `CEIL` and `FLOOR`. A scale has to be a number. -/
def roundExpr (word : String) : Parser Expr :=
  Parser.parenthesized do
    let expr ← inner.exprText
    let manner ←
      if ← Parser.keyword "TO" then pure (" TO " ++ (← temporalUnit))
      else if ← Parser.symbol "," then
        let token ← Parser.peek
        let scale ← value
        match token with
        | some ⟨⟨.number .., _, _⟩, _⟩ => pure (", " ++ scale.text)
        | _ => Parser.fail (.refused "Scale field can only be of number type" Location.none)
      else pure ""
    pure (ofText (word ++ "(" ++ expr ++ manner ++ ")"))

/-- What follows `POSITION`, told apart from a call by `IN`. -/
def positionExpr (name : String) : Parser Expr := do
  let strength := Precedence.between.strength (← Parser.grammar)
  let told ← Parser.optional <| Parser.parenthesized do
    let part ← inner.expr strength
    Parser.expectKeyword "IN"
    pure (ofText ("POSITION(" ++ part.text ++ " IN " ++ (← inner.exprText) ++ ")"))
  match told with
  | some expr => pure expr
  | none => call inner name

/-- What follows `SUBSTRING`. The way the first argument ends decides how all of them
are told apart. -/
def substringExpr : Parser Expr :=
  Parser.parenthesized do
    let text ← inner.exprText
    let hasCommas ← Parser.symbol ","
    let start ←
      if hasCommas then pure (", " ++ (← inner.exprText)) else whenSeen inner "FROM"
    let isBounded ← if ← Parser.keyword "FOR" then pure true else Parser.symbol ","
    let length ←
      if isBounded then pure ((if hasCommas then ", " else " FOR ") ++ (← inner.exprText))
      else pure ""
    pure (ofText ("SUBSTRING(" ++ text ++ start ++ length ++ ")"))

/-- What follows `OVERLAY`. -/
def overlayExpr : Parser Expr :=
  Parser.parenthesized do
    let text ← inner.exprText
    Parser.expectKeyword "PLACING"
    let part ← inner.exprText
    Parser.expectKeyword "FROM"
    let start ← inner.exprText
    let length ← whenSeen inner "FOR"
    pure (ofText ("OVERLAY(" ++ text ++ " PLACING " ++ part ++ " FROM " ++ start ++ length ++ ")"))

/-- Whether the characters to be trimmed may follow a comma. -/
def trimsListedCharacters : Grammar → Bool
  | .snowflake | .bigQuery | .generic => true
  | _ => false

/-- What follows `TRIM`. A list of characters takes the place of a side; a comma where
no such list may follow is passed over. -/
def trimExpr : Parser Expr := do
  let hasList := trimsListedCharacters (← Parser.grammar)
  Parser.parenthesized do
    let side := (← Parser.oneOf ["BOTH", "LEADING", "TRAILING"]).elim "" (· ++ " ")
    let expr ← inner.exprText
    if ← Parser.keyword "FROM" then
      pure (ofText ("TRIM(" ++ side ++ expr ++ " FROM " ++ (← inner.exprText) ++ ")"))
    else if ← Parser.symbol "," then
      if hasList then
        pure (ofText ("TRIM(" ++ commaList (expr :: (← inner.exprTexts)) ++ ")"))
      else pure (ofText ("TRIM(" ++ side ++ expr ++ ")"))
    else pure (ofText ("TRIM(" ++ side ++ expr ++ ")"))

/-- The elements of an array, after the opening bracket. -/
def arrayExpr (word : String) : Parser Expr := do
  let items ← Parser.separatedOrNone inner.exprText "]"
  Parser.expectSymbol "]"
  pure (ofText (word ++ "[" ++ commaList items ++ "]"))

/-- A value of a struct. It has a name of its own only if the fields have no types. -/
def structValue (isTyped : Bool) : Parser String := do
  let expr ← inner.exprText
  let place ← Parser.place
  if ← Parser.keyword "AS" then
    if isTyped then Parser.fail (.refused "Typed syntax does not allow AS" place)
    else pure (expr ++ " AS " ++ (← Identifier.parser).render)
  else pure expr

/-- A struct with its values, after `STRUCT`. -/
def structExpr (start : Location) : Parser Expr := do
  let (fields, leftOver) ← DataType.structFields start
    (DataType.bracketed inner.column (← Parser.fuel))
  if leftOver then
    Parser.refusedHere "unmatched > in STRUCT literal"
  else
    let isTyped := !fields.isEmpty
    let values ← Parser.parenthesized (Parser.separated (structValue inner isTyped))
    let types := if isTyped then "<" ++ commaList (DataType.renderFields fields) ++ ">" else ""
    pure (ofText ("STRUCT" ++ types ++ "(" ++ commaList values ++ ")"))

/-- An entry of a dictionary. -/
def entry (key : Parser String) : Parser String := do
  let key ← key
  Parser.expectSymbol ":"
  pure (key ++ ": " ++ (← inner.exprText))

/-- The entries of a dictionary between braces. -/
def dictionary (key : Parser String) : Parser String := do
  Parser.expectSymbol "\x7b"
  let entries ← Parser.separated (entry inner key)
  Parser.expectSymbol "\x7d"
  pure ("\x7b" ++ commaList entries ++ "\x7d")

/-- How words are searched for. -/
def searchMode : Parser String := do
  let expansion : Parser String := do
    if ← Parser.keywords ["WITH", "QUERY", "EXPANSION"] then pure " WITH QUERY EXPANSION"
    else pure ""
  if ← Parser.keywords ["IN", "NATURAL", "LANGUAGE", "MODE"] then
    pure (" IN NATURAL LANGUAGE MODE" ++ (← expansion))
  else if ← Parser.keywords ["IN", "BOOLEAN", "MODE"] then pure " IN BOOLEAN MODE"
  else expansion

/-- What follows `MATCH` in a search for words. -/
def matchExpr : Parser Expr := do
  let columns ← Identifier.requiredColumns
  Parser.expectKeyword "AGAINST"
  Parser.parenthesized do
    let text ← value
    let mode ← searchMode
    pure (ofText ("MATCH (" ++ Identifier.renderAll columns ++ ") AGAINST (" ++ text.text ++ mode ++
      ")"))

/-- A query in parentheses after `EXISTS`. -/
def existsExpr (negation : String) : Parser Expr := do
  let query ← Parser.parenthesized inner.query
  pure (ofText (negation ++ "EXISTS (" ++ query ++ ")"))

/-- What follows `NOT`. -/
def notExpr : Parser Expr := do
  if ← Parser.keyword "EXISTS" then existsExpr inner "NOT "
  else
    let expr ← inner.expr (Precedence.unaryNot.strength (← Parser.grammar))
    pure (ofText ("NOT " ++ expr.text))

/-- A function of the time, called with arguments or without parentheses. -/
def timeFunction (name : String) : Parser Expr := do
  if ← Parser.symbol "(" then pure (ofText (name ++ "(" ++ (← arguments inner).text ++ ")"))
  else pure (ofText name)

end TableCatalog.Expr
