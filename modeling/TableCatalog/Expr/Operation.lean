import TableCatalog.Expr.Operand

/-!
# Operators after an operand

Comparisons and sums, conditions such as `IS`, `IN` and `LIKE`, conversions, subscripts
and paths. An operator of a known strength that the grammar does not have is told by
the name of its token.
-/

namespace TableCatalog.Expr

variable (inner : Phrases)

/-- The operators between two operands that are symbols. -/
def binaryOperator? (grammar : Grammar) (text : String) : Option String :=
  let whenIn (grammars : List Grammar) : Option String :=
    if grammars.contains grammar then some text else none
  match text with
  | "==" => some "="
  | "<=>" | "=" | "<>" | ">" | ">=" | "<" | "<=" | "+" | "-" | "*" | "%" | "||" | "|" | "^" | "&"
  | "/" | "~" | "~*" | "!~" | "!~*" | "~~" | "~~*" | "!~~" | "!~~*" | "->" | "->>" | "#>" | "#>>"
  | "@>" | "<@" | "#-" | "@?" | "@@" | "?" | "?&" | "?|" => some text
  | "//" => whenIn [.duckDb, .generic]
  | "<<" | ">>" => whenIn [.postgres, .duckDb, .generic, .redshift]
  | "#" => whenIn [.postgres]
  | "&&" => whenIn [.postgres, .redshift, .generic]
  | "^@" => whenIn [.postgres, .generic]
  | "!" | "::" | "[" | ":" => none
  | _ => if Precedence.isFreeOperator grammar text then some text else none

/-- The name of the token of an operator that its grammar does not have. -/
def tokenName (text : String) : String :=
  match text with
  | "//" => "DuckIntDiv"
  | "<<" => "ShiftLeft"
  | ">>" => "ShiftRight"
  | "#" => "Sharp"
  | "&&" => "Overlap"
  | "^@" => "CaretAt"
  | "!" => "ExclamationMark"
  | _ => text

/-- A failure at an operator that its grammar does not have. -/
def noOperator {α : Type} (name : String) (place : Location) : Parser α :=
  Parser.fail (.refused ("No infix parser for token " ++ name) place)

/-- An operator that is known by its name, after `OPERATOR`. -/
def namedOperator : Parser String := do
  let rec parts : Nat → Parser (List String)
    | 0 => pure []
    | fuel + 1 => do
      let part := (← Parser.nextOfText).elim "EOF" (·.placed.token.render)
      if ← Parser.symbol "." then
        let rest ← parts fuel
        pure (part :: rest)
      else pure [part]
  Parser.parenthesized do
    pure ("OPERATOR(" ++ ".".intercalate (← parts (← Parser.fuel)) ++ ")")

/-- The operators that compare with all or any of several values. -/
def isComparison (text : String) : Bool :=
  [">", "<", ">=", "<=", "=", "<>"].contains text

/-- A comparison with all or any of several values, after the word that tells which. -/
def quantified (left : Expr) (operator word : String) (place : Location) (strength : Nat) :
    Parser Expr := do
  Parser.expectSymbol "("
  let right ←
    if ← Phrases.seesQuery then
      Parser.retreat
      inner.expr strength
    else
      let right ← inner.expr strength
      Parser.expectSymbol ")"
      pure right
  if isComparison operator then
    let right := if right.shape == .query then right.text else "(" ++ right.text ++ ")"
    pure (ofText (left.text ++ " " ++ operator ++ " " ++ word ++ right))
  else
    Parser.fail (.refused
      ("Expected one of [=, >, <, =>, =<, !=] as comparison operator, found: " ++ operator) place)

/-- What follows an operator between two operands. -/
def binary (left : Expr) (operator : String) (place : Location) (strength : Nat) :
    Parser Expr := do
  match ← Parser.oneOf ["ANY", "ALL", "SOME"] with
  | some word => quantified inner left operator word place strength
  | none =>
    let right ← inner.expr strength
    let text := left.text ++ " " ++ operator ++ " " ++ right.text
    match left.shape with
    | .name name => pure ⟨text, if operator == "=" then .equation name right.text else .other⟩
    | _ => pure (ofText text)

/-- What follows `IS`. If it is none of the forms, the words that might begin one have
been read. -/
def isExpr (left : Expr) : Parser Expr := do
  let isA (negation form : String) : Expr := ofText (left.text ++ " IS " ++ negation ++ form)
  let negation := if ← Parser.keyword "NOT" then "NOT " else ""
  match ← Parser.oneOf ["NULL", "TRUE", "FALSE", "UNKNOWN"] with
  | some word => pure (isA negation word)
  | none =>
    if ← Parser.keywords ["DISTINCT", "FROM"] then
      pure (isA negation ("DISTINCT FROM " ++ (← inner.exprText)))
    else
      let form := (← Parser.oneOf ["NFC", "NFD", "NFKC", "NFKD"]).elim "" (· ++ " ")
      if ← Parser.keyword "NORMALIZED" then pure (isA negation (form ++ "NORMALIZED"))
      else Parser.expected "[NOT] NULL | TRUE | FALSE | DISTINCT | [form] NORMALIZED FROM after IS"

/-- What follows `IN`. -/
def inExpr (left : Expr) (negation : String) : Parser Expr := do
  let isIn (set : String) : Expr := ofText (left.text ++ negation ++ " IN " ++ set)
  if ← Parser.keyword "UNNEST" then
    pure (isIn ("UNNEST(" ++ (← Parser.parenthesized inner.exprText) ++ ")"))
  else
    let mayBeEmpty := (← Parser.grammar) == .sqlite
    Parser.parenthesized do
      if ← Phrases.seesQuery then pure (isIn ("(" ++ (← inner.query) ++ ")"))
      else
        let items ←
          if mayBeEmpty then Parser.separatedOrNone inner.exprText ")" else inner.exprTexts
        pure (isIn ("(" ++ commaList items ++ ")"))

/-- The character that `ESCAPE` names. -/
def escapeClause : Parser String :=
  Parser.clause ["ESCAPE"] do pure ("'" ++ (← Literal.text) ++ "'")

/-- The conditions that words such as `IN` and `LIKE` make, the first of them next. -/
def condition (left : Expr) : Parser Expr := do
  let grammar ← Parser.grammar
  let negation := if ← Parser.keyword "NOT" then " NOT" else ""
  let head := left.text ++ negation
  let pattern : Parser String := do
    pure (" " ++ (← inner.expr (Precedence.like.strength grammar)).text)
  match ← Parser.oneOf ["REGEXP", "RLIKE", "IN", "BETWEEN", "LIKE", "ILIKE"] with
  | some "IN" => inExpr inner left negation
  | some "BETWEEN" =>
    let between := Precedence.between.strength grammar
    let low ← inner.expr between
    Parser.expectKeyword "AND"
    let high ← inner.expr between
    pure (ofText (head ++ " BETWEEN " ++ low.text ++ " AND " ++ high.text))
  | some word =>
    if word == "LIKE" || word == "ILIKE" then
      let any := if ← Parser.keyword "ANY" then " ANY" else ""
      let pattern ← pattern
      pure (ofText (head ++ " " ++ word ++ any ++ pattern ++ (← escapeClause)))
    else pure (ofText (head ++ " " ++ word ++ (← pattern)))
  | none =>
    if ← Parser.keywords ["SIMILAR", "TO"] then
      let pattern ← pattern
      pure (ofText (head ++ " SIMILAR TO" ++ pattern ++ (← escapeClause)))
    else Parser.expected "IN or BETWEEN after NOT"

/-- What follows an operator that is a symbol between no two operands. -/
def afterSymbol (left : Expr) (text : String) (place : Location) : Parser Expr := do
  let grammar ← Parser.grammar
  match text with
  | "::" => pure (ofText (left.text ++ "::" ++ (← DataType.parserOf inner.column).render))
  | "!" =>
    if grammar == .postgres then pure (ofText (left.text ++ "!"))
    else noOperator (tokenName text) place
  | "[" =>
    Parser.retreat
    if hasSubscripts grammar then
      let brackets ← subscripts inner
      accesses inner (left.text ++ brackets) false
    else if hasPaths grammar then pure (ofText (left.text ++ (← path inner)))
    else Parser.fail (.refused "Array subscripting is not supported" place)
  | ":" =>
    Parser.retreat
    pure (ofText (left.text ++ (← path inner)))
  | _ => noOperator (tokenName text) place

/-- What follows an operator that is a word. -/
def afterWord (left : Expr) (word : Word) (key : String) (place : Location) (strength : Nat) :
    Parser Expr := do
  let unknown : Parser Expr :=
    noOperator ("Word(Word \x7b value: \"" ++ word.text ++ "\", quote_style: None, keyword: " ++
      key ++ " \x7d)") place
  match key with
  | "AND" | "OR" | "XOR" | "OVERLAPS" => binary inner left key place strength
  | "OPERATOR" =>
    let grammar ← Parser.grammar
    if grammar == .postgres || grammar == .generic then
      binary inner left (← namedOperator) place strength
    else unknown
  | "IS" => isExpr inner left
  | "AT" =>
    Parser.expectKeywords ["TIME", "ZONE"]
    pure (ofText (left.text ++ " AT TIME ZONE " ++ (← inner.expr strength).text))
  | "NOT" | "IN" | "BETWEEN" | "LIKE" | "ILIKE" | "SIMILAR" | "REGEXP" | "RLIKE" =>
    Parser.retreat
    condition inner left
  | _ => unknown

/-- An operator after an operand, and what follows it. -/
def operation (left : Expr) (strength : Nat) : Parser Expr := do
  let grammar ← Parser.grammar
  if ← Parser.onlyIf (grammar == .mysql) (Parser.keyword "DIV") then
    pure (ofText (left.text ++ " DIV " ++ (← inner.exprText)))
  else
    match ← Parser.next with
    | some ⟨⟨.symbol text, place, _⟩, _⟩ =>
      match binaryOperator? grammar text with
      | some operator => binary inner left operator place strength
      | none => afterSymbol inner left text place
    | some ⟨⟨.word word, place, _⟩, key⟩ => afterWord inner left word key place strength
    | _ => pure left

/-- The operators after an operand that bind more strongly than a bound, at most `fuel`
of them. A dot belongs to no operator. -/
def operations (bound : Nat) : Nat → Expr → Parser Expr
  | 0, expr => pure expr
  | fuel + 1, expr => do
    let strength ← Precedence.next
    if bound ≥ strength then pure expr
    else if ← Parser.seesSymbol "." then pure expr
    else
      let expr ← operation inner expr strength
      operations bound fuel expr

end TableCatalog.Expr
