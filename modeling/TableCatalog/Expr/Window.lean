import TableCatalog.Expr.Temporal

/-!
# Order and windows

How a list of rows is sorted, and which of the rows around one a function sees.
-/

namespace TableCatalog.Expr

variable (inner : Phrases)

/-- What fills the holes in a sorted list. -/
def fill : Parser String := do
  let first ← Parser.clause ["FROM"] inner.exprText
  let last ← Parser.clause ["TO"] inner.exprText
  let step ← Parser.clause ["STEP"] inner.exprText
  pure (" WITH FILL" ++ first ++ last ++ step)

/-- How a list is sorted by one expression. -/
def sortKey : Parser String := do
  let grammar ← Parser.grammar
  let expr ← inner.exprText
  let direction ← Parser.oneOf ["ASC", "DESC"]
  let nulls ←
    if ← Parser.keywords ["NULLS", "FIRST"] then pure " NULLS FIRST"
    else if ← Parser.keywords ["NULLS", "LAST"] then pure " NULLS LAST"
    else pure ""
  let filled ←
    if ← Parser.onlyIf (grammar == .clickHouse || grammar == .generic)
        (Parser.keywords ["WITH", "FILL"]) then fill inner
    else pure ""
  pure (expr ++ afterBlank direction ++ nulls ++ filled)

/-- How a list is sorted. -/
def sortKeys : Parser String := do
  pure (commaList (← Parser.separated (sortKey inner)))

/-- An end of a window frame. A text is the amount of a duration. -/
def frameBound : Parser String := do
  if ← Parser.keywords ["CURRENT", "ROW"] then pure "CURRENT ROW"
  else
    let rows ←
      if ← Parser.keyword "UNBOUNDED" then pure "UNBOUNDED"
      else
        match ← Parser.peek with
        | some ⟨⟨.string .single _, _, _⟩, _⟩ => pure (← duration inner).text
        | _ => inner.exprText
    match ← Parser.oneOf ["PRECEDING", "FOLLOWING"] with
    | some side => pure (rows ++ " " ++ side)
    | none => Parser.expected "PRECEDING or FOLLOWING"

/-- The frame of a window. -/
def windowFrame : Parser String := do
  match ← Parser.oneOf ["ROWS", "RANGE", "GROUPS"] with
  | none => Parser.expected "ROWS, RANGE, GROUPS"
  | some unit =>
    if ← Parser.keyword "BETWEEN" then
      let first ← frameBound inner
      Parser.expectKeyword "AND"
      let last ← frameBound inner
      pure (unit ++ " BETWEEN " ++ first ++ " AND " ++ last)
    else pure (unit ++ " " ++ (← frameBound inner))

/-- A window, after its opening parenthesis and through the closing one. -/
def window : Parser String := do
  let named ←
    match ← Parser.peek with
    | some ⟨⟨.word word, _, _⟩, key⟩ =>
      if word.quote.isSome || !Keyword.isKeyword key then
        pure [(← Identifier.parser).render]
      else pure []
    | _ => pure []
  let partition ←
    if ← Parser.keywords ["PARTITION", "BY"] then
      pure ["PARTITION BY " ++ commaList (← inner.exprTexts)]
    else pure []
  let order ←
    if ← Parser.keywords ["ORDER", "BY"] then pure ["ORDER BY " ++ (← sortKeys inner)]
    else pure []
  let frame ←
    if ← Parser.seesSymbol ")" then pure [] else pure [← windowFrame inner]
  Parser.expectSymbol ")"
  pure (" ".intercalate (named ++ partition ++ order ++ frame))

end TableCatalog.Expr
