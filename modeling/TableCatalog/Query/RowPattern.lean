import TableCatalog.Expr.Parser

/-!
# Patterns of rows

Rows of a table may be searched for a pattern, which is written like a regular
expression over symbols. What a symbol stands for is defined after the pattern.
-/

namespace TableCatalog.Query

variable (inner : Phrases)

/-- The number that digits write, its faults being told at `place`. -/
def repetitionCount (digits : String) (place : Location) : Parser String :=
  match Literal.readBelow UInt32.size 0 digits.toList with
  | .ok count => pure (toString count)
  | .error fault => Parser.fail (.badNumber digits "u32" fault.message place)

/-- The bounds of a repetition, after the opening brace and through the closing one. -/
def repetitionRange : Parser String := do
  let close := Parser.expectSymbol "\x7d"
  let braced (text : String) : String := "\x7b" ++ text ++ "\x7d"
  let first ← Parser.next
  match first with
  | some ⟨⟨.symbol ",", place, _⟩, _⟩ =>
    let last ← Parser.next
    match last with
    | some ⟨⟨.number most _, _, _⟩, _⟩ =>
      close
      pure (braced ("," ++ (← repetitionCount most place)))
    | _ => Parser.expectedAt "literal number" last
  | some ⟨⟨.number least _, place, _⟩, _⟩ =>
    if ← Parser.symbol "," then
      let last ← Parser.next
      match last with
      | some ⟨⟨.number most _, _, _⟩, _⟩ =>
        close
        let least ← repetitionCount least place
        pure (braced (least ++ "," ++ (← repetitionCount most place)))
      | some ⟨⟨.symbol "\x7d", _, _⟩, _⟩ =>
        pure (braced ((← repetitionCount least place) ++ ","))
      | _ => Parser.expectedAt "\x7d or upper bound" last
    else
      close
      pure (braced (← repetitionCount least place))
  | _ => Parser.expectedAt "quantifier range" first

/-- How often a part of a pattern is repeated, if it is. -/
def repetition? : Parser (Option String) := do
  match ← Parser.peek with
  | some ⟨⟨.symbol "*", _, _⟩, _⟩ =>
    Parser.advance
    pure (some "*")
  | some ⟨⟨.symbol "+", _, _⟩, _⟩ =>
    Parser.advance
    pure (some "+")
  | some ⟨⟨.placeholder "?", _, _⟩, _⟩ =>
    Parser.advance
    pure (some "?")
  | some ⟨⟨.symbol "\x7b", _, _⟩, _⟩ =>
    Parser.advance
    pure (some (← repetitionRange))
  | _ => pure none

/-- A part of a pattern that is not repeated; `pattern` reads what stands in
parentheses. -/
def patternPart (pattern : Parser String) : Parser String := do
  let symbol : Parser String := do pure (← Identifier.parser).render
  match ← Parser.peek with
  | some ⟨⟨.symbol "^", _, _⟩, _⟩ =>
    Parser.advance
    pure "^"
  | some ⟨⟨.placeholder "$", _, _⟩, _⟩ =>
    Parser.advance
    pure "$"
  | some ⟨⟨.symbol "\x7b", _, _⟩, _⟩ =>
    Parser.advance
    Parser.expectSymbol "-"
    let name ← symbol
    Parser.expectSymbol "-"
    Parser.expectSymbol "\x7d"
    pure ("\x7b- " ++ name ++ " -\x7d")
  | some ⟨⟨.word ⟨"PERMUTE", none⟩, _, _⟩, _⟩ =>
    Parser.advance
    pure ("PERMUTE(" ++ commaList (← Parser.parenthesized (Parser.separated symbol)) ++ ")")
  | some ⟨⟨.symbol "(", _, _⟩, _⟩ => pure ("( " ++ (← Parser.parenthesized pattern) ++ " )")
  | _ => symbol

/-- A part of a pattern with its repetitions. -/
def repeatedPart (pattern : Parser String) : Parser String := do
  let part ← patternPart pattern
  pure (part ++ String.join (← Parser.many repetition?))

/-- Parts of a pattern one after another, at most `fuel` of them. -/
def patternParts (pattern : Parser String) : Nat → Parser (List String)
  | 0 => pure []
  | fuel + 1 => do
    let part ← repeatedPart pattern
    if ← Parser.seesSymbol ")" then pure [part]
    else if ← Parser.seesSymbol "|" then pure [part]
    else
      let rest ← patternParts pattern fuel
      pure (part :: rest)

/-- A choice between patterns, of at most `fuel` choices and levels of parentheses. -/
def rowPatternOf : Nat → Parser String
  | 0 => Parser.fail .nestedTooDeeply
  | fuel + 1 => do
    let pattern : Parser String := rowPatternOf fuel
    let parts ← patternParts pattern (← Parser.fuel)
    let first := " ".intercalate parts
    if ← Parser.symbol "|" then pure (first ++ " | " ++ (← pattern)) else pure first

/-- A pattern of rows. -/
def rowPattern : Parser String := do
  rowPatternOf (← Parser.fuel)

/-- Which rows of a match are given. -/
def rowsPerMatch : Parser String := do
  if ← Parser.keywords ["ONE", "ROW", "PER", "MATCH"] then pure "ONE ROW PER MATCH "
  else if ← Parser.keywords ["ALL", "ROWS", "PER", "MATCH"] then
    let mode ←
      if ← Parser.keywords ["SHOW", "EMPTY", "MATCHES"] then pure " SHOW EMPTY MATCHES"
      else if ← Parser.keywords ["OMIT", "EMPTY", "MATCHES"] then pure " OMIT EMPTY MATCHES"
      else if ← Parser.keywords ["WITH", "UNMATCHED", "ROWS"] then pure " WITH UNMATCHED ROWS"
      else pure ""
    pure ("ALL ROWS PER MATCH" ++ mode ++ " ")
  else pure ""

/-- Where the search goes on after a match. The next row is told with a blank more. -/
def afterMatch : Parser String := do
  if ← Parser.keywords ["AFTER", "MATCH", "SKIP"] then
    let place ←
      if ← Parser.keywords ["PAST", "LAST", "ROW"] then pure "PAST LAST ROW"
      else if ← Parser.keywords ["TO", "NEXT", "ROW"] then pure " TO NEXT ROW"
      else if ← Parser.keywords ["TO", "FIRST"] then
        pure ("TO FIRST " ++ (← Identifier.parser).render)
      else if ← Parser.keywords ["TO", "LAST"] then
        pure ("TO LAST " ++ (← Identifier.parser).render)
      else Parser.expectedAt "after match skip option" (← Parser.next)
    pure ("AFTER MATCH SKIP " ++ place ++ " ")
  else pure ""

/-- A value that a match gives, with its name. -/
def measure : Parser String := do
  let expr ← inner.exprText
  let _ ← Parser.keyword "AS"
  pure (expr ++ " AS " ++ (← Identifier.parser).render)

/-- What a symbol of a pattern stands for. -/
def symbolDefinition : Parser String := do
  let symbol ← Identifier.parser
  Parser.expectKeyword "AS"
  pure (symbol.render ++ " AS " ++ (← inner.exprText))

/-- A clause of a search, with a blank after it. -/
def searchClause (words : List String) (item : Parser String) : Parser String := do
  if ← Parser.keywords words then
    pure (" ".intercalate words ++ " " ++ commaList (← Parser.separated item) ++ " ")
  else pure ""

/-- What stands in the parentheses of a search for a pattern. -/
def rowSearch : Parser String := do
  let partition ← searchClause ["PARTITION", "BY"] inner.exprText
  let order ← searchClause ["ORDER", "BY"] (Expr.sortKey inner)
  let measures ← searchClause ["MEASURES"] (measure inner)
  let rows ← rowsPerMatch
  let next ← afterMatch
  Parser.expectKeyword "PATTERN"
  let pattern ← Parser.parenthesized rowPattern
  Parser.expectKeyword "DEFINE"
  let symbols ← Parser.separated (symbolDefinition inner)
  pure (partition ++ order ++ measures ++ rows ++ next ++ "PATTERN (" ++ pattern ++ ") DEFINE " ++
    commaList symbols)

end TableCatalog.Query
