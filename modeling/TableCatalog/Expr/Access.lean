import TableCatalog.Expr.Call

/-!
# Parts of values

Dots and square brackets after an operand: fields, elements and slices. A name with
dots alone is one name, which an opening parenthesis makes a call; as soon as brackets
or a call stand in it, it no longer is. Structured data has paths with rules of their
own.
-/

namespace TableCatalog.Expr

variable (inner : Phrases)

/-- What stands in square brackets, the opening one having been read: an index, or the
bounds of a slice and its stride. -/
def subscript : Parser String := do
  let close := Parser.symbol "]"
  let lower ← if ← Parser.symbol ":" then pure none else pure (some (← inner.exprText))
  if ← close then pure ("[" ++ lower.getD ":" ++ "]")
  else
    if lower.isSome then Parser.expectSymbol ":"
    let head := "[" ++ lower.getD "" ++ ":"
    if ← close then pure (head ++ "]")
    else
      let upper ← inner.exprText
      if ← close then pure (head ++ upper ++ "]")
      else
        Parser.expectSymbol ":"
        if ← close then pure (head ++ upper ++ "]")
        else
          let stride ← inner.exprText
          Parser.expectSymbol "]"
          pure (head ++ upper ++ ":" ++ stride ++ "]")

/-- Square brackets one after another. -/
def subscripts : Parser String := do
  let found ← Parser.many do
    if ← Parser.symbol "[" then pure (some (← subscript inner)) else pure none
  pure (String.join found)

/-- Whether a word may be followed by square brackets at once. -/
def hasSubscripts : Grammar → Bool
  | .postgres | .duckDb | .generic | .clickHouse | .bigQuery => true
  | _ => false

/-- Whether square brackets open a path into structured data. -/
def hasPaths : Grammar → Bool
  | .redshift | .snowflake => true
  | _ => false

/-- Whether a plus in parentheses marks the side of a join that may be missing. -/
def marksOuterJoins : Grammar → Bool
  | .snowflake | .sqlServer => true
  | _ => false

/-- The mark of a join's outer side after a name, or a call of a function by it. The
opening parenthesis is next. -/
def markedOrCalled (name : String) : Parser Expr := do
  if ← Parser.onlyIf (marksOuterJoins (← Parser.grammar)) (Parser.symbols ["(", "+", ")"]) then
    pure (ofText (name ++ " (+)"))
  else call inner name

/-- An operand with the parts that have been read after it. -/
structure Chain where
  text : String
  /-- Whether all of it is one name. -/
  isName : Bool
  /-- Whether a star has ended it. -/
  hasStar : Bool

/-- The parts that dots add to an operand, with the square brackets after them, at most
`fuel` of them. -/
def links : Nat → Chain → Parser Chain
  | 0, chain => pure chain
  | fuel + 1, chain => do
    let grammar ← Parser.grammar
    if ← Parser.symbol "." then
      let token ← Parser.next
      match token with
      | some ⟨⟨.word word, _, past⟩, _⟩ =>
        let text := chain.text ++ "." ++ (word.toIdentifier past).render
        if ← Parser.seesSymbol "[" then
          if hasPaths grammar then pure { chain with text }
          else
            let brackets ← subscripts inner
            links fuel { chain with text := text ++ brackets, isName := false }
        else links fuel { chain with text }
      | some ⟨⟨.symbol "*", _, _⟩, _⟩ =>
        if grammar == .postgres then
          pure { chain with text := chain.text ++ ".*", hasStar := true }
        else Parser.expectedAt "an identifier after '.'" token
      | some ⟨⟨.string .single text, _, _⟩, _⟩ =>
        links fuel { chain with text := chain.text ++ "." ++ quoteText text }
      | _ => Parser.expectedAt "an identifier or a '*' after '.'" token
    else pure chain

/-- The parts of an operand, and the call that its name may begin. -/
def accesses (root : String) (isName : Bool) : Parser Expr := do
  let what := "an identifier or a '*' after '.'"
  let chain ← links inner (← Parser.fuel) ⟨root, isName, false⟩
  if chain.hasStar then
    if chain.isName then pure (ofText chain.text) else Parser.expected what
  else if ← Parser.seesSymbol "(" then
    if chain.isName then markedOrCalled inner chain.text
    else
      Parser.advance
      Parser.expected what
  else pure (ofText chain.text)

/-- A key in a path. -/
def pathKey : Parser String := do
  let token ← Parser.next
  match token with
  | some ⟨⟨.word ⟨text, none⟩, _, _⟩, _⟩ => pure text
  | some ⟨⟨.word ⟨text, some '"'⟩, _, _⟩, _⟩
  | some ⟨⟨.string .double text, _, _⟩, _⟩ => pure (Literal.quoteDouble text)
  | _ => Parser.expectedAt "variant object key name" token

/-- The steps of a path into structured data, at most `fuel` of them. A key follows a
colon at the beginning and a dot later on. -/
def pathSteps : Nat → Bool → Parser (List String)
  | 0, _ => pure []
  | fuel + 1, isFirst => do
    let mark := if isFirst then ":" else "."
    if ← Parser.symbol mark then
      let key ← pathKey
      let rest ← pathSteps fuel false
      pure ((mark ++ key) :: rest)
    else if ← Parser.symbol "[" then
      let index ← inner.exprText
      Parser.expectSymbol "]"
      let rest ← pathSteps fuel false
      pure (("[" ++ index ++ "]") :: rest)
    else pure []

/-- A path into structured data. -/
def path : Parser String := do
  pure (String.join (← pathSteps inner (← Parser.fuel) true))

end TableCatalog.Expr
