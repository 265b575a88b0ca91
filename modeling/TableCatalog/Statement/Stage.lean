import TableCatalog.Statement.Removal

/-!
# Statements about stages

A stage is a place for files in Snowflake's grammar. Its name may be written as a path,
in which gaps matter. Stages are defined, listed and emptied, and rows are copied from
them; all of it is read for its canonical spelling.
-/

namespace TableCatalog.Statement.Stage

/-- A part of the path of a stage, in at most `fuel` tokens. It ends at a period, which
is left alone, or at a gap; `first` tells that no gap can stand before the part. -/
def pathPart : Nat → Bool → Parser String
  | 0, _ => pure ""
  | fuel + 1, first => do
    let gap ← Parser.hasGap
    let token ← Parser.peekOfText 0
    if !first && gap then pure ""
    else
      match token with
      | none | some ⟨⟨.symbol ".", _, _⟩, _⟩ => pure ""
      | some ⟨⟨.word word, _, _⟩, _⟩ =>
        Parser.advance
        pure (word.text ++ (← pathPart fuel false))
      | some ⟨⟨.symbol mark, _, _⟩, _⟩ =>
        Parser.advance
        if ["@", "~", "%", "/"].contains mark then pure (mark ++ (← pathPart fuel false))
        else Parser.expected "stage name identifier"
      | some _ =>
        Parser.advance
        Parser.expected "stage name identifier"

/-- The path of a stage, in at most `fuel` parts. -/
def path : Nat → Bool → Parser (List String)
  | 0, _ => pure []
  | fuel + 1, first => do
    let part ← pathPart (← Parser.fuel) first
    if ← Parser.symbol "." then
      let rest ← path fuel false
      pure (part :: rest)
    else pure [part]

/-- The name of a stage: a path if it begins with an at sign, and else a plain name. -/
def name : Parser String := do
  if ← Parser.seesSymbol "@" then pure (".".intercalate (← path (← Parser.fuel) true))
  else pure (← ObjectName.parser).render

/-- A text constant after an equals sign; a fault is laid to the token after it. -/
def textAfterEquals (what : String) : Parser String := do
  Parser.expectSymbol "="
  match ← Parser.next with
  | some ⟨⟨.string .single text, _, _⟩, _⟩ => pure text
  | _ => Parser.expected what

/-- The next token after an equals sign, whatever it is. -/
def tokenAfterEquals : Parser String := do
  Parser.expectSymbol "="
  pure ((← Parser.nextOfText).elim "EOF" fun found => found.placed.token.render)

/-- The value of an option. -/
def optionValue : Parser String := do
  match ← Parser.oneOf ["TRUE", "FALSE"] with
  | some word => pure word
  | none =>
    match ← Parser.next with
    | some ⟨⟨.string .single text, _, _⟩, _⟩ => pure ("'" ++ text ++ "'")
    | some ⟨⟨.word word, _, _⟩, _⟩ => pure word.text
    | _ => Parser.expected "expected option value"

/-- Options up to the closing parenthesis, at most `fuel` of them. -/
def optionsOf : Nat → Parser (List String)
  | 0 => pure []
  | fuel + 1 => do
    match ← Parser.next with
    | some ⟨⟨.closeParen, _, _⟩, _⟩ => pure []
    | some ⟨⟨.word key, _, _⟩, _⟩ =>
      Parser.expectSymbol "="
      let value ← optionValue
      let rest ← optionsOf fuel
      pure ((key.text ++ "=" ++ value) :: rest)
    | _ => Parser.expected "another option or ')'"

/-- Options in parentheses after a keyword and an equals sign, with nothing between two of
them; none are not shown. -/
def options (word : String) : Parser String := do
  if ← Parser.keyword word then
    Parser.expectSymbol "="
    Parser.expectSymbol "("
    let options ← optionsOf (← Parser.fuel)
    pure (if options.isEmpty then "" else " " ++ word ++ "=(" ++ " ".intercalate options ++ ")")
  else pure ""

/-- Where the files of a stage are and how they are reached. -/
def parameters : Parser String := do
  let url ←
    if ← Parser.keyword "URL" then
      pure (" URL='" ++ (← textAfterEquals "a URL statement") ++ "'")
    else pure ""
  let integration ←
    if ← Parser.keyword "STORAGE_INTEGRATION" then
      pure (" STORAGE_INTEGRATION=" ++ (← tokenAfterEquals))
    else pure ""
  let endpoint ←
    if ← Parser.keyword "ENDPOINT" then
      pure (" ENDPOINT='" ++ (← textAfterEquals "an endpoint statement") ++ "'")
    else pure ""
  let credentials ← options "CREDENTIALS"
  let encryption ← options "ENCRYPTION"
  pure (url ++ integration ++ endpoint ++ credentials ++ encryption)

/-- The definition of a stage after its keyword; `head` is what stands before it. -/
def definition (head : String) : Parser String := do
  let guarded ← ifNotExists
  let name ← ObjectName.parser
  let parameters ← parameters
  let directory ← options "DIRECTORY"
  let format ← options "FILE_FORMAT"
  let copying ← options "COPY_OPTIONS"
  let comment ←
    if ← Parser.keyword "COMMENT" then
      pure (" COMMENT='" ++ (← textAfterEquals "a comment statement") ++ "'")
    else pure ""
  pure (head ++ "STAGE " ++ guarded ++ name.render ++ parameters ++ directory ++ format ++
    copying ++ comment)

/-- A list of the files of a stage or their removal, after a keyword that is shown as
`word`. -/
def files (word : String) : Parser String := do
  let name ← name
  let pattern ←
    if ← Parser.keyword "PATTERN" then
      Parser.expectSymbol "="
      pure (" PATTERN='" ++ (← Literal.text) ++ "'")
    else pure ""
  pure (word ++ " " ++ name ++ pattern)

/-- The number of a column of a file, from the placeholder that stands for it. -/
def columnNumber (placeholder : String) : Parser String := do
  let digits := placeholder.toList.drop 1
  let refuse (reason : String) : Parser String :=
    let text := "Could not parse '" ++ placeholder ++ "' as i32: " ++ reason
    Parser.fail (.refused text Location.none)
  if digits.isEmpty then refuse "cannot parse integer from empty string"
  else
    match Literal.readBelow 2147483648 0 digits with
    | .ok number => pure ("$" ++ toString number)
    | .error fault => refuse fault.message

/-- A word that names something, without its quotes. -/
def nameAfterAs (what : String) : Parser String := do
  if ← Parser.keyword "AS" then
    match ← Parser.next with
    | some ⟨⟨.word word, _, _⟩, _⟩ => pure (" AS " ++ word.text)
    | _ => Parser.expected what
  else pure ""

/-- An item that is selected from files: a column by its number, of a stage that may be
named, and an element of the column. -/
def item : Parser String := do
  let token ← Parser.next
  let column ←
    match token with
    | some ⟨⟨.placeholder text, _, _⟩, _⟩ => columnNumber text
    | some ⟨⟨.word word, _, _⟩, _⟩ =>
      Parser.expectSymbol "."
      let token ← Parser.next
      match token with
      | some ⟨⟨.placeholder text, _, _⟩, _⟩ => pure (word.text ++ "." ++ (← columnNumber text))
      | _ => Parser.expectedAt "file_col_num" token
    | _ => Parser.expectedAt "alias or file_col_num" token
  let element ←
    if ← Parser.symbol ":" then
      match ← Parser.next with
      | some ⟨⟨.word word, _, _⟩, _⟩ => pure (":" ++ word.text)
      | _ => Parser.expected "file_col_num"
    else pure ""
  pure (column ++ element ++ (← nameAfterAs "column item alias"))

/-- A stage that rows are copied from. -/
def source : Parser String := do
  let name ← name
  let parameters ← parameters
  pure (name ++ parameters ++ (← nameAfterAs "stage alias"))

/-- A text constant that names a file. -/
def fileName : Parser String := do
  let token ← Parser.next
  match token with
  | some ⟨⟨.string .single text, _, _⟩, _⟩ => pure text
  | _ => Parser.expectedAt "file token" token

/-- A copy of rows from a stage, after its keywords. -/
def copying : Parser String := do
  let target ← name
  Parser.expectKeyword "FROM"
  let origin ←
    if ← Parser.symbol "(" then
      Parser.expectKeyword "SELECT"
      let items ← Parser.separatedBy none item
      Parser.expectKeyword "FROM"
      let source ← source
      Parser.expectSymbol ")"
      pure ("(SELECT " ++ commaList items ++ " FROM " ++ source ++ ")")
    else source
  let files ←
    if ← Parser.keyword "FILES" then
      Parser.expectSymbol "="
      let names ← Parser.parenthesized (Parser.separatedBy none fileName)
      pure (" FILES = ('" ++ "', '".intercalate names ++ "')")
    else pure ""
  let pattern ←
    if ← Parser.keyword "PATTERN" then
      Parser.expectSymbol "="
      let token ← Parser.next
      match token with
      | some ⟨⟨.string .single text, _, _⟩, _⟩ => pure (" PATTERN = '" ++ text ++ "'")
      | _ => Parser.expectedAt "pattern" token
    else pure ""
  let format ← options "FILE_FORMAT"
  let copying ← options "COPY_OPTIONS"
  let mode ←
    if ← Parser.keyword "VALIDATION_MODE" then
      pure (" VALIDATION_MODE = " ++ (← tokenAfterEquals))
    else pure ""
  pure ("COPY INTO " ++ target ++ " FROM " ++ origin ++ files ++ pattern ++ format ++ copying ++
    mode)

end TableCatalog.Statement.Stage
