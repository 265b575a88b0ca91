import TableCatalog.Statement.Removal

/-!
# Copies between tables and files

A copy names a table or a query, a file or a stream, and options in one of two styles.
Rows that are copied from the script itself follow the statement as lines of values.
-/

namespace TableCatalog.Statement.Copy

variable (inner : Phrases)

/-- A character as a quoted text shows it. -/
def debugChar (c : Char) : String :=
  match c with
  | '"' => "\\\""
  | '\\' => "\\\\"
  | '\n' => "\\n"
  | '\r' => "\\r"
  | '\t' => "\\t"
  | '\x00' => "\\0"
  | _ =>
    if c.toNat < 0x20 || c.toNat == 0x7F then
      "\\u\x7b" ++ String.ofList (Nat.toDigits 16 c.toNat) ++ "\x7d"
    else c.toString

/-- A text constant of a single character, told by its length in bytes. -/
def character : Parser String := do
  let place ← Parser.place
  let text ← Literal.text
  if text.utf8ByteSize == 1 then pure text
  else
    let shown := "\"" ++ String.join (text.toList.map debugChar) ++ "\""
    Parser.fail (.refused ("Expect a char, found " ++ shown) place)

/-- A flag that holds unless `FALSE` follows it. -/
def flag (word : String) : Parser String := do
  if (← Parser.oneOf ["TRUE", "FALSE"]) == some "FALSE" then pure (word ++ " FALSE") else pure word

/-- A list of columns in parentheses, which an option requires. -/
def columns (word : String) : Parser String := do
  pure (word ++ " (" ++ Identifier.renderAll (← Identifier.requiredColumns) ++ ")")

/-- An option in parentheses. -/
def option : Parser String := do
  match ← Parser.oneOf ["FORMAT", "FREEZE", "DELIMITER", "NULL", "HEADER", "QUOTE", "ESCAPE",
      "FORCE_QUOTE", "FORCE_NOT_NULL", "FORCE_NULL", "ENCODING"] with
  | some "FORMAT" => pure ("FORMAT " ++ (← Identifier.parser).render)
  | some "FREEZE" => flag "FREEZE"
  | some "HEADER" => flag "HEADER"
  | some "NULL" => pure ("NULL " ++ quoteText (← Literal.text))
  | some "ENCODING" => pure ("ENCODING " ++ quoteText (← Literal.text))
  | some word =>
    if ["DELIMITER", "QUOTE", "ESCAPE"].contains word then
      pure (word ++ " '" ++ (← character) ++ "'")
    else columns word
  | none => Parser.expected "option"

/-- A character after a keyword and an optional `AS`. -/
def markedCharacter (word : String) : Parser String := do
  let _ ← Parser.keyword "AS"
  pure (word ++ " '" ++ (← character) ++ "'")

/-- An option of the older style for files with separated values. -/
def separatedOption : Parser String := do
  let forced (words : String) : Parser String := do
    pure (words ++ " " ++ Identifier.renderAll (← Parser.separated Identifier.parser))
  match ← Parser.oneOf ["HEADER", "QUOTE", "ESCAPE", "FORCE"] with
  | some "HEADER" => pure "HEADER"
  | some "FORCE" =>
    if ← Parser.keywords ["NOT", "NULL"] then forced "FORCE NOT NULL"
    else if ← Parser.keyword "QUOTE" then forced "FORCE QUOTE"
    else Parser.expected "csv option"
  | some word => markedCharacter word
  | none => Parser.expected "csv option"

/-- An option of the older style. -/
def olderOption : Parser String := do
  match ← Parser.oneOf ["BINARY", "DELIMITER", "NULL", "CSV"] with
  | some "BINARY" => pure "BINARY"
  | some "DELIMITER" => markedCharacter "DELIMITER"
  | some "NULL" =>
    let _ ← Parser.keyword "AS"
    pure ("NULL " ++ quoteText (← Literal.text))
  | some _ =>
    let options ← Parser.many (Parser.optional separatedOption)
    pure ("CSV" ++ String.join (options.map (" " ++ ·)))
  | none => Parser.expected "option"

/-- The values that follow a copy: `content` has been read of the next one. A tab and the
end of a line end a value, a backslash and a period end them all, a backslash and `N`
are a missing value; what follows the last end is no value. -/
def valuesOf : Nat → String → Parser (List (Option String))
  | 0, _ => pure []
  | fuel + 1, content => do
    let (ended, content) := (← Parser.gaps).foldl
      (fun (ended, content) gap =>
        match gap with
        | .gap .tab | .gap .newline => (ended ++ [some content], "")
        | token => (ended, content ++ token.render))
      (([] : List (Option String)), content)
    let token ← Parser.nextOfText
    match token with
    | none => pure ended
    | some ⟨⟨.symbol "\\", _, _⟩, _⟩ =>
      if ← Parser.symbol "." then pure ended
      else
        let token ← Parser.nextOfText
        let missing := match token with
          | some ⟨⟨.word word, _, _⟩, _⟩ => if word.text == "N" then [none] else []
          | _ => []
        let rest ← valuesOf fuel content
        pure (ended ++ missing ++ rest)
    | some found =>
      let rest ← valuesOf fuel (content ++ found.placed.token.render)
      pure (ended ++ rest)

/-- The values that follow a copy from the script, after the terminator. -/
def values : Parser String := do
  Parser.expectTerminator
  let values ← valuesOf (← Parser.fuel) ""
  pure (if values.isEmpty then ""
    else ";\n" ++ "\t".intercalate (values.map (·.getD "\\N")) ++ "\n\\.")

/-- A copy, after its keyword. -/
def parser : Parser String := do
  let fromQuery ← Parser.symbol "("
  let source ←
    if fromQuery then
      let query ← inner.query
      Parser.expectSymbol ")"
      pure (" (" ++ query ++ ")")
    else
      let name ← ObjectName.parser
      let columns ← Identifier.optionalColumns
      pure (" " ++ name.render ++
        (if columns.isEmpty then "" else " (" ++ Identifier.renderAll columns ++ ")"))
  match ← Parser.oneOf ["FROM", "TO"] with
  | none => Parser.expected "FROM or TO"
  | some direction =>
    if fromQuery && direction == "FROM" then
      Parser.fail (.refused "COPY ... FROM does not support query as a source" Location.none)
    else
      let target ←
        match ← Parser.oneOf ["STDIN", "STDOUT", "PROGRAM"] with
        | some "PROGRAM" => pure ("PROGRAM " ++ quoteText (← Literal.text))
        | some word => pure word
        | none => pure (quoteText (← Literal.text))
      let _ ← Parser.keyword "WITH"
      let options ←
        if ← Parser.seesSymbol "(" then
          let options ← Parser.parenthesized (Parser.separated option)
          pure (" (" ++ commaList options ++ ")")
        else pure ""
      let older ← Parser.many (Parser.optional olderOption)
      let values ← if target == "STDIN" then values else pure ""
      pure ("COPY" ++ source ++ " " ++ direction ++ " " ++ target ++ options ++
        String.join (older.map (" " ++ ·)) ++ values)

end TableCatalog.Statement.Copy
