import TableCatalog.DataType
import TableCatalog.Literal
import TableCatalog.Name.Parser

/-!
# Reading data types

A type may end in the first half of `>>`; the second half then closes the type around
it. Each reader therefore gives a type together with the question whether a closing
angle bracket is left over.
-/

namespace TableCatalog.DataType

/-- A type, and whether a closing angle bracket was read beyond its own. -/
abbrev Bracketed := DataType × Bool

/-- Types without arguments, by the keyword that names them. -/
def plainTypes : List (String × String) :=
  [("BOOLEAN", "BOOLEAN"), ("BOOL", "BOOL"), ("REAL", "REAL"), ("FLOAT4", "FLOAT4"),
    ("FLOAT32", "Float32"), ("FLOAT64", "FLOAT64"), ("FLOAT8", "FLOAT8"), ("INT16", "Int16"),
    ("INT32", "Int32"), ("INT64", "INT64"), ("INT128", "Int128"), ("INT256", "Int256"),
    ("UINT8", "UInt8"), ("UINT16", "UInt16"), ("UINT32", "UInt32"), ("UINT64", "UInt64"),
    ("UINT128", "UInt128"), ("UINT256", "UInt256"), ("TINYBLOB", "TINYBLOB"),
    ("MEDIUMBLOB", "MEDIUMBLOB"), ("LONGBLOB", "LONGBLOB"), ("UUID", "UUID"), ("DATE", "DATE"),
    ("DATE32", "Date32"), ("INTERVAL", "INTERVAL"), ("JSON", "JSON"), ("JSONB", "JSONB"),
    ("REGCLASS", "REGCLASS"), ("TEXT", "TEXT"), ("TINYTEXT", "TINYTEXT"),
    ("MEDIUMTEXT", "MEDIUMTEXT"), ("LONGTEXT", "LONGTEXT"), ("BYTEA", "BYTEA"),
    ("TRIGGER", "TRIGGER")]

/-- Types with an optional size. -/
def sizedTypes : List String :=
  ["FLOAT", "CLOB", "BINARY", "VARBINARY", "BLOB", "BYTES", "DATETIME", "STRING"]

/-- Integer types with an optional width, which may be unsigned. -/
def integerTypes : List String :=
  ["TINYINT", "INT2", "SMALLINT", "MEDIUMINT", "INT", "INT4", "INT8", "INTEGER", "BIGINT"]

/-- Number types with optional precision and scale. -/
def exactTypes : List String :=
  ["NUMERIC", "DECIMAL", "DEC", "BIGNUMERIC", "BIGDECIMAL"]

/-- A size in parentheses, if there is one. -/
def optionalSize : Parser (Option Nat) :=
  Literal.inParentheses Literal.unsigned

/-- Precision and scale in parentheses, if they are there. -/
def optionalPrecision : Parser (Option (Nat × Option Nat)) :=
  Literal.inParentheses do
    let precision ← Literal.unsigned
    if ← Parser.symbol "," then
      let scale ← Literal.unsigned
      pure (precision, some scale)
    else pure (precision, none)

/-- A number type with the arguments that follow its name. -/
def exactType (name : String) : Parser DataType := do
  match ← optionalPrecision with
  | none => pure (.exact name none none)
  | some (precision, scale) => pure (.exact name (some precision) scale)

/-- The length of a character type. -/
def characterLength : Parser CharacterLength := do
  if ← Parser.keyword "MAX" then pure .maximum
  else
    let length ← Literal.unsigned
    let unit ← Parser.oneOf ["CHARACTERS", "OCTETS"]
    pure (.count length unit)

/-- A character type with the length that follows its name. -/
def characterType (name : String) : Parser DataType := do
  pure (.characters name (← Literal.inParentheses characterLength))

/-- The character types whose name is `first`, alone or with further words. -/
def characterFamily (first : String) : Parser DataType := do
  if ← Parser.keyword "VARYING" then characterType (first ++ " VARYING")
  else if ← Parser.keywords ["LARGE", "OBJECT"] then
    pure (.sized (first ++ " LARGE OBJECT") (← optionalSize))
  else characterType first

/-- A type of times with its precision and what it says of its time zone. -/
def timeType (name : String) : Parser DataType := do
  let precision ← optionalSize
  if ← Parser.keyword "WITH" then
    Parser.expectKeywords ["TIME", "ZONE"]
    pure (.time name precision .withZone)
  else if ← Parser.keyword "WITHOUT" then
    Parser.expectKeywords ["TIME", "ZONE"]
    pure (.time name precision .withoutZone)
  else pure (.time name precision .unspecified)

/-- The members of an enumeration. -/
def enumMembers : Parser (List (String × Option String)) :=
  Parser.parenthesized <| Parser.separated do
    let name ← Literal.text
    if ← Parser.symbol "=" then pure (name, some (← Literal.number))
    else pure (name, none)

/-- The rest of the members of a set, at most `fuel` of them. -/
def setMembers : Nat → Parser (List String)
  | 0 => pure []
  | fuel + 1 => do
    let token ← Parser.next
    match token with
    | some ⟨⟨.string .single content, _, _⟩, _⟩ =>
      let separator ← Parser.next
      match separator with
      | some ⟨⟨.symbol ",", _, _⟩, _⟩ =>
        let rest ← setMembers fuel
        pure (content :: rest)
      | some ⟨⟨.symbol ")", _, _⟩, _⟩ => pure [content]
      | _ => Parser.expectedAt ", or \x7d" separator
    | _ => Parser.expectedAt "a string" token

/-- The arguments of a type that is known by its name alone, up to the closing
parenthesis; separators may stand anywhere. -/
def modifiers : Nat → Parser (List String)
  | 0 => pure []
  | fuel + 1 => do
    let token ← Parser.next
    match token with
    | some ⟨⟨.word word, _, _⟩, _⟩ =>
      let rest ← modifiers fuel
      pure (word.render :: rest)
    | some ⟨⟨.number digits _, _, _⟩, _⟩ =>
      let rest ← modifiers fuel
      pure (digits :: rest)
    | some ⟨⟨.string .single content, _, _⟩, _⟩ =>
      let rest ← modifiers fuel
      pure (content :: rest)
    | some ⟨⟨.symbol ",", _, _⟩, _⟩ => modifiers fuel
    | some ⟨⟨.symbol ")", _, _⟩, _⟩ => pure []
    | _ => Parser.expectedAt "type modifiers" token

/-- A type that is known by its name alone. -/
def customType : Parser DataType := do
  let name ← ObjectName.parser
  if ← Parser.symbol "(" then pure (.custom name (← modifiers (← Parser.fuel)))
  else pure (.custom name [])

/-- Read the closing angle bracket of a type, unless the type inside has read it. The
answer tells whether one is left over. -/
def closeAngle (leftOver : Bool) : Parser Bool := do
  if leftOver then pure false
  else if ← Parser.symbol ">" then pure false
  else if ← Parser.symbol ">>" then pure true
  else Parser.expected ">"

/-- A component of a composite type: a name and a type if two words are next, else a
type alone. -/
def component (inner : Parser Bracketed) : Parser (Field × Bool) := do
  let isWord (token : Option Lexeme) : Bool :=
    match token with
    | some ⟨⟨.word _, _, _⟩, _⟩ => true
    | _ => false
  if isWord (← Parser.peekAt 0) && isWord (← Parser.peekAt 1) then
    let name ← Identifier.parser
    let (type, leftOver) ← inner
    pure (.mk (some name) type, leftOver)
  else
    let (type, leftOver) ← inner
    pure (.mk none type, leftOver)

/-- The components of a struct in angle brackets, at most `fuel` of them. The struct
begins at `start`. -/
def structComponents (start : Location) (inner : Parser Bracketed) :
    Nat → Parser (List Field × Bool)
  | 0 => pure ([], false)
  | fuel + 1 => do
    let (field, leftOver) ← component inner
    if ← Parser.symbol "," then
      if leftOver then Parser.fail (.strayStructAngle start)
      else
        let (rest, leftOver) ← structComponents start inner fuel
        pure (field :: rest, leftOver)
    else pure ([field], leftOver)

/-- The components of a struct in angle brackets, none if no bracket opens. -/
def structFields (start : Location) (inner : Parser Bracketed) : Parser (List Field × Bool) := do
  if ← Parser.symbol "<" then
    let (fields, leftOver) ← structComponents start inner (← Parser.fuel)
    pure (fields, ← closeAngle leftOver)
  else pure ([], false)

/-- The components of a tuple, at most `fuel` of them. -/
def tupleComponents (inner : Parser Bracketed) : Nat → Parser (List Field)
  | 0 => pure []
  | fuel + 1 => do
    let (field, _) ← component inner
    if ← Parser.symbol "," then
      let rest ← tupleComponents inner fuel
      pure (field :: rest)
    else pure [field]

/-- A type that may not leave a closing angle bracket over. -/
def balanced (inner : Parser Bracketed) : Parser DataType := do
  let (type, leftOver) ← inner
  if leftOver then
    Parser.failWith (fun found => .strayAngle type.render (found.map (·.token)))
      (fun _ => rfl) fun _ => .inl rfl
  else pure type

/-- A component that has a name and a type. -/
def namedComponent (inner : Parser Bracketed) : Parser Field := do
  let name ← Identifier.parser
  let type ← balanced inner
  pure (.mk (some name) type)

/-- The components of a struct in parentheses. A fault in them gives way to the fault
that the closing parenthesis is missing. -/
def roundFields (inner : Parser Bracketed) : Parser (List Field) := do
  Parser.expectSymbol "("
  let (fields, _) ←
    Parser.despite (Parser.separated (namedComponent inner)) (Parser.expectSymbol ")")
  pure fields

/-- A type in parentheses after the name of another that is made from it. -/
def wrappedType (name : String) (inner : Parser Bracketed) : Parser DataType := do
  pure (.wrapped name (← Parser.parenthesized (balanced inner)))

/-- The sizes in square brackets that make arrays of a type. -/
def arraySuffixes : Nat → DataType → Parser DataType
  | 0, type => pure type
  | fuel + 1, type => do
    if ← Parser.symbol "[" then
      let sized ← Parser.grammarIn [.generic, .duckDb, .postgres]
      let size ← if sized then Parser.optional Literal.unsigned else pure none
      Parser.expectSymbol "]"
      arraySuffixes fuel (.array (.square size) type)
    else pure type

/-- What follows `DATETIME64`: a precision and perhaps the name of a time zone. -/
def datetime64Type : Parser DataType :=
  Parser.parenthesized do
    let precision ← Literal.unsigned
    if ← Parser.symbol "," then pure (.datetime64 precision (some (← Literal.text)))
    else pure (.datetime64 precision none)

/-- The type that a keyword begins, which has been read and stands at `start`; none if
the keyword has no meaning here. `column` reads a column of a nested table. -/
def ofKeyword (column : Parser String) (inner : Parser Bracketed) (start : Location)
    (key : String) : Parser (Option Bracketed) := do
  let grammar ← Parser.grammar
  let clickHouse := grammar == .clickHouse || grammar == .generic
  let whole (parser : Parser DataType) : Parser (Option Bracketed) := do
    pure (some (← parser, false))
  if let some name := plainTypes.lookup key then whole (pure (.plain name))
  else if sizedTypes.contains key then whole do pure (.sized key (← optionalSize))
  else if integerTypes.contains key then whole do
    let (width, unsigned) ← Parser.despite optionalSize (Parser.keyword "UNSIGNED")
    pure (.integer key width unsigned)
  else if exactTypes.contains key then whole (exactType key)
  else
    match key with
    | "DOUBLE" => whole do
      if ← Parser.keyword "PRECISION" then pure (.plain "DOUBLE PRECISION")
      else exactType "DOUBLE"
    | "VARCHAR" | "NVARCHAR" => whole (characterType key)
    | "CHARACTER" | "CHAR" => whole (characterFamily key)
    | "BIT" => whole do
      if ← Parser.keyword "VARYING" then pure (.sized "BIT VARYING" (← optionalSize))
      else pure (.sized "BIT" (← optionalSize))
    | "DATETIME64" => whole datetime64Type
    | "TIMESTAMP" | "TIME" => whole (timeType key)
    | "TIMESTAMPTZ" => whole do pure (.time "TIMESTAMP" (← optionalSize) .suffixed)
    | "TIMETZ" => whole do pure (.time "TIME" (← optionalSize) .suffixed)
    | "FIXEDSTRING" => whole do
      let length ← Parser.parenthesized Literal.unsigned
      pure (.sized "FixedString" (some length))
    | "ENUM" => whole do pure (.enum none (← enumMembers))
    | "ENUM8" => whole do pure (.enum (some 8) (← enumMembers))
    | "ENUM16" => whole do pure (.enum (some 16) (← enumMembers))
    | "SET" => whole do
      Parser.expectSymbol "("
      pure (.set (← setMembers (← Parser.fuel)))
    | "ARRAY" =>
      match grammar with
      | .snowflake => whole (pure .anyArray)
      | .clickHouse => whole do
        pure (.array .round (← Parser.parenthesized (balanced inner)))
      | _ =>
        Parser.expectSymbol "<"
        let (element, leftOver) ← inner
        let leftOver ← closeAngle leftOver
        pure (some (.array .angle element, leftOver))
    | "STRUCT" =>
      match grammar with
      | .duckDb => whole do pure (.struct .round (← roundFields inner))
      | .bigQuery | .generic =>
        let (fields, leftOver) ← structFields start inner
        pure (some (.struct .angle fields, leftOver))
      | _ => pure none
    | "UNION" =>
      if grammar == .duckDb || grammar == .generic then whole do
        pure (.union (← Parser.parenthesized (Parser.separated (namedComponent inner))))
      else pure none
    | "NULLABLE" => if clickHouse then whole (wrappedType "Nullable" inner) else pure none
    | "LOWCARDINALITY" =>
      if clickHouse then whole (wrappedType "LowCardinality" inner) else pure none
    | "MAP" =>
      if clickHouse then whole <| Parser.parenthesized do
        let key ← balanced inner
        Parser.expectSymbol ","
        pure (.map key (← balanced inner))
      else pure none
    | "NESTED" =>
      if clickHouse then whole do
        pure (.nested (← Parser.parenthesized (Parser.separated column)))
      else pure none
    | "TUPLE" =>
      if clickHouse then whole do
        pure (.tuple (← Parser.parenthesized (tupleComponents inner (← Parser.fuel))))
      else pure none
    | "ANY" =>
      if ← Parser.keyword "TYPE" then whole (pure (.plain "ANY TYPE")) else pure none
    | _ => pure none

/-- A type of at most `fuel` levels, and whether a closing angle bracket is left over. -/
def bracketed (column : Parser String) : Nat → Parser Bracketed
  | 0 => Parser.fail .nestedTooDeeply
  | fuel + 1 => do
    let token ← Parser.next
    match token with
    | some ⟨⟨.word _, start, _⟩, key⟩ =>
      match ← ofKeyword column (bracketed column fuel) start key with
      | some (type, leftOver) => pure (← arraySuffixes (← Parser.fuel) type, leftOver)
      | none =>
        Parser.retreat
        let type ← customType
        pure (← arraySuffixes (← Parser.fuel) type, false)
    | _ => Parser.expectedAt "a data type name" token

/-- A type. `column` reads a column of a nested table. -/
def parserOf (column : Parser String) : Parser DataType := do
  balanced (bracketed column (← Parser.fuel))

end TableCatalog.DataType
