import TableCatalog.DataType.Parser
import TableCatalog.Phrases

/-!
# Times and durations

The units of times, durations with their units, and constants of a named type, which
begin as durations do.
-/

namespace TableCatalog.Expr

variable (inner : Phrases)

/-- The units that may follow the amount of a duration. -/
def durationUnits : List String :=
  ["YEAR", "YEARS", "MONTH", "MONTHS", "WEEK", "WEEKS", "DAY", "DAYS", "HOUR", "HOURS", "MINUTE",
    "MINUTES", "SECOND", "SECONDS", "CENTURY", "DECADE", "DOW", "DOY", "EPOCH", "ISODOW", "ISOYEAR",
    "JULIAN", "MICROSECOND", "MICROSECONDS", "MILLENIUM", "MILLENNIUM", "MILLISECOND",
    "MILLISECONDS", "NANOSECOND", "NANOSECONDS", "QUARTER", "TIMEZONE", "TIMEZONE_HOUR",
    "TIMEZONE_MINUTE"]

/-- The units that are parts of a time but follow no amount. -/
def timePartUnits : List String :=
  ["DATE", "DATETIME", "DAYOFWEEK", "DAYOFYEAR", "ISOWEEK", "TIME", "TIMEZONE_ABBR",
    "TIMEZONE_REGION"]

/-- Whether any word may stand for a unit, and so may a text. -/
def hasOwnUnits : Grammar → Bool
  | .snowflake | .generic | .postgres => true
  | _ => false

/-- A unit of times. -/
def temporalUnit : Parser String := do
  let grammar ← Parser.grammar
  let token ← Parser.next
  let own : Parser String := do
    if hasOwnUnits grammar then
      Parser.retreat
      pure (← Identifier.parser).render
    else Parser.expectedAt "date/time field" token
  match token with
  | some ⟨⟨.word _, _, _⟩, key⟩ =>
    if key == "WEEK" then
      if ← Parser.onlyIf (grammar == .bigQuery || grammar == .generic) (Parser.symbol "(") then
        let day ← Identifier.parser
        Parser.expectSymbol ")"
        pure ("WEEK(" ++ day.render ++ ")")
      else pure key
    else if durationUnits.contains key || timePartUnits.contains key then pure key
    else own
  | some ⟨⟨.string .single _, _, _⟩, _⟩ => own
  | _ => Parser.expectedAt "date/time field" token

/-- Whether a duration needs a unit. -/
def durationsNeedUnits : Grammar → Bool
  | .bigQuery | .clickHouse | .databricks | .hive | .mysql => true
  | _ => false

/-- A number in parentheses after a unit. -/
def unitPrecision : Parser String := do
  let size ← DataType.optionalSize
  pure (size.elim "" fun n => s!" ({n})")

/-- The number of digits of seconds, before and after the point. -/
def secondsPrecision : Parser String := do
  match ← DataType.optionalPrecision with
  | none => pure ""
  | some (leading, none) => pure s!" ({leading})"
  | some (leading, some fraction) => pure s!" ({leading}, {fraction})"

/-- A duration, after `INTERVAL`. Where a unit is needed the amount may be any
expression, elsewhere it is an operand. -/
def duration : Parser Expr := do
  let needsUnit := durationsNeedUnits (← Parser.grammar)
  let amount ← if needsUnit then inner.anyExpr else inner.operand
  let unit ←
    if durationUnits.contains (← Parser.peekKey) then temporalUnit
    else if needsUnit then
      Parser.refusedHere "INTERVAL requires a unit after the literal value"
    else pure ""
  let head := "INTERVAL " ++ amount.text ++ (if unit.isEmpty then "" else " " ++ unit)
  if unit == "SECOND" then pure (ofText (head ++ (← secondsPrecision)))
  else
    let leading ← unitPrecision
    let last ←
      if ← Parser.keyword "TO" then
        let last ← temporalUnit
        let fraction ← if last == "SECOND" then unitPrecision else pure ""
        pure (" TO " ++ last ++ fraction)
      else pure ""
    pure (ofText (head ++ leading ++ last))

/-- A constant of a named type, or a duration. A type that is known by its name alone
makes no constants. -/
def typedConstant : Parser Expr := do
  match ← DataType.parserOf inner.column with
  | .plain "INTERVAL" => duration inner
  | .custom .. => Parser.fail (.refused "" Location.none)
  | type =>
    let text ← Literal.text
    pure (ofText (type.render ++ " " ++ quoteText text))

end TableCatalog.Expr
