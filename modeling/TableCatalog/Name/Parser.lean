import TableCatalog.Name
import TableCatalog.Parser

/-!
# Reading names

Identifiers, names of several parts, and the lists of columns that constraints and
statements carry.
-/

namespace TableCatalog

namespace Word

/-- The identifier that a word is. -/
def toIdentifier (word : Word) (past : Location) : Identifier :=
  ⟨word.text, word.quote, past⟩

end Word

namespace Identifier

/-- An identifier: any word, or a text constant, which is then without a place. -/
def parser : Parser Identifier := do
  let token ← Parser.next
  match token with
  | some ⟨⟨.word word, _, past⟩, _⟩ => pure (word.toIdentifier past)
  | some ⟨⟨.string .single text, _, _⟩, _⟩ => pure ⟨text, some '\'', Location.none⟩
  | some ⟨⟨.string .double text, _, _⟩, _⟩ => pure ⟨text, some '"', Location.none⟩
  | _ => Parser.expectedAt "identifier" token

/-- Identifiers with separators, in parentheses. -/
def listParser : Parser (List Identifier) :=
  Parser.parenthesized (Parser.separated parser)

/-- A list of columns in parentheses that may be missing. -/
def optionalColumns : Parser (List Identifier) := do
  if ← Parser.symbol "(" then
    let names ← Parser.separated parser
    Parser.expectSymbol ")"
    pure names
  else pure []

/-- A list of columns in parentheses. -/
def requiredColumns : Parser (List Identifier) := do
  if ← Parser.seesSymbol "(" then optionalColumns
  else Parser.expected "a list of columns in parentheses"

/-- Identifiers as a list. -/
def renderAll (names : List Identifier) : String :=
  ", ".intercalate (names.map render)

end Identifier

namespace ObjectName

/-- The part of an identifier that follows a hyphen at once, and how the identifier goes
on: with more of itself, with nothing but the end of the text after a number, or with
the next part of the name, the number having swallowed the period. -/
inductive HyphenPart where
  | word (text : String)
  | number (digits : String) (dotted : Bool)

/-- The part of an identifier that follows a hyphen. No gap may stand before it. -/
def hyphenPart : Parser HyphenPart := do
  let what := "continuation of hyphenated identifier"
  if ← Parser.hasGap then Parser.expectedNoGap what
  else
    let token ← Parser.next
    match token with
    | some ⟨⟨.word ⟨text, none⟩, _, _⟩, _⟩ => pure (.word text)
    | some ⟨⟨.number digits false, _, _⟩, _⟩ =>
      if digits.endsWith "." then
        let whole := digits.toList.takeWhile (· != '.')
        if !whole.isEmpty && whole.all Char.isDigit then
          pure (.number (String.ofList whole) true)
        else Parser.expectedAt what token
      else pure (.number digits false)
    | _ => Parser.expectedAt what token

/-- The rest of an identifier that goes on with hyphens, in at most `fuel` parts, and
whether the period that separates it from the next part has been read. A number at the
end has to be the last thing of all, unless a period is next; `tight` tells that one
has been read there. -/
def hyphenated (name : Identifier) : Nat → Bool → Parser (Identifier × Bool)
  | 0, _ => pure (name, false)
  | fuel + 1, tight => do
    if ← Parser.onlyIf (← Parser.seesSymbol "-") do pure !(← Parser.hasGap) then
      Parser.advance
      match ← hyphenPart with
      | .word text => hyphenated { name with text := name.text ++ "-" ++ text } fuel false
      | .number digits true => pure ({ name with text := name.text ++ "-" ++ digits }, true)
      | .number digits false =>
        hyphenated { name with text := name.text ++ "-" ++ digits } fuel
          (!(← Parser.seesSymbol "."))
    else if tight then
      let token ← Parser.nextOfText
      match token with
      | none => pure (name, false)
      | some _ => Parser.expectedAt "whitespace following hyphenated identifier" token
    else pure (name, false)

/-- A part of a table name in a grammar where unquoted parts may hold hyphens. -/
def hyphenatedPart : Parser (Identifier × Bool) := do
  match ← Parser.peek with
  | some ⟨⟨.word word, _, _⟩, _⟩ =>
    let name ← Identifier.parser
    if word.quote.isNone then hyphenated name (← Parser.fuel) false
    else pure (name, false)
  | _ => pure (← Identifier.parser, false)

/-- The parts of a name that dots inside quotes divide further. -/
def splitDots (name : Identifier) : List Identifier :=
  (name.text.splitOn ".").map fun part => { name with text := part }

/-- The parts of a table name that may hold hyphens, at most `fuel` of them. -/
def hyphenatedParts : Nat → Parser ObjectName
  | 0 => pure []
  | fuel + 1 => do
    let (part, dotted) ← hyphenatedPart
    let period ← Parser.symbol "."
    if period || dotted then
      let rest ← hyphenatedParts fuel
      pure (part :: rest)
    else pure [part]

/-- The parts of a name, each read by `part`, at most `fuel` of them; `second` tells that
one has been read, after which a second dot stands for an empty part where the grammar
has that. -/
def parts (part : Parser Identifier) (emptyPart : Bool) : Nat → Bool → Parser ObjectName
  | 0, _ => pure []
  | fuel + 1, second => do
    let skipped ← Parser.onlyIf (emptyPart && second) (Parser.symbol ".")
    let name ← part
    let here := if skipped then [Identifier.plain "", name] else [name]
    if ← Parser.symbol "." then
      let rest ← parts part emptyPart fuel false
      pure (here ++ rest)
    else pure here

/-- A name whose parts are read by `part`; `ofTable` allows hyphens in the grammar that
has them. -/
def parserWith (part : Parser Identifier) (ofTable : Bool) : Parser ObjectName := do
  let grammar ← Parser.grammar
  let fuel ← Parser.fuel
  if grammar == .bigQuery then
    let name ← if ofTable then hyphenatedParts fuel else parts part false fuel false
    pure (name.flatMap splitDots)
  else
    let first ← part
    if ← Parser.symbol "." then
      let rest ← parts part (grammar == .snowflake) fuel true
      pure (first :: rest)
    else pure [first]

/-- A name; `ofTable` allows hyphens in the grammar that has them. -/
def parserOf (ofTable : Bool) : Parser ObjectName :=
  parserWith Identifier.parser ofTable

/-- A name without hyphens. -/
def parser : Parser ObjectName :=
  parserOf false

/-- A name whose parts may be stars. -/
def wildParser : Parser ObjectName :=
  parserWith (do
    if ← Parser.symbol "*" then pure (Identifier.plain "*") else Identifier.parser) false

end ObjectName

end TableCatalog
