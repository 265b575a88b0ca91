import TableCatalog.Name
import TableCatalog.Parser

/-!
# Reading constants

Numbers and texts where a statement requires exactly one of them.
-/

namespace TableCatalog.Literal

/-- Why a text is not a number below a bound. -/
inductive NumberFault where
  | notADigit
  | tooLarge
  deriving DecidableEq, Repr

/-- The wording of a fault. -/
def NumberFault.message : NumberFault → String
  | notADigit => "invalid digit found in string"
  | tooLarge => "number too large to fit in target type"

/-- The number below a bound that digits write, or the first fault from the left. -/
def readBelow (bound : Nat) : Nat → List Char → Except NumberFault Nat
  | value, [] => .ok value
  | value, c :: rest =>
    if !c.isDigit then .error .notADigit
    else
      let value := value * 10 + (c.toNat - 48)
      if value < bound then readBelow bound value rest else .error .tooLarge

/-- A number below a bound, in the words of the type that it has to fit. -/
def bounded (kind : String) (bound : Nat) : Parser Nat := do
  let token ← Parser.next
  match token with
  | some ⟨⟨.number digits _, first, _⟩, _⟩ =>
    match readBelow bound 0 digits.toList with
    | .ok value => pure value
    | .error fault => Parser.fail (.badNumber digits kind fault.message first)
  | _ => Parser.expectedAt "literal int" token

/-- A number of at most 64 bits. -/
def unsigned : Parser Nat :=
  bounded "u64" UInt64.size

/-- A number of at most 32 bits. -/
def unsigned32 : Parser Nat :=
  bounded "u32" UInt32.size

/-- A text constant, or a word that is no keyword. -/
def text : Parser String := do
  let grammar ← Parser.grammar
  let token ← Parser.next
  match token with
  | some ⟨⟨.word word, _, _⟩, key⟩ =>
    if word.quote.isSome || !Keyword.isKeyword key then pure word.text
    else Parser.expectedAt "literal string" token
  | some ⟨⟨.string .single content, _, _⟩, _⟩
  | some ⟨⟨.string .double content, _, _⟩, _⟩
  | some ⟨⟨.string .unicode content, _, _⟩, _⟩ => pure content
  | some ⟨⟨.string .escaped content, _, _⟩, _⟩ =>
    if grammar == .postgres || grammar == .generic then pure content
    else Parser.expectedAt "literal string" token
  | _ => Parser.expectedAt "literal string" token

/-- Whether `TRUE` and `FALSE` are constants. -/
def hasBooleans : Grammar → Bool
  | .sqlServer => false
  | _ => true

/-- Text between double quotes, with the quotes inside it doubled. -/
def quoteDouble (text : String) : String :=
  "\"" ++ String.ofList (escapeQuoted '"' '\x00' text.toList) ++ "\""

/-- A character of a constant with backslash sequences. -/
def backslashed (c : Char) : String :=
  match c with
  | '\'' => "\\'"
  | '\\' => "\\\\"
  | '\n' => "\\n"
  | '\t' => "\\t"
  | '\r' => "\\r"
  | _ => c.toString

/-- A code point in upper-case hexadecimal digits, at least `width` of them. -/
def hexDigits (width code : Nat) : String :=
  let digits := (Nat.toDigits 16 code).map Char.toUpper
  String.ofList (List.replicate (width - digits.length) '0' ++ digits)

/-- A character of a constant with Unicode escapes. -/
def unicodeEscaped (c : Char) : String :=
  if c == '\'' then "''"
  else if c == '\\' then "\\\\"
  else if c.toNat < 128 then c.toString
  else if c.toNat ≤ 0xFFFF then "\\" ++ hexDigits 4 c.toNat
  else "\\+" ++ hexDigits 6 c.toNat

/-- A constant. -/
def value : Parser String := do
  let grammar ← Parser.grammar
  let token ← Parser.next
  match token with
  | some ⟨⟨.word word, _, _⟩, key⟩ =>
    if key == "TRUE" && hasBooleans grammar then pure "true"
    else if key == "FALSE" && hasBooleans grammar then pure "false"
    else if key == "NULL" then pure "NULL"
    else
      match word.quote with
      | some '"' => pure (quoteDouble word.text)
      | some _ => Parser.expectedAt "A value?" token
      | none => Parser.expectedAt "a concrete value" token
  | some ⟨⟨.string .single content, _, _⟩, _⟩ => pure (quoteText content)
  | some ⟨⟨.string .double content, _, _⟩, _⟩ => pure (quoteDouble content)
  | some ⟨⟨.string .escaped content, _, _⟩, _⟩ =>
    if grammar == .postgres || grammar == .generic then
      pure ("E'" ++ String.join (content.toList.map backslashed) ++ "'")
    else Parser.expectedAt "a value" token
  | some ⟨⟨.string .unicode content, _, _⟩, _⟩ =>
    pure ("U&'" ++ String.join (content.toList.map unicodeEscaped) ++ "'")
  | some ⟨⟨.string style content, _, _⟩, _⟩ => pure (style.opening ++ content ++ style.closing)
  | some ⟨⟨.number digits long, _, _⟩, _⟩ => pure (Token.number digits long).render
  | some ⟨⟨.dollarString tag content, _, _⟩, _⟩ => pure (Token.dollarString tag content).render
  | some ⟨⟨.placeholder text, _, _⟩, _⟩ => pure text
  | some ⟨⟨.symbol mark, _, _⟩, _⟩ =>
    if mark == ":" || mark == "@" then
      let token ← Parser.next
      match token with
      | some ⟨⟨.word word, _, _⟩, _⟩ => pure (mark ++ word.text)
      | some ⟨⟨.number digits false, _, _⟩, _⟩ => pure (mark ++ digits)
      | _ => Parser.expectedAt "placeholder" token
    else Parser.expectedAt "a value" token
  | _ => Parser.expectedAt "a value" token

/-- An unsigned number, or a placeholder for one. -/
def numberValue : Parser String := do
  let token ← Parser.peek
  let text ← value
  match token with
  | some ⟨⟨.number .., _, _⟩, _⟩ | some ⟨⟨.placeholder _, _, _⟩, _⟩
  | some ⟨⟨.symbol _, _, _⟩, _⟩ => pure text
  | _ =>
    Parser.retreat
    Parser.expected "literal number"

/-- A number with an optional sign. -/
def number : Parser String := do
  if ← Parser.symbol "+" then pure ("+" ++ (← numberValue))
  else if ← Parser.symbol "-" then pure ("-" ++ (← numberValue))
  else numberValue

/-- The sizes and such that stand in parentheses after a type, if they do. -/
def inParentheses {α : Type} (parser : Parser α) : Parser (Option α) := do
  if ← Parser.symbol "(" then
    let value ← parser
    Parser.expectSymbol ")"
    pure (some value)
  else pure none

end TableCatalog.Literal
