import TableCatalog.Database
import TableCatalog.Text.Letter

/-!
# Lexical rules of the grammars

Which characters form words, which marks quote them, how text constants escape, and
which comments a grammar has.
-/

namespace TableCatalog.Grammar

/-- The characters that an unquoted word may begin with. A digit never reaches this
test: a run that begins with one is read as a number first. -/
def startsWord (grammar : Grammar) (c : Char) : Bool :=
  match grammar with
  | mysql =>
    Text.isLetter c || c == '_' || c == '$' || c == '@' || (0x80 ≤ c.toNat && c.toNat ≤ 0xFFFF)
  | postgres | duckDb => Text.isLetter c || c == '_'
  | sqlServer | generic => Text.isLetter c || c == '_' || c == '#' || c == '@'
  | redshift => Text.isLetter c || c == '_' || c == '#'
  | hive => Text.isAsciiAlphanum c || c == '$'
  | sqlite => c.isAlpha || c == '_' || (0x7F ≤ c.toNat && c.toNat ≤ 0xFFFF)
  | clickHouse | snowflake | bigQuery | databricks => c.isAlpha || c == '_'

/-- The characters that an unquoted word may go on with. -/
def continuesWord (grammar : Grammar) (c : Char) : Bool :=
  match grammar with
  | mysql | sqlite => startsWord grammar c || c.isDigit
  | postgres | duckDb => Text.isLetter c || c.isDigit || c == '$' || c == '_'
  | redshift => Text.isLetter c || c.isDigit || c == '$' || c == '_' || c == '#'
  | sqlServer | generic =>
    Text.isLetter c || c.isDigit || c == '@' || c == '$' || c == '#' || c == '_'
  | hive => Text.isAsciiAlphanum c || c == '_' || c == '$' || c == '\x7b' || c == '\x7d'
  | snowflake => Text.isAsciiAlphanum c || c == '$' || c == '_'
  | clickHouse | bigQuery | databricks => Text.isAsciiAlphanum c || c == '_'

/-- The marks that open a quoted word. -/
def quotesWord (grammar : Grammar) (c : Char) : Bool :=
  match grammar with
  | mysql | bigQuery | databricks => c == '\x60'
  | postgres => c == '"'
  | sqlServer => c == '"' || c == '['
  | sqlite => c == '\x60' || c == '"' || c == '['
  | hive | clickHouse | snowflake | redshift | duckDb | generic => c == '"' || c == '\x60'

/-- Whether a backslash escapes the character after it in a text constant. -/
def hasBackslashEscapes : Grammar → Bool
  | mysql | clickHouse | snowflake | bigQuery => true
  | _ => false

/-- Whether three quotes open a text constant. -/
def hasTripleQuotes : Grammar → Bool
  | bigQuery => true
  | _ => false

/-- Whether `B` before a quote marks a byte constant. -/
def hasByteStrings : Grammar → Bool
  | bigQuery | postgres | mysql | generic => true
  | _ => false

/-- Whether `R` before a quote marks a raw constant. -/
def hasRawStrings : Grammar → Bool
  | bigQuery | generic => true
  | _ => false

/-- Whether `U&` before a quote marks a constant with Unicode escapes. -/
def hasUnicodeStrings : Grammar → Bool
  | postgres | generic => true
  | _ => false

/-- Whether `#` begins a comment that runs to the end of the line. -/
def hasHashComments : Grammar → Bool
  | snowflake | bigQuery | mysql | hive => true
  | _ => false

/-- Whether `//` begins a comment that runs to the end of the line. -/
def hasSlashComments : Grammar → Bool
  | snowflake => true
  | _ => false

/-- Whether `//` is an operator. -/
def hasIntegerDivision : Grammar → Bool
  | duckDb | generic => true
  | _ => false

/-- Whether a block comment may hold block comments. -/
def nestsComments : Grammar → Bool
  | postgres | generic => true
  | _ => false

/-- Whether a word may begin with digits. -/
def wordsMayStartWithDigits : Grammar → Bool
  | mysql | hive => true
  | _ => false

/-- Whether dollar signs belong to placeholders rather than to dollar-quoted text. -/
def hasDollarPlaceholders : Grammar → Bool
  | sqlite => true
  | _ => false

/-- The characters of a tag between dollar signs and of a placeholder after one. -/
def continuesTag (grammar : Grammar) (c : Char) : Bool :=
  Text.isLetterOrNumeric c || c == '_' || (c == '$' && grammar.hasDollarPlaceholders)

/-- The characters that prolong an operator into an operator of its own. -/
def continuesOperator (grammar : Grammar) (c : Char) : Bool :=
  match grammar with
  | postgres => "+-*/<>=~!@#%^&|`?".toList.contains c
  | _ => false

end TableCatalog.Grammar
