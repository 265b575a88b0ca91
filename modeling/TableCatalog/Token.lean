import TableCatalog.Location
import TableCatalog.Text.Casing

/-!
# Tokens

The lexical units of a script. A token prints as it is written, except that the
text inside quotes is printed after its escapes have been resolved.
-/

namespace TableCatalog

/-- A word, quoted or not. The mark is the opening quote of a quoted word. -/
structure Word where
  text : String
  quote : Option Char
  deriving DecidableEq, Repr, Inhabited

namespace Word

/-- The mark that closes a quoted word. -/
def closing (quote : Char) : Char :=
  if quote == '[' then ']' else quote

/-- The upper-case spelling under which an unquoted word may be a keyword; a quoted
word never is one. -/
def key (word : Word) : String :=
  if word.quote.isSome then "" else Text.keywordKey word.text

/-- Whether a word is an unquoted spelling of a keyword, given in upper case. -/
def isKeyword (word : Word) (keyword : String) : Bool :=
  word.quote.isNone && Text.keywordKey word.text == keyword

/-- A word as it is written, up to doubled quotes inside it. -/
def render (word : Word) : String :=
  match word.quote with
  | none => word.text
  | some quote => quote.toString ++ word.text ++ (closing quote).toString

end Word

/-- The ways in which a text constant is quoted. -/
inductive StringStyle where
  | single
  | double
  | tripleSingle
  | tripleDouble
  | byteSingle
  | byteDouble
  | byteTripleSingle
  | byteTripleDouble
  | rawSingle
  | rawDouble
  | rawTripleSingle
  | rawTripleDouble
  | national
  | escaped
  | unicode
  | hex
  deriving DecidableEq, Repr, Inhabited

namespace StringStyle

/-- What stands before the content. -/
def opening : StringStyle → String
  | single => "'"
  | double => "\""
  | tripleSingle => "'''"
  | tripleDouble => "\"\"\""
  | byteSingle => "B'"
  | byteDouble => "B\""
  | byteTripleSingle => "B'''"
  | byteTripleDouble => "B\"\"\""
  | rawSingle => "R'"
  | rawDouble => "R\""
  | rawTripleSingle => "R'''"
  | rawTripleDouble => "R\"\"\""
  | national => "N'"
  | escaped => "E'"
  | unicode => "U&'"
  | hex => "X'"

/-- What stands after the content. -/
def closing : StringStyle → String
  | single | byteSingle | rawSingle | national | escaped | unicode | hex => "'"
  | double | byteDouble | rawDouble => "\""
  | tripleSingle | byteTripleSingle | rawTripleSingle => "'''"
  | tripleDouble | byteTripleDouble | rawTripleDouble => "\"\"\""

end StringStyle

/-- What separates tokens and carries no meaning. -/
inductive Gap where
  | space
  | newline
  | tab
  | lineComment (mark text : String)
  | blockComment (text : String)
  deriving DecidableEq, Repr, Inhabited

/-- A lexical unit. Punctuation and operators are symbols, known by their spelling. -/
inductive Token where
  | word (word : Word)
  | number (digits : String) (long : Bool)
  | string (style : StringStyle) (content : String)
  | dollarString (tag : Option String) (content : String)
  | placeholder (text : String)
  | symbol (text : String)
  | gap (gap : Gap)
  deriving DecidableEq, Repr, Inhabited

namespace Token

/-- The statement terminator. -/
@[match_pattern] def semicolon : Token := .symbol ";"

/-- The opening parenthesis. -/
@[match_pattern] def openParen : Token := .symbol "("

/-- The closing parenthesis. -/
@[match_pattern] def closeParen : Token := .symbol ")"

/-- The list separator. -/
@[match_pattern] def comma : Token := .symbol ","

/-- Whether a token only separates others. -/
def isGap : Token → Bool
  | gap _ => true
  | _ => false

/-- Whether a token is an unquoted spelling of a keyword, given in upper case. -/
def isKeyword (token : Token) (keyword : String) : Bool :=
  match token with
  | word w => w.isKeyword keyword
  | _ => false

/-- A token as messages show it. -/
def render : Token → String
  | word w => w.render
  | number digits long => if long then digits ++ "L" else digits
  | string style content => style.opening ++ content ++ style.closing
  | dollarString none content => "$$" ++ content ++ "$$"
  | dollarString (some tag) content => "$" ++ tag ++ "$" ++ content ++ "$" ++ tag ++ "$"
  | placeholder text => text
  | symbol text => text
  | gap .space => " "
  | gap .newline => "\n"
  | gap .tab => "\t"
  | gap (.lineComment mark text) => mark ++ text
  | gap (.blockComment text) => "/*" ++ text ++ "*/"

end Token

/-- A token with the place where it begins and the place that follows it. -/
structure PlacedToken where
  token : Token
  first : Location
  past : Location
  deriving DecidableEq, Repr, Inhabited

end TableCatalog
