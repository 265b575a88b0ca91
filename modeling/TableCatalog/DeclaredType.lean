import TableCatalog.Text.Blank
import TableCatalog.Text.Casing
import TableCatalog.Text.Letter

/-!
# Declared types

A column's type is reported as it stands in the script. It begins at the first
character after the name that is not blank and ends before a separator or a closing
bracket outside all brackets, before a word that begins an option of the column, or
before a comment. Brackets of any kind nest in each other, and quoted text is taken
whole.
-/

namespace TableCatalog.DeclaredType

/-- The words that begin an option of a column. -/
def optionWords : List (List Char) :=
  ["ALIAS", "AS", "AUTOINCREMENT", "AUTO_INCREMENT", "CHARSET", "CHECK", "CODEC", "COLLATE",
    "COMMENT", "CONSTRAINT", "DEFAULT", "ENCODE", "EPHEMERAL", "GENERATED", "IDENTITY",
    "MATERIALIZED", "NOT", "NULL", "ON", "OPTIONS", "PRIMARY", "REFERENCES", "TTL",
    "UNIQUE"].map String.toList

/-- The blanks that may stand inside a type. -/
def isSpace (c : Char) : Bool :=
  c == ' ' || c == '\t' || c == '\r' || c == '\n'

/-- The characters of words. -/
def isWordPart (c : Char) : Bool :=
  c == '_' || Text.isAsciiAlphanum c

/-- The marks of quoted text. -/
def isQuote (c : Char) : Bool :=
  c == '\'' || c == '"' || c == '\x60'

/-- The brackets that open a group. -/
def isOpening (c : Char) : Bool :=
  c == '(' || c == '[' || c == '<'

/-- The brackets that close a group; any of them closes any group. -/
def isClosing (c : Char) : Bool :=
  c == ')' || c == ']' || c == '>'

/-- The marks that end a type outside all brackets. -/
def isSeparator (c : Char) : Bool :=
  c == ',' || c == ';'

/-- Whether a comment begins with a character, given the text that follows it. -/
def opensComment (c : Char) (rest : List Char) : Bool :=
  (c == '-' && rest.head? == some '-') || (c == '/' && rest.head? == some '*')

/-- Whether a word begins an option of a column, given the text that follows it. The
word `CHARACTER` does so before `SET`; before other words it is a type. -/
def opensOption (word rest : List Char) : Bool :=
  optionWords.contains (Text.asciiUpper word) ||
    (Text.asciiUpper word == "CHARACTER".toList &&
      Text.asciiUpper ((Text.trimStart rest).take 3) == "SET".toList)

/-- The quoted text after an opening quote, its closing quote included, and what
follows it. A doubled quote stays inside; without a closing quote all of the text is
quoted. -/
def quoted (quote : Char) : List Char → List Char × List Char
  | [] => ([], [])
  | [c] => ([c], [])
  | c :: d :: rest =>
    if c == quote then
      if d == quote then
        let (inside, after) := quoted quote rest
        (c :: d :: inside, after)
      else ([c], d :: rest)
    else
      let (inside, after) := quoted quote (d :: rest)
      (c :: inside, after)

/-- Nothing of the text is lost at a quote. -/
theorem quoted_append (quote : Char) (text : List Char) :
    (quoted quote text).1 ++ (quoted quote text).2 = text := by
  fun_induction quoted quote text <;> simp_all

/-- What follows quoted text is no longer than the text. -/
theorem length_quoted_snd_le (quote : Char) (text : List Char) :
    (quoted quote text).2.length ≤ text.length := by
  have whole := congrArg List.length (quoted_append quote text)
  rw [List.length_append] at whole
  omega

/-- The type at the head of a text, with `depth` brackets open; blanks belong to it
only before something else that does. -/
def scan (depth : Nat) : List Char → List Char
  | [] => []
  | c :: rest =>
    if isSpace c then
      match scan depth rest with
      | [] => []
      | more => c :: more
    else if isQuote c then c :: ((quoted c rest).1 ++ scan depth (quoted c rest).2)
    else if isOpening c then c :: scan (depth + 1) rest
    else if isClosing c then if depth = 0 then [] else c :: scan (depth - 1) rest
    else if isSeparator c && depth = 0 then []
    else if opensComment c rest then []
    else if isWordPart c then
      let word := c :: rest.takeWhile isWordPart
      let after := rest.dropWhile isWordPart
      if depth = 0 && opensOption word after then [] else word ++ scan depth after
    else c :: scan depth rest
  termination_by text => text.length
  decreasing_by
    all_goals
      have quotedLength := length_quoted_snd_le c rest
      have wordLength : (rest.dropWhile isWordPart).length ≤ rest.length :=
        (List.dropWhile_suffix isWordPart).length_le
      simp only [List.length_cons]
      omega

/-- The type declared at the head of a text. -/
def ofText (text : List Char) : List Char :=
  scan 0 (Text.trimStart text)

end TableCatalog.DeclaredType
