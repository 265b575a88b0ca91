import TableCatalog.Location

/-!
# Names

Identifiers as they stand in a script, names of several parts, and the plain text
under which a name is reported, which no longer shows how it was quoted.
-/

namespace TableCatalog

/-- Text between quotes, with the quotes inside it doubled. A quote that is already
doubled, or that follows a backslash, is kept; after a kept one the backslash is still
the character remembered. -/
def escapeQuoted (quote : Char) : Char → List Char → List Char
  | _, [] => []
  | before, [c] => if c == quote && before != '\\' then [c, c] else [c]
  | before, c :: d :: rest =>
    if c == quote then
      if before == '\\' then c :: escapeQuoted quote before (d :: rest)
      else if d == quote then c :: d :: escapeQuoted quote c rest
      else c :: c :: escapeQuoted quote c (d :: rest)
    else c :: escapeQuoted quote c (d :: rest)

/-- A text with its single quotes doubled. -/
def escapeText (text : String) : String :=
  String.ofList (escapeQuoted '\'' '\x00' text.toList)

/-- A text constant in single quotes. -/
def quoteText (text : String) : String :=
  "'" ++ escapeText text ++ "'"

/-- An identifier: its text, the opening quote if it has one, and the place that
follows it if that is known. -/
structure Identifier where
  text : String
  quote : Option Char
  past : Location
  deriving DecidableEq, Repr, Inhabited

namespace Identifier

/-- An identifier without quotes and place. -/
def plain (text : String) : Identifier :=
  ⟨text, none, Location.none⟩

/-- An identifier as it is written. -/
def render (name : Identifier) : String :=
  match name.quote with
  | none => name.text
  | some quote =>
    if quote == '[' then "[" ++ name.text ++ "]"
    else
      quote.toString ++ String.ofList (escapeQuoted quote '\x00' name.text.toList) ++ quote.toString

end Identifier

/-- An identifier with its place put elsewhere. -/
def Identifier.relocate (put : Location → Location) (name : Identifier) : Identifier :=
  { name with past := put name.past }

/-- A name of one or more parts. -/
abbrev ObjectName := List Identifier

/-- A name as it is written, its parts joined by dots. -/
def ObjectName.render (name : ObjectName) : String :=
  ".".intercalate (name.map Identifier.render)

/-- A text without the characters that quote identifiers. -/
def withoutIdentifierQuotes (text : String) : String :=
  String.ofList (text.toList.filter fun c => c != '\x60' && c != '"')

/-- A text without the character that quotes constants. -/
def withoutConstantQuotes (text : String) : String :=
  String.ofList (text.toList.filter (· != '\''))

/-- The text under which an identifier is reported. -/
def Identifier.normalized (name : Identifier) : String :=
  withoutIdentifierQuotes name.render

/-- The text under which a name is reported. -/
def ObjectName.normalized (name : ObjectName) : String :=
  withoutIdentifierQuotes name.render

end TableCatalog
