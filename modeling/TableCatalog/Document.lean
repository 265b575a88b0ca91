/-!
# JSON documents

The documents that tables are written as, and their two layouts: the compact one has
no blanks outside text, the indented one has a line for each item and each member.
-/

namespace TableCatalog

mutual

/-- A document. -/
inductive Document where
  | null
  | bool (value : Bool)
  | text (value : String)
  | list (items : List Document)
  | record (members : List Member)

/-- A member of a record. -/
inductive Member where
  | mk (key : String) (value : Document)

end

namespace Document

/-- The lower-case hexadecimal digit of a number below sixteen. -/
def hexDigit (value : Nat) : Char :=
  if value < 10 then Char.ofNat (48 + value) else Char.ofNat (87 + value)

/-- A character inside quotes: only the quote, the backslash and the control characters
below the blank are escaped. -/
def escape (c : Char) : List Char :=
  match c with
  | '"' => ['\\', '"']
  | '\\' => ['\\', '\\']
  | '\x08' => ['\\', 'b']
  | '\t' => ['\\', 't']
  | '\n' => ['\\', 'n']
  | '\x0c' => ['\\', 'f']
  | '\r' => ['\\', 'r']
  | _ =>
    if c.toNat < 0x20 then
      ['\\', 'u', '0', '0', hexDigit (c.toNat / 16), hexDigit (c.toNat % 16)]
    else [c]

/-- A text in quotes. -/
def quote (text : String) : List Char :=
  '"' :: (text.toList.flatMap escape ++ ['"'])

/-- The name of a truth value. -/
def boolName (value : Bool) : List Char :=
  if value then ['t', 'r', 'u', 'e'] else ['f', 'a', 'l', 's', 'e']

/-- The name of the value that is absent. -/
def nullName : List Char :=
  ['n', 'u', 'l', 'l']

mutual

/-- A document without blanks outside text. -/
def compact : Document → List Char
  | null => nullName
  | bool value => boolName value
  | text value => quote value
  | list [] => ['[', ']']
  | list (first :: rest) => '[' :: (compact first ++ compactItems rest)
  | record [] => ['\x7b', '\x7d']
  | record (first :: rest) => '\x7b' :: (compactMember first ++ compactMembers rest)

/-- The items after the first one, through the closing bracket. -/
def compactItems : List Document → List Char
  | [] => [']']
  | item :: rest => ',' :: (compact item ++ compactItems rest)

/-- A member of a record. -/
def compactMember : Member → List Char
  | .mk key value => quote key ++ ':' :: compact value

/-- The members after the first one, through the closing brace. -/
def compactMembers : List Member → List Char
  | [] => ['\x7d']
  | member :: rest => ',' :: (compactMember member ++ compactMembers rest)

end

/-- A new line at a depth of indentation. -/
def newLine (depth : Nat) : List Char :=
  '\n' :: List.replicate (2 * depth) ' '

mutual

/-- A document with a line for each item and each member, at a depth of indentation. -/
def indented (depth : Nat) : Document → List Char
  | null => nullName
  | bool value => boolName value
  | text value => quote value
  | list [] => ['[', ']']
  | list (first :: rest) =>
    '[' :: (newLine (depth + 1) ++ indented (depth + 1) first ++ indentedItems depth rest)
  | record [] => ['\x7b', '\x7d']
  | record (first :: rest) =>
    '\x7b' :: (newLine (depth + 1) ++ indentedMember (depth + 1) first ++
      indentedMembers depth rest)

/-- The items after the first one, through the closing bracket. -/
def indentedItems (depth : Nat) : List Document → List Char
  | [] => newLine depth ++ [']']
  | item :: rest =>
    ',' :: (newLine (depth + 1) ++ indented (depth + 1) item ++ indentedItems depth rest)

/-- A member of a record. -/
def indentedMember (depth : Nat) : Member → List Char
  | .mk key value => quote key ++ ':' :: ' ' :: indented depth value

/-- The members after the first one, through the closing brace. -/
def indentedMembers (depth : Nat) : List Member → List Char
  | [] => newLine depth ++ ['\x7d']
  | member :: rest =>
    ',' :: (newLine (depth + 1) ++ indentedMember (depth + 1) member ++
      indentedMembers depth rest)

end

/-- The compact text of a document. -/
def toText (document : Document) : String :=
  String.ofList document.compact

/-- The indented text of a document. -/
def toLines (document : Document) : String :=
  String.ofList (document.indented 0)

end Document

end TableCatalog
