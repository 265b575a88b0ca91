import TableCatalog.Text.Blank
import TableCatalog.Text.Letter

/-!
# Line marks

The line that a message names: the number after the leftmost `Line:` that a number
follows. Blanks may stand between them. A number in other digits than the ASCII ones,
or too large for 64 bits, is not understood.
-/

namespace TableCatalog.Text

/-- What announces the number of a line. -/
def lineLabel : List Char :=
  ['L', 'i', 'n', 'e', ':']

/-- The digits of the number that follows a label at the head of a text, if any. -/
def digitsAfterLabel (text : List Char) : List Char :=
  if lineLabel.isPrefixOf text then (trimStart (text.drop lineLabel.length)).takeWhile isDecimal
  else []

/-- The digits of the leftmost number that a label announces, if any. -/
def markedDigits : List Char → List Char
  | [] => []
  | c :: rest =>
    match digitsAfterLabel (c :: rest) with
    | [] => markedDigits rest
    | digits => digits

/-- The number that ASCII digits write. -/
def decimalValue (digits : List Char) : Nat :=
  digits.foldl (fun value c => value * 10 + (c.toNat - 48)) 0

/-- The number that digits write, if they are ASCII digits and it fits in 64 bits. -/
def lineNumber? (digits : List Char) : Option Nat :=
  if digits.isEmpty || !digits.all Char.isDigit then none
  else
    let value := decimalValue digits
    if value < UInt64.size then some value else none

/-- The line that a message names. -/
def markedLine? (message : List Char) : Option Nat :=
  lineNumber? (markedDigits message)

end TableCatalog.Text
