import TableCatalog.Encoding.Gb18030
import TableCatalog.Encoding.Utf16
import TableCatalog.Encoding.Utf8

/-!
# The text of a script's bytes

Bytes are UTF-8 if they can be. If not, a byte order mark tells the encoding, and
without one they are GB18030. A byte order mark that is left at the head of the text
is not part of it.
-/

namespace TableCatalog.Encoding

/-- The character that marks the order of bytes. -/
def byteOrderMark : Char := '\uFEFF'

/-- A text without a byte order mark at its head. -/
def withoutMark : List Char → List Char
  | [] => []
  | c :: rest => if c = byteOrderMark then rest else c :: rest

/-- The text of bytes that are no UTF-8, in the encoding that their mark tells. -/
def decodeMarked : List UInt8 → Option (List Char)
  | 0xEF :: 0xBB :: 0xBF :: rest => Utf8.decode rest
  | 0xFF :: 0xFE :: rest => Utf16.decode .little rest
  | 0xFE :: 0xFF :: rest => Utf16.decode .big rest
  | bytes => Gb18030.decode bytes

/-- The text of a script, if its bytes have one. -/
def decode (bytes : List UInt8) : Option String :=
  ((Utf8.decode bytes <|> decodeMarked bytes).map withoutMark).map String.ofList

end TableCatalog.Encoding
