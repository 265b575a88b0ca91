import TableCatalog.Location

/-!
# Lexical faults

Why a text cannot be divided into tokens, and where the fault is reported: at the
opening mark for quoted text, at the end of the text for comments and dollar quotes.
-/

namespace TableCatalog

/-- The ways in which a text fails to be a sequence of tokens. -/
inductive LexicalCause where
  | unterminatedString
  | unterminatedEscapedString
  | unterminatedUnicodeString
  | unterminatedDollarString
  | unterminatedTaggedDollarString
  | unterminatedComment
  | missingClosingMark (mark : Char)
  | missingNestedMark (mark : Char)
  | truncatedUnicodeEscape
  | badUnicodeDigit (digit : Char)
  | badUnicodeScalar (code : Nat)
  deriving DecidableEq, Repr

/-- A code point in lower-case hexadecimal. -/
def hexadecimal (code : Nat) : String :=
  String.ofList (Nat.toDigits 16 code)

namespace LexicalCause

/-- The wording of a cause. -/
def message : LexicalCause → String
  | unterminatedString => "Unterminated string literal"
  | unterminatedEscapedString => "Unterminated encoded string literal"
  | unterminatedUnicodeString => "Unterminated unicode encoded string literal"
  | unterminatedDollarString => "Unterminated dollar-quoted string"
  | unterminatedTaggedDollarString => "Unterminated dollar-quoted, expected $"
  | unterminatedComment => "Unexpected EOF while in a multi-line comment"
  | missingClosingMark mark => s!"Expected close delimiter '{mark}' before EOF."
  | missingNestedMark mark => s!"Expected nested delimiter '{mark}' before EOF."
  | truncatedUnicodeEscape => "Unexpected EOF while parsing hex digit in escaped unicode string."
  | badUnicodeDigit digit => s!"Invalid hex digit in escaped unicode string: {digit}"
  | badUnicodeScalar code => s!"Invalid unicode character: {hexadecimal code}"

end LexicalCause

/-- A cause with the place where it is reported. -/
structure LexicalFault where
  cause : LexicalCause
  place : Location
  deriving DecidableEq, Repr

/-- The wording of a fault: its cause, then its place. -/
def LexicalFault.message (fault : LexicalFault) : String :=
  fault.cause.message ++ fault.place.ending

end TableCatalog
