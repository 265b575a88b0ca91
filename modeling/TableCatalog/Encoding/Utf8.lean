import TableCatalog.Text.Scalar

/-!
# UTF-8

A character takes one to four bytes. A form longer than the character needs, a
surrogate, and a number above the last code point are no characters.
-/

namespace TableCatalog.Utf8

/-- The six bits of a byte that continues a character, if it is such a byte. -/
def continuation? (byte : UInt8) : Option Nat :=
  if 0x80 ≤ byte.toNat && byte.toNat < 0xC0 then some (byte.toNat - 0x80) else none

/-- The character of a code point that needs a form of its length. -/
def scalarFrom? (least code : Nat) : Option Char :=
  if least ≤ code then Text.scalar? code else none

/-- The character that two bytes write. -/
def ofTwo? (a b : UInt8) : Option Char := do
  scalarFrom? 0x80 ((a.toNat - 0xC0) * 64 + (← continuation? b))

/-- The character that three bytes write. -/
def ofThree? (a b c : UInt8) : Option Char := do
  scalarFrom? 0x800
    (((a.toNat - 0xE0) * 64 + (← continuation? b)) * 64 + (← continuation? c))

/-- The character that four bytes write. -/
def ofFour? (a b c d : UInt8) : Option Char := do
  scalarFrom? 0x10000
    ((((a.toNat - 0xF0) * 64 + (← continuation? b)) * 64 + (← continuation? c)) * 64 +
      (← continuation? d))

/-- The text that bytes write, if they write one. -/
def decode : List UInt8 → Option (List Char)
  | [] => some []
  | a :: rest =>
    if a.toNat < 0x80 then (decode rest).map (Char.ofNat a.toNat :: ·)
    else if a.toNat < 0xC0 then none
    else if a.toNat < 0xE0 then
      match rest with
      | b :: rest => (ofTwo? a b).bind fun char => (decode rest).map (char :: ·)
      | _ => none
    else if a.toNat < 0xF0 then
      match rest with
      | b :: c :: rest => (ofThree? a b c).bind fun char => (decode rest).map (char :: ·)
      | _ => none
    else if a.toNat < 0xF8 then
      match rest with
      | b :: c :: d :: rest => (ofFour? a b c d).bind fun char => (decode rest).map (char :: ·)
      | _ => none
    else none

end TableCatalog.Utf8
