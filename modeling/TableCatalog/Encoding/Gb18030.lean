import TableCatalog.Encoding.Gb18030.FourByte
import TableCatalog.Encoding.Gb18030.TwoByte
import TableCatalog.Text.Scalar

/-!
# GB18030

A character takes one, two or four bytes. ASCII stands for itself, and the byte `80`
for the sign of the euro. Two bytes are looked up in a table, four bytes are the digits
of a number in a mixed radix.
-/

namespace TableCatalog.Gb18030

/-- Whether a byte lies between two others, both included. -/
def within (low high : Nat) (byte : UInt8) : Bool :=
  low ≤ byte.toNat && byte.toNat ≤ high

/-- Whether a byte begins a longer code. -/
def isLead (byte : UInt8) : Bool :=
  within 0x81 0xFE byte

/-- Whether a byte is a digit at an even place of a four-byte code. -/
def isDigit (byte : UInt8) : Bool :=
  within 0x30 0x39 byte

/-- The character of a two-byte code. -/
def ofTwo? (a b : UInt8) : Option Char :=
  if within 0x40 0x7E b || within 0x80 0xFE b then
    let offset := if b.toNat < 0x7F then 0x40 else 0x41
    twoByteCharacters[(a.toNat - 0x81) * 190 + (b.toNat - offset)]?
  else none

/-- The number that four bytes write. -/
def number (a b c d : UInt8) : Nat :=
  (((a.toNat - 0x81) * 10 + (b.toNat - 0x30)) * 126 + (c.toNat - 0x81)) * 10 + (d.toNat - 0x30)

/-- The character of a four-byte code. -/
def ofFour? (a b c d : UInt8) : Option Char :=
  if isLead c && isDigit d then (codePoint? (number a b c d)).bind Text.scalar? else none

/-- The text that bytes write, if they write one. -/
def decode : List UInt8 → Option (List Char)
  | [] => some []
  | a :: rest =>
    if a.toNat < 0x80 then (decode rest).map (Char.ofNat a.toNat :: ·)
    else if a.toNat = 0x80 then (decode rest).map ('€' :: ·)
    else if !isLead a then none
    else
      match rest with
      | [] => none
      | b :: rest =>
        if isDigit b then
          match rest with
          | c :: d :: rest => (ofFour? a b c d).bind fun char => (decode rest).map (char :: ·)
          | _ => none
        else (ofTwo? a b).bind fun char => (decode rest).map (char :: ·)

end TableCatalog.Gb18030
