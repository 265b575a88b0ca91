import TableCatalog.Text.Scalar

/-!
# UTF-16

A character takes one unit of two bytes or a pair of surrogates. A surrogate without
its partner is no character.
-/

namespace TableCatalog.Utf16

/-- Which byte of a unit comes first. -/
inductive ByteOrder where
  | little
  | big
  deriving DecidableEq, Repr

/-- The unit that two bytes write. -/
def unit (order : ByteOrder) (first second : UInt8) : Nat :=
  match order with
  | .little => second.toNat * 256 + first.toNat
  | .big => first.toNat * 256 + second.toNat

/-- The units that bytes write; none if a byte is left over. -/
def units? (order : ByteOrder) : List UInt8 → Option (List Nat)
  | [] => some []
  | [_] => none
  | first :: second :: rest => (units? order rest).map (unit order first second :: ·)

/-- Whether a unit is the first of a pair. -/
def isHigh (unit : Nat) : Bool :=
  0xD800 ≤ unit && unit < 0xDC00

/-- Whether a unit is the second of a pair. -/
def isLow (unit : Nat) : Bool :=
  0xDC00 ≤ unit && unit < 0xE000

/-- The text that units write, if they write one. -/
def ofUnits? : List Nat → Option (List Char)
  | [] => some []
  | high :: rest =>
    if isHigh high then
      match rest with
      | low :: rest =>
        if isLow low then
          (Text.scalar? (0x10000 + (high - 0xD800) * 0x400 + (low - 0xDC00))).bind fun c =>
            (ofUnits? rest).map (c :: ·)
        else none
      | [] => none
    else (Text.scalar? high).bind fun c => (ofUnits? rest).map (c :: ·)

/-- The text that bytes write, if they write one. -/
def decode (order : ByteOrder) (bytes : List UInt8) : Option (List Char) :=
  (units? order bytes).bind ofUnits?

end TableCatalog.Utf16
