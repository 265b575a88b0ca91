/-!
# Code points

The numbers that characters are known by: all below 110000 in hexadecimal notation,
surrogates left out.
-/

namespace TableCatalog.Text

/-- The character of a code point, if it is one. -/
def scalar? (code : Nat) : Option Char :=
  if h : code.isValidChar then some (Char.ofNatAux code h) else none

/-- Every character is the character of its code point. -/
theorem scalar?_toNat (c : Char) : scalar? c.toNat = some c := by
  have valid : c.toNat.isValidChar := c.valid
  rw [scalar?, dif_pos valid]
  exact congrArg some (Char.ext (UInt32.toNat_inj.mp rfl))

end TableCatalog.Text
