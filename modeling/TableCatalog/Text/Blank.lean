/-!
# Blank characters

The characters with the Unicode property `White_Space`, and what trimming them
from either end of a text leaves.
-/

namespace TableCatalog.Text

/-- The characters that Unicode calls white space. -/
def isBlank (c : Char) : Bool :=
  (0x09 ≤ c.toNat && c.toNat ≤ 0x0D) || c.toNat == 0x20 || c.toNat == 0x85 ||
    c.toNat == 0xA0 || c.toNat == 0x1680 || (0x2000 ≤ c.toNat && c.toNat ≤ 0x200A) ||
    c.toNat == 0x2028 || c.toNat == 0x2029 || c.toNat == 0x202F || c.toNat == 0x205F ||
    c.toNat == 0x3000

/-- A text without its leading blanks. -/
def trimStart (text : List Char) : List Char :=
  text.dropWhile isBlank

/-- A text without its trailing blanks. -/
def trimEnd (text : List Char) : List Char :=
  (text.reverse.dropWhile isBlank).reverse

/-- A text without the blanks at either end. -/
def trim (text : List Char) : List Char :=
  trimEnd (trimStart text)

/-- A text that holds nothing but blanks. -/
def allBlank (text : List Char) : Bool :=
  text.all isBlank

/-- Trimming the front leaves a suffix. -/
theorem trimStart_suffix (text : List Char) : trimStart text <:+ text :=
  List.dropWhile_suffix _

/-- A trimmed text does not begin with a blank. -/
theorem isBlank_head_trimStart {text : List Char} {c : Char} {rest : List Char}
    (shape : trimStart text = c :: rest) : isBlank c = false := by
  induction text with
  | nil => simp [trimStart] at shape
  | cons d tail ih =>
    by_cases blank : isBlank d = true
    · exact ih (by simpa [trimStart, blank] using shape)
    · simp only [trimStart, List.dropWhile_cons, blank] at shape
      obtain ⟨rfl, _⟩ := List.cons.inj shape
      simpa using blank

end TableCatalog.Text
