/-!
# Upper case

Words are compared without regard to case. Two notions are needed: the ASCII one,
which changes `a` to `z` alone, and the one that finds keywords, which also knows
the few characters whose upper case is spelled in ASCII letters.
-/

namespace TableCatalog.Text

/-- The upper case of one character as far as it is spelled in ASCII letters. -/
def keywordUpper (c : Char) : List Char :=
  match c with
  | 'ß' => ['S', 'S']
  | 'ı' => ['I']
  | 'ſ' => ['S']
  | 'ﬀ' => ['F', 'F']
  | 'ﬁ' => ['F', 'I']
  | 'ﬂ' => ['F', 'L']
  | 'ﬃ' => ['F', 'F', 'I']
  | 'ﬄ' => ['F', 'F', 'L']
  | 'ﬅ' => ['S', 'T']
  | 'ﬆ' => ['S', 'T']
  | _ => [c.toUpper]

/-- The spelling under which an unquoted word is looked up as a keyword. -/
def keywordKey (word : String) : String :=
  String.ofList (word.toList.flatMap keywordUpper)

/-- ASCII upper case, all other characters kept. -/
def asciiUpper (text : List Char) : List Char :=
  text.map Char.toUpper

/-- ASCII lower case, all other characters kept. -/
def asciiLower (text : List Char) : List Char :=
  text.map Char.toLower

/-- Upper case keeps the number of characters. -/
theorem length_asciiUpper (text : List Char) : (asciiUpper text).length = text.length :=
  List.length_map _

end TableCatalog.Text
