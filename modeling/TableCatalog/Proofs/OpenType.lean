import TableCatalog.DeclaredType

/-!
# Types that do not end

A type is looked for in all of the text behind the name of a column. If the text ends inside
quotes or brackets, the type goes on in whatever follows the text; otherwise a terminator on the
next line ends it.
-/

namespace TableCatalog.DeclaredType

/-- Whether quoted text lacks its closing quote. -/
def quoteOpen (quote : Char) : List Char → Bool
  | [] => true
  | [c] => c != quote
  | c :: d :: rest =>
    if c == quote then if d == quote then quoteOpen quote rest else false
    else quoteOpen quote (d :: rest)

/-- Whether a text ends before the type at its head does, with `depth` brackets open. -/
def isOpen (depth : Nat) : List Char → Bool
  | [] => depth != 0
  | c :: rest =>
    if isSpace c then isOpen depth rest
    else if isQuote c then quoteOpen c rest || isOpen depth (quoted c rest).2
    else if isOpening c then isOpen (depth + 1) rest
    else if isClosing c then if depth = 0 then false else isOpen (depth - 1) rest
    else if isSeparator c && depth = 0 then false
    else if opensComment c rest then false
    else if isWordPart c then
      let word := c :: rest.takeWhile isWordPart
      let after := rest.dropWhile isWordPart
      if depth = 0 && opensOption word after then false else isOpen depth after
    else isOpen depth rest
  termination_by text => text.length
  decreasing_by
    all_goals
      have quotedLength := length_quoted_snd_le c rest
      have wordLength : (rest.dropWhile isWordPart).length ≤ rest.length :=
        (List.dropWhile_suffix isWordPart).length_le
      simp only [List.length_cons]
      omega

variable {quote : Char} {text : List Char}

/-- Quoted text that ends stays as it is before a line feed. -/
theorem quoted_append_of_closed (printed : quote ≠ '\n') (closed : quoteOpen quote text = false)
    (more : List Char) :
    quoted quote (text ++ '\n' :: more) =
      ((quoted quote text).1, (quoted quote text).2 ++ '\n' :: more) := by
  fun_induction quoted quote text with
  | case1 => simp [quoteOpen] at closed
  | case2 c =>
    obtain rfl : c = quote := by simpa [quoteOpen] using closed
    simp [quoted, Ne.symm printed]
  | case3 c d rest same twice inside after shape ih =>
    simp only [quoteOpen, same, twice, if_true] at closed
    simp [quoted, same, twice, ih closed, shape]
  | case4 c d rest same single => simp [quoted, same, single]
  | case5 c d rest other inside after shape ih =>
    simp only [quoteOpen, other, Bool.false_eq_true, if_false] at closed
    have later := ih closed
    simp only [List.cons_append] at later
    simp [quoted, other, later, shape]

theorem quoted_cons_ne_nil (quote c : Char) (rest : List Char) :
    (quoted quote (c :: rest)).1 ≠ [] := by
  cases rest with
  | nil => simp [quoted]
  | cons d rest =>
    rw [quoted]
    split
    · split <;> simp
    · simp

/-- Quoted text that does not end takes all of the text, and goes on behind a line feed. -/
theorem quoted_of_open (opened : quoteOpen quote text = true) (more : List Char) :
    quoted quote text = (text, []) ∧
      ∃ run, run ≠ [] ∧ (quoted quote (text ++ '\n' :: more)).1 = text ++ run := by
  fun_induction quoteOpen quote text with
  | case1 => exact ⟨rfl, _, quoted_cons_ne_nil quote '\n' more, rfl⟩
  | case2 c =>
    have other : (c == quote) = false := by simpa using opened
    have begins := quoted_cons_ne_nil quote '\n' more
    exact ⟨rfl, _, begins, by simp [quoted, other]⟩
  | case3 c d rest same twice ih =>
    obtain ⟨all, run, filled, longer⟩ := ih opened
    exact ⟨by simp [quoted, same, twice, all], run, filled, by simp [quoted, same, twice, longer]⟩
  | case4 => cases opened
  | case5 c d rest other ih =>
    obtain ⟨all, run, filled, longer⟩ := ih opened
    rw [List.cons_append] at longer
    exact ⟨by simp [quoted, other, all], run, filled, by simp [quoted, other, longer]⟩

/-- The word that begins a text ends before a line feed. -/
theorem takeWhile_append (text more : List Char) :
    (text ++ '\n' :: more).takeWhile isWordPart = text.takeWhile isWordPart := by
  have feed : isWordPart '\n' = false := by decide
  rw [List.takeWhile_append]
  split
  · rename_i all
    rw [List.takeWhile_cons_of_neg (by simp [feed]), List.append_nil]
    exact ((List.takeWhile_prefix isWordPart).eq_of_length all).symm
  · rfl

theorem dropWhile_append (text more : List Char) :
    (text ++ '\n' :: more).dropWhile isWordPart = text.dropWhile isWordPart ++ '\n' :: more := by
  have feed : isWordPart '\n' = false := by decide
  rw [List.dropWhile_append]
  split
  · rename_i nothing
    rw [List.dropWhile_cons_of_neg (by simp [feed]), List.isEmpty_iff.1 nothing, List.nil_append]
  · rfl

/-- What follows the blanks of a text: a terminator, if the text holds no more. -/
theorem trimStart_append (rest more : List Char) :
    Text.trimStart (rest ++ '\n' :: ';' :: more) =
      if Text.trimStart rest = [] then ';' :: more
      else Text.trimStart rest ++ '\n' :: ';' :: more := by
  have behind : ('\n' :: ';' :: more).dropWhile Text.isBlank = ';' :: more := rfl
  cases shape : Text.trimStart rest with
  | nil =>
    simp only [Text.trimStart] at shape
    simp [Text.trimStart, List.dropWhile_append, shape, behind]
  | cons c kept =>
    simp only [Text.trimStart] at shape
    simp [Text.trimStart, List.dropWhile_append, shape]

/-- A terminator on the next line makes no option of the word before it. -/
theorem opensOption_append (word rest more : List Char) :
    opensOption word (rest ++ '\n' :: ';' :: more) = opensOption word rest := by
  have feed : '\n'.toUpper = '\n' := by decide
  have terminator : ';'.toUpper = ';' := by decide
  have same : (Text.asciiUpper ((Text.trimStart (rest ++ '\n' :: ';' :: more)).take 3) ==
      "SET".toList) = (Text.asciiUpper ((Text.trimStart rest).take 3) == "SET".toList) := by
    rw [trimStart_append]
    rcases Text.trimStart rest with _ | ⟨c, _ | ⟨d, _ | ⟨e, rest⟩⟩⟩ <;>
      simp [Text.asciiUpper, feed, terminator]
  rw [opensOption, same, opensOption]

theorem opensComment_append (c : Char) (rest more : List Char) :
    opensComment c (rest ++ '\n' :: more) = opensComment c rest := by
  cases rest <;> simp [opensComment]

/-- A quote is no line feed. -/
theorem printed_of_isQuote {c : Char} (quotes : isQuote c = true) : c ≠ '\n' := by
  rintro rfl
  revert quotes
  decide

/-- A type that ends stays as it is before a terminator on the next line. -/
theorem scan_append_of_closed {depth : Nat} (closed : isOpen depth text = false)
    (more : List Char) : scan depth (text ++ '\n' :: ';' :: more) = scan depth text := by
  fun_induction isOpen depth text with
  | case1 depth =>
    obtain rfl : depth = 0 := by simpa using closed
    simp [scan, isSpace, isQuote, isOpening, isClosing, isSeparator]
  | case2 depth c rest space ih => simp [scan, space, ih closed]
  | case3 depth c rest space quotes ih =>
    obtain ⟨closed, later⟩ := Bool.or_eq_false_iff.1 closed
    have whole := quoted_append_of_closed (printed_of_isQuote quotes) closed (';' :: more)
    simp [scan, space, quotes, whole, ih later]
  | case4 depth c rest space quotes opens ih => simp [scan, space, quotes, opens, ih closed]
  | case5 c rest space quotes opens closes => simp [scan, space, quotes, opens, closes]
  | case6 depth c rest space quotes opens closes inside ih =>
    simp [scan, space, quotes, opens, closes, inside, ih closed]
  | case7 depth c rest space quotes opens closes ends =>
    simp [scan, space, quotes, opens, closes, ends]
  | case8 depth c rest space quotes opens closes goesOn comment =>
    simp [scan, space, quotes, opens, closes, goesOn, opensComment_append, comment]
  | case9 depth c rest space quotes opens closes goesOn plain word begun after option =>
    have ends : depth = 0 ∧ opensOption (c :: rest.takeWhile isWordPart)
        (rest.dropWhile isWordPart) = true := by
      simpa using option
    simp [scan, space, quotes, opens, closes, opensComment_append, plain, word, takeWhile_append,
      dropWhile_append, opensOption_append, ends]
  | case10 depth c rest space quotes opens closes goesOn plain word begun after option ih =>
    have later : scan depth (rest.dropWhile isWordPart ++ '\n' :: ';' :: more) =
        scan depth (rest.dropWhile isWordPart) := ih closed
    simp [scan, space, quotes, opens, closes, goesOn, opensComment_append, plain, word,
      takeWhile_append, dropWhile_append, opensOption_append, later]
  | case11 depth c rest space quotes opens closes goesOn plain other ih =>
    simp [scan, space, quotes, opens, closes, goesOn, opensComment_append, plain, other, ih closed]

/-- Blanks belong to a type only before something else that does. -/
theorem scan_space {c : Char} (space : isSpace c = true) (depth : Nat) (rest : List Char) :
    scan depth (c :: rest) = if scan depth rest = [] then [] else c :: scan depth rest := by
  rw [scan, if_pos space]
  split
  · rename_i nothing
    rw [if_pos nothing]
  · rename_i filled
    rw [if_neg filled]

/-- Inside brackets a terminator belongs to the type. -/
theorem scan_terminator {depth : Nat} (inside : depth ≠ 0) (more : List Char) :
    scan depth (';' :: more) = ';' :: scan depth more := by
  have space : isSpace ';' = false := by decide
  have quotes : isQuote ';' = false := by decide
  have opens : isOpening ';' = false := by decide
  have closes : isClosing ';' = false := by decide
  have comment : opensComment ';' more = false := by simp [opensComment]
  have word : isWordPart ';' = false := by decide
  simp [scan, space, quotes, opens, closes, inside, comment, word]

/-- A type that does not end takes in a terminator on the next line. -/
theorem length_scan_append_of_open {depth : Nat} (opened : isOpen depth text = true)
    (more : List Char) :
    (scan depth text).length < (scan depth (text ++ '\n' :: ';' :: more)).length := by
  fun_induction isOpen depth text with
  | case1 depth =>
    have inside : depth ≠ 0 := by simpa using opened
    rw [List.nil_append, scan_space (by decide), scan_terminator inside]
    simp [scan]
  | case2 depth c rest space ih =>
    have later := ih opened
    have filled : scan depth (rest ++ '\n' :: ';' :: more) ≠ [] := by
      intro nothing
      simp [nothing] at later
    rw [List.cons_append, scan_space space, scan_space space, if_neg filled]
    split
    · simp
    · simpa using later
  | case3 depth c rest space quotes ih =>
    cases mark : quoteOpen c rest with
    | true =>
      obtain ⟨all, run, filled, longer⟩ := quoted_of_open mark (';' :: more)
      have size := List.length_pos_iff.2 filled
      simp only [List.cons_append, scan, space, quotes, all, longer, Bool.false_eq_true, if_false,
        if_true, List.length_cons, List.length_append, List.length_nil]
      omega
    | false =>
      have later := ih (by simpa [mark] using opened)
      have whole := quoted_append_of_closed (printed_of_isQuote quotes) mark (';' :: more)
      simp only [List.cons_append, scan, space, quotes, whole, Bool.false_eq_true, if_false,
        if_true, List.length_cons, List.length_append]
      omega
  | case4 depth c rest space quotes opens ih =>
    have later := ih opened
    simpa [scan, space, quotes, opens] using later
  | case5 => cases opened
  | case6 depth c rest space quotes opens closes inside ih =>
    have later := ih opened
    simpa [scan, space, quotes, opens, closes, inside] using later
  | case7 => cases opened
  | case8 => cases opened
  | case9 => cases opened
  | case10 depth c rest space quotes opens closes goesOn plain word begun after option ih =>
    have later : (scan depth (rest.dropWhile isWordPart)).length <
        (scan depth (rest.dropWhile isWordPart ++ '\n' :: ';' :: more)).length := ih opened
    have type : ¬(depth = 0 ∧ opensOption (c :: rest.takeWhile isWordPart)
        (rest.dropWhile isWordPart) = true) := by
      simpa using option
    simpa [scan, space, quotes, opens, closes, goesOn, opensComment_append, plain, word,
      takeWhile_append, dropWhile_append, opensOption_append, type] using later
  | case11 depth c rest space quotes opens closes goesOn plain other ih =>
    have later := ih opened
    simpa [scan, space, quotes, opens, closes, goesOn, opensComment_append, plain, other]
      using later

/-- Whether the type at the head of a text goes on behind it. -/
def isOpenAt (text : List Char) : Bool :=
  isOpen 0 (Text.trimStart text)

theorem length_ofText_append_of_open (opened : isOpenAt text = true) (more : List Char) :
    (ofText text).length < (ofText (text ++ '\n' :: ';' :: more)).length := by
  unfold ofText
  rw [trimStart_append]
  split
  · rename_i nothing
    simp [isOpenAt, nothing, isOpen] at opened
  · exact length_scan_append_of_open opened more

theorem ofText_append_of_closed (closed : isOpenAt text = false) (more : List Char) :
    ofText (text ++ '\n' :: ';' :: more) = ofText text := by
  unfold ofText
  rw [trimStart_append]
  split
  · rename_i nothing
    rw [nothing]
    simp [scan, isSpace, isQuote, isOpening, isClosing, isSeparator]
  · exact scan_append_of_closed closed more

/-- Where nothing belongs to a type, it has ended. -/
theorem scan_cons_ne_nil {depth : Nat} {c : Char} {rest : List Char} (space : isSpace c = false)
    (opened : isOpen depth (c :: rest) = true) : scan depth (c :: rest) ≠ [] := by
  rw [isOpen] at opened
  rw [scan]
  simp only [space, Bool.false_eq_true, if_false] at opened ⊢
  by_cases quotes : isQuote c = true
  · simp [quotes]
  by_cases opens : isOpening c = true
  · simp [quotes, opens]
  by_cases closes : isClosing c = true
  · by_cases outside : depth = 0
    · simp [quotes, opens, closes, outside] at opened
    · simp [quotes, opens, closes, outside]
  by_cases ends : (isSeparator c && decide (depth = 0)) = true
  · simp [quotes, opens, closes, ends] at opened
  by_cases comment : opensComment c rest = true
  · simp [quotes, opens, closes, ends, comment] at opened
  by_cases word : isWordPart c = true
  · by_cases option : depth = 0 ∧ opensOption (c :: rest.takeWhile isWordPart)
        (rest.dropWhile isWordPart) = true
    · simp [quotes, opens, closes, comment, word, option] at opened
    · simp [quotes, opens, closes, ends, comment, word, option]
  · simp [quotes, opens, closes, ends, comment, word]

/-- A type that goes on behind a text has begun in it. -/
theorem ofText_ne_nil (opened : isOpenAt text = true) : ofText text ≠ [] := by
  unfold isOpenAt at opened
  unfold ofText
  cases shape : Text.trimStart text with
  | nil => simp [shape, isOpen] at opened
  | cons c rest =>
    have visible := Text.isBlank_head_trimStart shape
    have space : isSpace c = false := by
      cases space : isSpace c with
      | false => rfl
      | true =>
        have kinds : ((c = ' ' ∨ c = '\t') ∨ c = '\r') ∨ c = '\n' := by simpa [isSpace] using space
        rcases kinds with ((rfl | rfl) | rfl) | rfl <;> simp [Text.isBlank] at visible
    exact scan_cons_ne_nil space (shape ▸ opened)

end TableCatalog.DeclaredType
