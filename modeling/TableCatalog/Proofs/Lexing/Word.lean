import TableCatalog.Proofs.Escapes
import TableCatalog.Proofs.Lexing.Quotation

/-!
# Words, and constants that a letter marks

A word goes on as far as its characters do. A letter before a quote may mark a constant of
a kind instead; what follows the letter cannot make it one later on.
-/

namespace TableCatalog.Lexer

variable (line : Bool) {grammar : Grammar} {token : Token} {after : Cursor} {style : StringStyle}
  {escapes : Bool} {place : Location}

/-- No grammar has line feeds in its words. -/
theorem continuesWord_feed (grammar : Grammar) : grammar.continuesWord '\n' = false := by
  cases grammar <;> decide

/-- A word stands after the characters it begins with in any case. -/
theorem stands_word {c : Char} (lead : List Char) {rest : List Char} {step : Cursor → Step}
    (opens : ∀ rest place, step ⟨c :: (lead ++ rest), place⟩ =
      word grammar (c :: lead).length ⟨c :: (lead ++ rest), place⟩)
    (found : step ⟨c :: (lead ++ rest), place⟩ = .ok (token, after)) :
    Stands line c step (lead ++ rest) token after := by
  obtain ⟨run, tail, shape, stands⟩ := exists_span grammar.continuesWord
    (fun _ : line = true => continuesWord_feed grammar) rest
  obtain rfl : rest = run ++ tail := shape
  have skipped (kept : List Char) (place : Location) :
      (Cursor.mk (c :: (lead ++ (run ++ kept))) place).skip (c :: lead).length =
        ⟨run ++ kept, place.after (c :: lead)⟩ := by
    rw [← List.cons_append]
    exact Cursor.skip_append place rfl
  have taken (kept : List Char) : (c :: (lead ++ kept)).take (c :: lead).length = c :: lead := by
    simp
  simp only [opens, word, skipped, taken, stands tail _ (Continues.refl line tail)] at found
  obtain ⟨rfl, rfl⟩ := Prod.mk.inj (Except.ok.inj found)
  refine ⟨lead ++ run, by simp, fun kept place continues => ?_⟩
  simp only [List.append_assoc, opens, word, skipped, taken, stands kept _ continues]
  simp [Location.after_cons, Location.after_append]

/-- Whether a letter marks the constant that follows it. -/
def marksConstant (grammar : Grammar) (c : Char) (rest : List Char) : Bool :=
  match c.toUpper with
  | 'B' => grammar.hasByteStrings && (rest.head? == some '\'' || rest.head? == some '"')
  | 'R' => grammar.hasRawStrings && (rest.head? == some '\'' || rest.head? == some '"')
  | 'N' | 'X' | 'E' => rest.head? == some '\''
  | 'U' => grammar.hasUnicodeStrings && ['&', '\''].isPrefixOf rest
  | _ => false

/-- A letter that marks no constant begins a word. -/
theorem letter_word {c : Char} {rest : List Char} {cursor : Cursor}
    (unmarked : marksConstant grammar c rest = false) :
    letter grammar c rest cursor = word grammar 1 cursor := by
  unfold letter
  split <;> simp_all [marksConstant]

variable {line} in
/-- A constant that is marked was marked before. -/
theorem marksConstant_of_continues {c : Char} {rest kept : List Char}
    (continues : Continues line rest kept) (marked : marksConstant grammar c kept = true) :
    marksConstant grammar c rest = true := by
  have single (first : kept.head? = some '\'') := continues.printed_head? (by decide) first
  have double (first : kept.head? = some '"') := continues.printed_head? (by decide) first
  have unicode := @Continues.prefix_of line rest kept continues ['&', '\''] (by decide)
  unfold marksConstant at marked ⊢
  split at marked
  case h_1 | h_2 =>
    simp only [Bool.and_eq_true, Bool.or_eq_true, beq_iff_eq] at marked ⊢
    exact ⟨marked.1, marked.2.imp single double⟩
  case h_3 | h_4 | h_5 => simpa using single (by simpa using marked)
  case h_6 =>
    simp only [Bool.and_eq_true, List.isPrefixOf_iff_prefix] at marked ⊢
    exact ⟨marked.1, unicode marked.2⟩
  case h_7 => simp at marked

/-- A letter on its own, whose step looks at what follows it. -/
def fromLetter (grammar : Grammar) (c : Char) (cursor : Cursor) : Step :=
  letter grammar c cursor.rest.tail cursor

/-- `B` before a quote marks a constant of bytes. -/
theorem fromLetter_bytes {c d : Char} (quote : d = '\'' ∨ d = '"') (upper : c.toUpper = 'B')
    (bytes : grammar.hasByteStrings = true) :
    ∃ plain long, ∀ rest place, fromLetter grammar c ⟨c :: d :: rest, place⟩ =
      constant grammar plain long d false ⟨d :: rest, place.next c⟩ := by
  rcases quote with rfl | rfl
  · exact ⟨.byteSingle, .byteTripleSingle, fun rest place => by
      simp [fromLetter, letter, upper, bytes]⟩
  · exact ⟨.byteDouble, .byteTripleDouble, fun rest place => by
      simp [fromLetter, letter, upper, bytes]⟩

/-- `R` before a quote marks a raw constant. -/
theorem fromLetter_raw {c d : Char} (quote : d = '\'' ∨ d = '"') (upper : c.toUpper = 'R')
    (raw : grammar.hasRawStrings = true) :
    ∃ plain long, ∀ rest place, fromLetter grammar c ⟨c :: d :: rest, place⟩ =
      tripleConstant plain long d false ⟨d :: rest, place.next c⟩ := by
  rcases quote with rfl | rfl
  · exact ⟨.rawSingle, .rawTripleSingle, fun rest place => by
      simp [fromLetter, letter, upper, raw]⟩
  · exact ⟨.rawDouble, .rawTripleDouble, fun rest place => by
      simp [fromLetter, letter, upper, raw]⟩

/-- `N` and `X` before a quote mark a national and a hexadecimal constant. -/
theorem fromLetter_national {c : Char} (marks : c.toUpper = 'N' ∨ c.toUpper = 'X') :
    ∃ style, ∀ rest place, fromLetter grammar c ⟨c :: '\'' :: rest, place⟩ =
      stringConstant style '\'' true (place.next c) ⟨rest, (place.next c).next '\''⟩ := by
  rcases marks with upper | upper
  · exact ⟨.national, fun rest place => by simp [fromLetter, letter, upper]⟩
  · exact ⟨.hex, fun rest place => by simp [fromLetter, letter, upper]⟩

/-- `E` before a quote marks a constant with backslash sequences. -/
theorem fromLetter_escaped {c : Char} (upper : c.toUpper = 'E') (rest : List Char)
    (place : Location) :
    fromLetter grammar c ⟨c :: '\'' :: rest, place⟩ =
      closed (Quoted.sequences (rest.length + 2) ⟨rest, (place.next c).next '\''⟩ [])
        ⟨.unterminatedEscapedString, place⟩ (.string .escaped) := by
  simp [fromLetter, letter, upper]

/-- `U&` before a quote marks a constant with Unicode escapes. -/
theorem fromLetter_unicode {c : Char} (upper : c.toUpper = 'U')
    (unicode : grammar.hasUnicodeStrings = true) (rest : List Char) (place : Location) :
    fromLetter grammar c ⟨c :: '&' :: '\'' :: rest, place⟩ =
      (Quoted.unicode (rest.length + 3) ⟨rest, ((place.next c).next '&').next '\''⟩ [] >>=
        fun found => .ok (.string .unicode (String.ofList found.1), found.2)) := by
  simp [fromLetter, letter, upper, unicode]

/-- A constant of bytes or a raw one stands. -/
theorem stands_markedQuote {c d : Char} {rest : List Char} (quote : d = '\'' ∨ d = '"')
    (marks : c.toUpper = 'B' ∧ grammar.hasByteStrings = true ∨
      c.toUpper = 'R' ∧ grammar.hasRawStrings = true)
    (found : fromLetter grammar c ⟨c :: d :: rest, place⟩ = .ok (token, after)) :
    Stands line c (fromLetter grammar c) (d :: rest) token after := by
  have printed : d ≠ '\n' := by rcases quote with rfl | rfl <;> decide
  rcases marks with ⟨upper, bytes⟩ | ⟨upper, raw⟩
  · obtain ⟨plain, long, opens⟩ := fromLetter_bytes quote upper bytes
    rw [opens] at found
    exact (stands_constant line printed found).behind opens
  · obtain ⟨plain, long, opens⟩ := fromLetter_raw quote upper raw
    rw [opens] at found
    exact (stands_tripleConstant line printed found).behind opens

/-- A national or hexadecimal constant stands. -/
theorem stands_national {c : Char} {rest : List Char} (marks : c.toUpper = 'N' ∨ c.toUpper = 'X')
    (found : fromLetter grammar c ⟨c :: '\'' :: rest, place⟩ = .ok (token, after)) :
    Stands line c (fromLetter grammar c) ('\'' :: rest) token after := by
  obtain ⟨style, opens⟩ := fromLetter_national marks
  rw [opens] at found
  obtain ⟨run, shape, gives⟩ := settled_stringConstant line (by decide) found
  refine ⟨'\'' :: run, congrArg ('\'' :: ·) shape, fun kept place continues => ?_⟩
  rw [List.cons_append, opens]
  exact gives kept _ continues _

/-- A constant with backslash sequences stands. -/
theorem stands_escaped {c : Char} {rest : List Char} (upper : c.toUpper = 'E')
    (found : fromLetter grammar c ⟨c :: '\'' :: rest, place⟩ = .ok (token, after)) :
    Stands line c (fromLetter grammar c) ('\'' :: rest) token after := by
  rw [fromLetter_escaped upper] at found
  obtain ⟨content, inside, rfl⟩ := closed_eq_ok.1 found
  obtain ⟨run, shape, gives⟩ := Quoted.settled_sequences line inside
  refine ⟨'\'' :: run, congrArg ('\'' :: ·) shape, fun kept place continues => ?_⟩
  rw [List.cons_append, fromLetter_escaped upper]
  exact closed_eq_ok.2 ⟨content, gives kept _ continues _ (by simp), rfl⟩

/-- A constant with Unicode escapes stands. -/
theorem stands_unicode {c : Char} {rest : List Char} (upper : c.toUpper = 'U')
    (unicode : grammar.hasUnicodeStrings = true)
    (found : fromLetter grammar c ⟨c :: '&' :: '\'' :: rest, place⟩ = .ok (token, after)) :
    Stands line c (fromLetter grammar c) ('&' :: '\'' :: rest) token after := by
  rw [fromLetter_unicode upper unicode] at found
  obtain ⟨⟨content, inner⟩, inside, found⟩ := bind_eq_ok.1 found
  obtain ⟨rfl, rfl⟩ := Prod.mk.inj (Except.ok.inj found)
  obtain ⟨run, shape, gives⟩ := Quoted.settled_unicode line inside
  refine ⟨'&' :: '\'' :: run, congrArg ('&' :: '\'' :: ·) shape, fun kept place continues => ?_⟩
  rw [List.cons_append, List.cons_append, fromLetter_unicode upper unicode]
  exact bind_eq_ok.2 ⟨_, gives kept _ continues _ (by simp), rfl⟩

/-- A marked constant begins with the mark and its quote. -/
inductive Marked (grammar : Grammar) (c : Char) : List Char → Prop where
  | bytes {d : Char} {rest : List Char} (upper : c.toUpper = 'B')
      (allowed : grammar.hasByteStrings = true) (quote : d = '\'' ∨ d = '"') :
      Marked grammar c (d :: rest)
  | raw {d : Char} {rest : List Char} (upper : c.toUpper = 'R')
      (allowed : grammar.hasRawStrings = true) (quote : d = '\'' ∨ d = '"') :
      Marked grammar c (d :: rest)
  | national {rest : List Char} (upper : c.toUpper = 'N' ∨ c.toUpper = 'X') :
      Marked grammar c ('\'' :: rest)
  | escaped {rest : List Char} (upper : c.toUpper = 'E') : Marked grammar c ('\'' :: rest)
  | unicode {rest : List Char} (upper : c.toUpper = 'U')
      (allowed : grammar.hasUnicodeStrings = true) : Marked grammar c ('&' :: '\'' :: rest)

/-- What marks a constant is one of the five marks. -/
theorem marked_of_marksConstant {c : Char} {rest : List Char}
    (marked : marksConstant grammar c rest = true) : Marked grammar c rest := by
  have single (first : rest.head? = some '\'') : ∃ tail, rest = '\'' :: tail :=
    List.head?_eq_some_iff.1 first
  have either (first : rest.head? = some '\'' ∨ rest.head? = some '"') :
      ∃ d tail, rest = d :: tail ∧ (d = '\'' ∨ d = '"') := by
    rcases first with first | first
    · obtain ⟨tail, rfl⟩ := List.head?_eq_some_iff.1 first
      exact ⟨_, tail, rfl, .inl rfl⟩
    · obtain ⟨tail, rfl⟩ := List.head?_eq_some_iff.1 first
      exact ⟨_, tail, rfl, .inr rfl⟩
  unfold marksConstant at marked
  split at marked
  case h_1 upper =>
    obtain ⟨bytes, quote⟩ : grammar.hasByteStrings = true ∧
        (rest.head? = some '\'' ∨ rest.head? = some '"') := by simpa using marked
    obtain ⟨d, rest, rfl, mark⟩ := either quote
    exact .bytes upper bytes mark
  case h_2 upper =>
    obtain ⟨raw, quote⟩ : grammar.hasRawStrings = true ∧
        (rest.head? = some '\'' ∨ rest.head? = some '"') := by simpa using marked
    obtain ⟨d, rest, rfl, mark⟩ := either quote
    exact .raw upper raw mark
  case h_3 upper =>
    obtain ⟨rest, rfl⟩ := single (by simpa using marked)
    exact .national (.inl upper)
  case h_4 upper =>
    obtain ⟨rest, rfl⟩ := single (by simpa using marked)
    exact .national (.inr upper)
  case h_5 upper =>
    obtain ⟨rest, rfl⟩ := single (by simpa using marked)
    exact .escaped upper
  case h_6 upper =>
    obtain ⟨unicode, tail, rfl⟩ : grammar.hasUnicodeStrings = true ∧ ['&', '\''] <+: rest := by
      simpa using marked
    exact .unicode upper unicode
  case h_7 => simp at marked

/-- What a letter begins stands: a word, or the constant that it marks. -/
theorem stands_letter {c : Char} {rest : List Char}
    (found : fromLetter grammar c ⟨c :: rest, place⟩ = .ok (token, after)) :
    Stands line c (fromLetter grammar c) rest token after := by
  by_cases marked : marksConstant grammar c rest = true
  · cases marked_of_marksConstant marked with
    | bytes upper allowed quote => exact stands_markedQuote line quote (.inl ⟨upper, allowed⟩) found
    | raw upper allowed quote => exact stands_markedQuote line quote (.inr ⟨upper, allowed⟩) found
    | national upper => exact stands_national line upper found
    | escaped upper => exact stands_escaped line upper found
    | unicode upper allowed => exact stands_unicode line upper allowed found
  · have unmarked : marksConstant grammar c rest = false := by simpa using marked
    have wordly : word grammar 1 ⟨c :: rest, place⟩ = .ok (token, after) := by
      rw [← letter_word unmarked]
      exact found
    refine (stands_word line [] (fun _ _ => rfl) wordly).congr fun kept place continues => ?_
    refine letter_word ?_
    cases there : marksConstant grammar c kept with
    | false => exact there
    | true => exact absurd (marksConstant_of_continues continues there) marked

end TableCatalog.Lexer
