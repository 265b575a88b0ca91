import TableCatalog.Catalog
import TableCatalog.Proofs.DeclaredColumns
import TableCatalog.Proofs.Tables
import TableCatalog.Proofs.TypeReach

/-!
# Options that leak into types

The scan for a type has its own list of words that begin options, and the grammars have theirs.
The scan lets some of their words pass, and it knows a word only as it is spelled in ASCII. Then
the options become a part of the type; they do so as well behind a type that the scan finds open.
-/

namespace TableCatalog

/-- Whatever the scan takes for a part of a word is one in every grammar. -/
theorem Grammar.continuesWord_of_isWordPart {c : Char} (grammar : Grammar)
    (part : DeclaredType.isWordPart c = true) : grammar.continuesWord c = true := by
  have kinds : c = '_' ∨ c.isAlpha = true ∨ c.isDigit = true := by
    simpa [DeclaredType.isWordPart, Text.isAsciiAlphanum] using part
  rcases kinds with rfl | alpha | digit
  · cases grammar <;> decide +kernel
  · have letter := Text.isLetter_of_isAlpha alpha
    cases grammar <;>
      simp [Grammar.continuesWord, Grammar.startsWord, Text.isAsciiAlphanum, alpha, letter]
  · cases grammar <;> simp [Grammar.continuesWord, Text.isAsciiAlphanum, digit]

namespace Text

/-- The characters beyond ASCII whose upper case is spelled in ASCII letters. -/
def foreignLetters : List Char :=
  ['ß', 'ı', 'ſ', 'ﬀ', 'ﬁ', 'ﬂ', 'ﬃ', 'ﬄ', 'ﬅ', 'ﬆ']

theorem keywordUpper_eq {c : Char} (native : c ∉ foreignLetters) : keywordUpper c = [c.toUpper] := by
  unfold keywordUpper
  split
  case h_11 => rfl
  all_goals exact absurd (by decide) native

end Text

namespace DeclaredType

open ColumnDefinition (optionKeys)

variable {grammar : Grammar} {c d : Char} {depth depth' : Nat}
  {text rest piece word after type sep : List Char}

/-- The words that begin an option or a collation in some grammar. -/
def allKeys : List String :=
  ColumnDefinition.commonKeys ++ [Grammar.generic, .snowflake].flatMap ColumnDefinition.furtherKeys

theorem mem_allKeys {key : String} (listed : key ∈ optionKeys grammar) : key ∈ allKeys := by
  have part : optionKeys grammar ⊆ allKeys := by cases grammar <;> decide
  exact part listed

/-- The words of the grammars for options and collations that the scan does not know. -/
def unknownKeys : List String :=
  ["ASC", "DESC", "MASKING", "PROJECTION", "TAG", "WITH"]

/-- That a word for options ends the scan for a type, given the text that follows it. -/
structure EndsType (word after : List Char) : Prop where
  ascii : ∀ c ∈ word, isWordPart c = true
  known : Text.keywordKey (String.ofList word) ∉ unknownKeys
  set : Text.keywordKey (String.ofList word) = "CHARACTER" →
    Text.asciiUpper ((Text.trimStart after).take 3) = "SET".toList

instance (word after : List Char) : Decidable (EndsType word after) :=
  decidable_of_iff
    ((∀ c ∈ word, isWordPart c = true) ∧ Text.keywordKey (String.ofList word) ∉ unknownKeys ∧
      (Text.keywordKey (String.ofList word) = "CHARACTER" →
        Text.asciiUpper ((Text.trimStart after).take 3) = "SET".toList))
    ⟨fun ⟨ascii, known, set⟩ => ⟨ascii, known, set⟩, fun ends => ⟨ends.ascii, ends.known, ends.set⟩⟩

section Words

/-- The characters of a word for options are parts of words, but for a few beyond ASCII. -/
theorem isWordPart_or_foreign (listed : Text.keywordKey (String.ofList word) ∈ optionKeys grammar) :
    ∀ c ∈ word, isWordPart c = true ∨ c ∈ Text.foreignLetters := by
  have spelling : ∀ key ∈ allKeys, ∀ d ∈ key.toList, isWordPart d = true := by decide
  intro c inside
  by_cases native : c ∈ Text.foreignLetters
  · exact .inr native
  · refine .inl (isWordPart_of_toUpper (spelling _ (mem_allKeys listed) _ ?_))
    simp only [Text.keywordKey, String.toList_ofList, List.mem_flatMap]
    exact ⟨c, inside, by simp [Text.keywordUpper_eq native]⟩

theorem native_of_isWordPart (part : isWordPart c = true) : c ∉ Text.foreignLetters := by
  have other : ∀ c ∈ Text.foreignLetters, isWordPart c = false := by decide
  intro foreign
  rw [other c foreign] at part
  cases part

/-- In ASCII the key of a word is its upper case. -/
theorem keywordKey_of_parts (parts : ∀ c ∈ word, isWordPart c = true) :
    (Text.keywordKey (String.ofList word)).toList = Text.asciiUpper word := by
  simp only [Text.keywordKey, String.toList_ofList, Text.asciiUpper]
  induction word with
  | nil => rfl
  | cons c word ih =>
    obtain ⟨part, parts⟩ := List.forall_mem_cons.1 parts
    rw [List.flatMap_cons, ih parts, Text.keywordUpper_eq (native_of_isWordPart part), List.map_cons]
    rfl

/-- Some word begins behind the type. -/
theorem exists_cons_of_listed (listed : Text.keywordKey (String.ofList word) ∈ optionKeys grammar) :
    ∃ c run, word = c :: run ∧ Text.isBlank c = false ∧ c.toUpper ≠ 'S' := by
  cases word with
  | nil => exact absurd listed (ColumnDefinition.empty_not_mem_optionKeys grammar)
  | cons c run =>
    refine ⟨c, run, rfl, ?_⟩
    have heads : ∀ key ∈ allKeys, key.toList.head? ≠ some 'S' := by decide
    have facts : ∀ c ∈ Text.foreignLetters, Text.isBlank c = false ∧ c.toUpper ≠ 'S' := by decide
    rcases isWordPart_or_foreign listed c List.mem_cons_self with part | foreign
    · refine ⟨isBlank_of_isWordPart part, fun first => heads _ (mem_allKeys listed) ?_⟩
      simp [Text.keywordKey, Text.keywordUpper_eq (native_of_isWordPart part), first]
    · exact facts c foreign

end Words

section Scanning

/-- A character beyond ASCII belongs to the type. -/
theorem scan_foreign_ne_nil (foreign : c ∈ Text.foreignLetters) (depth : Nat) (rest : List Char) :
    scan depth (c :: rest) ≠ [] := by
  have kinds : ∀ c ∈ Text.foreignLetters, isSpace c = false ∧ isQuote c = false ∧
      isOpening c = false ∧ isClosing c = false ∧ isSeparator c = false ∧ isWordPart c = false ∧
        c ≠ '-' ∧ c ≠ '/' := by
    decide
  obtain ⟨space, quotes, opens, closes, ends, part, hyphen, slash⟩ := kinds c foreign
  have pass : Pass depth (c :: rest) [c] depth rest :=
    .other space quotes opens closes (by simp [ends]) (by simp [opensComment, hyphen, slash]) part
  exact pass.scan_ne_nil (by simp [space])

/-- The scan knows the words for options in ASCII, but for some of them. -/
theorem opensOption_iff (listed : Text.keywordKey (String.ofList word) ∈ optionKeys grammar)
    (parts : ∀ c ∈ word, isWordPart c = true) :
    opensOption word after = true ↔ EndsType word after := by
  have lists : ∀ key ∈ allKeys, key.toList ∈ optionWords ↔ key ∉ "CHARACTER" :: unknownKeys := by
    decide
  have key := keywordKey_of_parts parts
  have set : Text.asciiUpper word = "CHARACTER".toList ↔
      Text.keywordKey (String.ofList word) = "CHARACTER" := by
    rw [← key, String.toList_inj]
  simp only [opensOption, Bool.or_eq_true, Bool.and_eq_true, List.contains_iff_mem, beq_iff_eq, set]
  rw [← key, lists _ (mem_allKeys listed)]
  have apart : "CHARACTER" ∉ unknownKeys := by decide
  constructor
  · rintro (other | ⟨character, follows⟩)
    · rw [List.mem_cons, not_or] at other
      exact ⟨parts, other.2, fun character => absurd character other.1⟩
    · exact ⟨parts, character ▸ apart, fun _ => follows⟩
  · rintro ⟨-, known, follows⟩
    by_cases character : Text.keywordKey (String.ofList word) = "CHARACTER"
    · exact .inr ⟨character, follows character⟩
    · exact .inl (by simp [character, known])

/-- A part of a word in ASCII before a character beyond it begins no option. -/
theorem opensOption_of_foreign {run more : List Char} (foreign : c ∈ Text.foreignLetters)
    (parts : ∀ d ∈ run, isWordPart d = true)
    (listed : Text.keywordKey (String.ofList (run ++ c :: more)) ∈ optionKeys grammar)
    (rest : List Char) : opensOption run rest = false := by
  -- No such word goes on with the letters that a character beyond ASCII stands for.
  have heads : ∀ c ∈ Text.foreignLetters, ∃ d ∈ ['S', 'I', 'F'], [d] <+: Text.keywordUpper c := by
    decide
  have apart : ∀ key ∈ allKeys, ∀ known ∈ "CHARACTER".toList :: optionWords,
      ∀ d ∈ ['S', 'I', 'F'], ¬known ++ [d] <+: key.toList := by
    decide +kernel
  obtain ⟨d, inside, part⟩ := heads c foreign
  have begins : Text.asciiUpper run ++ [d] <+:
      (Text.keywordKey (String.ofList (run ++ c :: more))).toList := by
    obtain ⟨tail, shape⟩ := part
    have first := keywordKey_of_parts parts
    simp only [Text.keywordKey, String.toList_ofList] at first ⊢
    rw [List.flatMap_append, first, List.flatMap_cons, ← shape]
    exact ⟨tail ++ more.flatMap Text.keywordUpper, by simp⟩
  refine Bool.eq_false_iff.2 fun option => ?_
  simp only [opensOption, Bool.or_eq_true, Bool.and_eq_true, List.contains_iff_mem, beq_iff_eq]
    at option
  have known : Text.asciiUpper run ∈ "CHARACTER".toList :: optionWords := by
    rcases option with other | ⟨character, -⟩
    · exact List.mem_cons_of_mem _ other
    · exact character ▸ List.mem_cons_self
  exact apart _ (mem_allKeys listed) _ known d inside begins

/-- The words of a grammar for options end the scan outside all brackets, but for those that it
does not know. -/
theorem scan_option_iff (listed : Text.keywordKey (String.ofList word) ∈ optionKeys grammar)
    (ends : ∀ c ∈ after.head?, isWordPart c = false) (depth : Nat) :
    scan depth (word ++ after) = [] ↔ depth = 0 ∧ EndsType word after := by
  have filled : word ≠ [] := by
    obtain ⟨c, run, rfl, -⟩ := exists_cons_of_listed listed
    simp
  by_cases parts : ∀ c ∈ word, isWordPart c = true
  · by_cases ended : depth = 0 ∧ opensOption word after = true
    · obtain ⟨rfl, option⟩ := ended
      simp [scan_word_eq_nil filled parts ends option, (opensOption_iff listed parts).1 option]
    · have other : scan depth (word ++ after) ≠ [] :=
        scan_word_ne_nil filled parts ends fun outside => by simpa [outside] using ended
      simp only [other, false_iff]
      exact fun both => ended ⟨both.1, (opensOption_iff listed parts).2 both.2⟩
  · refine ⟨fun nothing => absurd nothing ?_, fun both => absurd both.2.ascii parts⟩
    -- The scan takes what stands before the first character beyond ASCII for a word.
    have whole := List.takeWhile_append_dropWhile (p := isWordPart) (l := word)
    cases left : word.dropWhile isWordPart with
    | nil => exact absurd (List.dropWhile_eq_nil_iff.1 left) parts
    | cons c more =>
      have run : ∀ d ∈ word.takeWhile isWordPart, isWordPart d = true :=
        List.all_eq_true.1 List.all_takeWhile
      have stopped := List.head?_dropWhile_not isWordPart word
      rw [left] at whole stopped
      have foreign : c ∈ Text.foreignLetters := by
        have kinds := isWordPart_or_foreign listed c (by rw [← whole]; simp)
        exact kinds.resolve_left (by simpa using stopped)
      rw [← whole, List.append_assoc]
      by_cases nothing : word.takeWhile isWordPart = []
      · rw [nothing]
        exact scan_foreign_ne_nil foreign depth _
      · exact scan_word_ne_nil nothing run (by simpa using stopped) fun _ =>
          opensOption_of_foreign foreign run (whole.symm ▸ listed) _

end Scanning

section Comparing

theorem bounds_mark (mark : c ∈ [',', ')']) (rest : List Char) : Bounds (c :: rest) := by
  have facts : ∀ c ∈ [',', ')'], c ∈ [',', ';', ')', ']', '>'] ∧ Text.isBlank c = false ∧
      c.toUpper ≠ 'S' := by
    decide
  obtain ⟨known, visible, letter⟩ := facts c mark
  have bounds : Bounds ([] ++ c :: rest) :=
    bounds_append (by simp) (fun _ => known) visible letter rest
  exact bounds

theorem stops_mark (mark : c ∈ [',', ')']) (rest : List Char) : Stops 0 (c :: rest) := by
  have kinds : c = ',' ∨ c = ')' := by simpa using mark
  rcases kinds with rfl | rfl
  · exact .separator rfl
  · exact .closing rfl

theorem bounds_option (spaces : ∀ b ∈ sep, isSpace b = true) (apart : sep ≠ [])
    (listed : Text.keywordKey (String.ofList word) ∈ optionKeys grammar) (after : List Char) :
    Bounds (sep ++ (word ++ after)) := by
  obtain ⟨c, run, rfl, visible, letter⟩ := exists_cons_of_listed listed
  exact bounds_append spaces (absurd · apart) visible letter _

/-- A mark behind a type that is not open ends it. -/
theorem ofText_append_mark (whole : isOpenAt type = false) (mark : c ∈ [',', ')'])
    (rest : List Char) : ofText (type ++ c :: rest) = ofText type := by
  have nothing := (stops_mark mark rest).scan_eq_nil
  by_cases invisible : Text.trimStart type = []
  · have blank : ∀ b ∈ type, Text.isBlank b = true := List.dropWhile_eq_nil_iff.1 invisible
    have visible : ∀ c ∈ [',', ')'], Text.isBlank c = false := by decide
    rw [ofText_append_of_blank blank (visible c mark), nothing, ofText_of_blank invisible]
  · rw [ofText_append invisible whole (bounds_mark mark rest), if_pos (.inr nothing)]

/-- A word for options behind a type that is not open ends it or goes on with it. -/
theorem ofText_append_option (whole : isOpenAt type = false)
    (spaces : ∀ b ∈ sep, isSpace b = true) (apart : sep ≠ [])
    (listed : Text.keywordKey (String.ofList word) ∈ optionKeys grammar)
    (ends : ∀ c ∈ after.head?, isWordPart c = false) :
    ofText (type ++ (sep ++ (word ++ after))) =
      if behind type ≠ [] ∨ EndsType word after then ofText type
      else Text.trimStart (type ++ sep) ++ scan 0 (word ++ after) := by
  have option : scan 0 (word ++ after) = [] ↔ EndsType word after := by
    simpa using scan_option_iff listed ends 0
  by_cases invisible : Text.trimStart type = []
  · have before := isBlank_of_append invisible spaces
    have nothing := ofText_of_blank invisible
    have left : Text.trimStart (type ++ sep) = [] := List.dropWhile_eq_nil_iff.2 before
    have behindless : behind type = [] := by simp [behind, invisible]
    have follows : ofText (type ++ (sep ++ (word ++ after))) = scan 0 (word ++ after) := by
      obtain ⟨c, run, rfl, visible, -⟩ := exists_cons_of_listed listed
      rw [← List.append_assoc, List.cons_append, ofText_append_of_blank before visible]
    rw [follows, left, nothing, List.nil_append]
    split
    · rename_i stopped
      exact option.2 (by simpa [behindless] using stopped)
    · rfl
  · rw [ofText_append invisible whole (bounds_option spaces apart listed after)]
    by_cases stopped : EndsType word after
    · rw [if_pos (.inr (scan_blanks spaces (option.2 stopped))), if_pos (.inr stopped)]
    · have filled : scan 0 (word ++ after) ≠ [] := fun nothing => stopped (option.1 nothing)
      have goesOn := scan_blanks_append spaces filled
      have more : scan 0 (sep ++ (word ++ after)) ≠ [] := by simp [goesOn, filled]
      simp only [more, stopped, or_false]
      rw [goesOn, trimStart_append_of_visible invisible, List.append_assoc]

/-- What goes on behind a text is more than what is declared at its head. -/
theorem trimStart_append_ne_ofText (visible : Text.trimStart text ≠ []) (filled : rest ≠ [])
    (blanks : List Char) : Text.trimStart (text ++ blanks) ++ rest ≠ ofText text := by
  rw [trimStart_append_of_visible visible]
  intro whole
  have bound := (ofText_begins text).length_le
  have length := congrArg List.length whole
  simp only [List.length_append] at length
  have more := List.length_pos_iff.2 filled
  omega

/-- Behind an open type a mark and a word for options go on with it each in its own way. -/
theorem ofText_append_ne_of_open (opened : isOpenAt type = true) (mark : c ∈ [',', ')'])
    (rest : List Char) (spaces : ∀ b ∈ sep, isSpace b = true) (apart : sep ≠ [])
    (listed : Text.keywordKey (String.ofList word) ∈ optionKeys grammar)
    (ends : ∀ c ∈ after.head?, isWordPart c = false) :
    ofText (type ++ c :: rest) ≠ [] ∧ ofText (type ++ (sep ++ (word ++ after))) ≠ [] ∧
      ofText (type ++ (sep ++ (word ++ after))) ≠ ofText (type ++ c :: rest) := by
  have marked : ∀ depth ≠ 0, ∃ more, scan depth (c :: rest) = c :: more := by
    intro depth inside
    obtain ⟨outer, rfl⟩ := Nat.exists_eq_succ_of_ne_zero inside
    have kinds : c = ',' ∨ c = ')' := by simpa using mark
    rcases kinds with rfl | rfl
    · exact ⟨scan (outer + 1) rest, by
        simp [scan, isSpace, isQuote, isOpening, isClosing, opensComment, isWordPart,
          Text.isAsciiAlphanum]⟩
    · exact ⟨scan outer rest, by simp [scan, isSpace, isQuote, isOpening, isClosing]⟩
  obtain ⟨more, short⟩ := exists_ofText_append_of_open opened (bounds_mark mark rest) marked
  have bounds := bounds_option spaces apart listed after
  obtain ⟨b, blanks, rfl⟩ := List.exists_cons_of_ne_nil apart
  have filled : ∀ depth ≠ 0, ∃ more, scan depth (b :: (blanks ++ (word ++ after))) = b :: more := by
    intro depth inside
    have goesOn : scan depth (word ++ after) ≠ [] := fun nothing =>
      inside ((scan_option_iff listed ends depth).1 nothing).1
    have whole := scan_blanks_append spaces goesOn
    exact ⟨_, whole⟩
  obtain ⟨more', long⟩ : ∃ more', ofText (type ++ b :: (blanks ++ (word ++ after))) =
      Text.trimStart type ++ b :: more' := exists_ofText_append_of_open opened bounds filled
  have other : b ≠ c := by
    rintro rfl
    have kinds : ∀ c ∈ [',', ')'], isSpace c = false := by decide
    exact absurd (spaces b List.mem_cons_self) (by simp [kinds b mark])
  refine ⟨by simp [short], by rw [List.cons_append, long]; simp, ?_⟩
  rw [List.cons_append, long, short]
  simpa using fun same => absurd same other

end Comparing

end DeclaredType

namespace Column

open DeclaredType

/-- What is said of a column behind its type begins with one of the words that its grammar has for
options and collations. The type is the same as without all that, where a mark follows it, if it
is not open behind what is written as the type, and the scan stops there by itself or knows the
word. -/
theorem type_with_options_iff {grammar : Grammar} {before type after sep rest : List Char}
    {mark : Char} {plain full : ColumnDefinition} {next : PlacedToken}
    (declared : ColumnDefinition.Declared grammar (before ++ (type ++ (sep ++ rest))) full next)
    (standing : next.first = Location.start.after (before ++ (type ++ sep)))
    (given : next.token ≠ .comma ∧ next.token ≠ .closeParen)
    (place : plain.name.past = Location.start.after before)
    (same : full.name.past = plain.name.past)
    (spelled : full.type.render = plain.type.render)
    (typeless : Text.trimStart type = [] → plain.type.render = "")
    (marks : mark ∈ [',', ')']) (spaces : ∀ b ∈ sep, isSpace b = true) (apart : sep ≠ []) :
    ∃ word further, rest = word ++ further ∧
      Text.keywordKey (String.ofList word) ∈ ColumnDefinition.optionKeys grammar ∧
      (∀ c ∈ further.head?, grammar.continuesWord c = false) ∧
      ((ofDefinition (before ++ (type ++ (sep ++ rest))) full).type =
          (ofDefinition (before ++ (type ++ mark :: after)) plain).type ↔
        isOpenAt type = false ∧ (behind type ≠ [] ∨ EndsType word further)) := by
  have declared' : ColumnDefinition.Declared grammar (before ++ (type ++ sep) ++ rest) full next := by
    simpa using declared
  obtain ⟨word, further, rfl, listed, ends⟩ := declared'.exists_word standing given
  refine ⟨word, further, rfl, listed, ends, ?_⟩
  have apart' : ∀ c ∈ further.head?, isWordPart c = false := fun c first =>
    Bool.eq_false_iff.2 fun part => by
      simpa [grammar.continuesWord_of_isWordPart part] using ends c first
  have located (more : List Char) : plain.name.past.rest? (before ++ more) = some more := by
    rw [place]
    exact Location.rest?_after before more
  rw [type_eq (same ▸ located _), type_eq (located _), spelled]
  cases opened : isOpenAt type with
  | true =>
    obtain ⟨short, long, differ⟩ :=
      ofText_append_ne_of_open opened marks after spaces apart listed apart'
    simpa [short, long, String.ofList_inj] using differ
  | false =>
    rw [ofText_append_mark opened marks, ofText_append_option opened spaces apart listed apart']
    by_cases stopped : behind type ≠ [] ∨ EndsType word further
    · simp [stopped]
    · have filled : scan 0 (word ++ further) ≠ [] := fun nothing =>
        stopped (.inr ((scan_option_iff listed apart' 0).1 nothing).2)
      rw [if_neg stopped, if_neg (by simp [filled])]
      simp only [stopped, and_false, iff_false]
      by_cases nothing : ofText type = []
      · have invisible := trimStart_eq_nil nothing (by simpa using fun follows => stopped (.inl follows))
        rw [if_pos nothing, typeless invisible]
        intro empty
        have text := congrArg String.toList empty
        simp [filled] at text
      · rw [if_neg nothing, String.ofList_inj]
        exact trimStart_append_ne_ofText (mt ofText_of_blank nothing) filled sep

/-- Options in two lines behind a type that holds one of their words in quotes. -/
theorem type_with_options_iff_enum :
    let before := "CREATE TABLE a (b".toList
    let type := " enum('c', 'NOT')".toList
    let sep := "\n\t".toList
    let rest := "Null\n\tCOMMENT 'd')".toList
    ∃ full next, ∃ plain : ColumnDefinition,
      ColumnDefinition.Declared Database.mysql.grammar (before ++ (type ++ (sep ++ rest))) full next ∧
      next.first = Location.start.after (before ++ (type ++ sep)) ∧
      (next.token ≠ .comma ∧ next.token ≠ .closeParen) ∧
      plain.name.past = Location.start.after before ∧
      full.name.past = plain.name.past ∧ full.type.render = plain.type.render ∧
      (Text.trimStart type = [] → plain.type.render = "") ∧
      ∃ word further, rest = word ++ further ∧
        Text.keywordKey (String.ofList word) ∈
          ColumnDefinition.optionKeys Database.mysql.grammar ∧
        (∀ c ∈ further.head?, Database.mysql.grammar.continuesWord c = false) ∧
        ((ofDefinition (before ++ (type ++ (sep ++ rest))) full).type =
            (ofDefinition (before ++ (type ++ ')' :: [])) plain).type ↔
          isOpenAt type = false ∧ (behind type ≠ [] ∨ EndsType word further)) := by
  intro before type sep rest
  have reads : (ColumnDefinition.declaredAt? (Phrases.level 3) Database.mysql.grammar
      (before ++ (type ++ (sep ++ rest))) 4).any (fun found =>
        found.1.name.past == Location.start.after before &&
        found.2.first == Location.start.after (before ++ (type ++ sep)) &&
        found.2.token != .comma && found.2.token != .closeParen) = true := by
    decide +kernel
  obtain ⟨⟨full, next⟩, found, known⟩ := (Option.any_eq_true _ _).1 reads
  simp only [Bool.and_eq_true, beq_iff_eq, bne_iff_ne] at known
  obtain ⟨⟨⟨place, standing⟩, other⟩, open'⟩ := known
  have declared := ColumnDefinition.declared_of_declaredAt? found
  have typeless : Text.trimStart type = [] → full.type.render = "" :=
    fun nothing => absurd nothing (by decide +kernel)
  exact ⟨full, next, { full with options := [] }, declared, standing, ⟨other, open'⟩, place, rfl, rfl,
    typeless, type_with_options_iff declared standing ⟨other, open'⟩ place rfl rfl typeless
      (by decide) (by decide) (by decide)⟩

/-- The word `ASC`, which every grammar takes for an option, joins the type before it. -/
theorem option_changes_type :
    let types (script : String) := (Catalog.firstTable script .generic).map (·.columns.map (·.type))
    let spellings (script : String) :=
      (Script.ofText Database.generic.grammar script.toList).toOption.map fun statements =>
        statements.map fun statement =>
          statement.definition?.map (·.columns.map (·.type.render))
    spellings "CREATE TABLE a (b INT)" = some [some ["INT"]] ∧
      spellings "CREATE TABLE a (b INT ASC)" = some [some ["INT"]] ∧
      types "CREATE TABLE a (b INT)" = .ok ["INT"] ∧
      types "CREATE TABLE a (b INT ASC)" = .ok ["INT ASC"] := by
  decide +kernel

end Column

end TableCatalog
