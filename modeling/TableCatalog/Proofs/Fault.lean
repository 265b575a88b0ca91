import TableCatalog.Proofs.Fault.Blank
import TableCatalog.Proofs.Fault.Letter

/-!
# Where faults are laid

A fault is laid to a place at or behind the beginning of the token that lacks its end. What
precedes that place scans if the token is quoted text whose opening mark is the place, and
does not scan if the fault is laid to what stands behind that mark.
-/

namespace TableCatalog.Lexer

variable {grammar : Grammar} {fault : LexicalFault} {place : Location} {close : Char}
  {escapes : Bool} {style : StringStyle}

/-- Operators do not fail. -/
theorem operator_error {cursor : Cursor} : operator grammar cursor ≠ .error fault := by
  unfold operator
  split
  · simp
  · split <;> simp

theorem hash_error {cursor : Cursor} : hash grammar cursor ≠ .error fault := by
  unfold hash
  split
  · simp
  · exact operator_error
  · exact operator_error
  · split
    · simp [word]
    · exact operator_error
  · exact operator_error

theorem atSign_error {cursor : Cursor} : atSign grammar cursor ≠ .error fault := by
  unfold atSign
  split
  · exact operator_error
  · exact operator_error
  · simp
  · simp
  · split <;> simp [word]
  · split <;> simp [word]
  · simp

theorem questionMark_error {cursor : Cursor} : questionMark grammar cursor ≠ .error fault := by
  unfold questionMark
  split
  · split <;> simp
  · simp

theorem numberEnd_error {digits : List Char} {cursor : Cursor} :
    numberEnd grammar digits cursor ≠ .error fault := by
  unfold numberEnd
  dsimp only
  split
  · simp
  · split <;> simp

/-- Numbers do not fail. -/
theorem number_error {cursor : Cursor} : number grammar cursor ≠ .error fault := by
  unfold number
  dsimp only
  split
  · simp
  · split
    · simp
    · exact numberEnd_error

/-- Text between dollar signs lacks its end at the end of the text. -/
theorem dollar_error {rest : List Char} (failed : dollar grammar ⟨'$' :: rest, place⟩ = .error fault) :
    fault.place = place.after ('$' :: rest) := by
  unfold dollar at failed
  dsimp only at failed
  by_cases pair : (rest.head? == some '$' && !grammar.hasDollarPlaceholders) = true
  · rw [Cursor.skip_one_cons, if_pos pair] at failed
    obtain ⟨-, rfl⟩ := closed_eq_error.1 failed
    rfl
  · rw [Cursor.skip_one_cons, if_neg pair] at failed
    by_cases closing : ((Cursor.mk rest (place.next '$')).span grammar.continuesTag).2.rest.head? ==
        some '$' && !grammar.hasDollarPlaceholders
    · rw [if_pos closing] at failed
      obtain ⟨-, rfl⟩ := closed_eq_error.1 failed
      rfl
    · rw [if_neg closing] at failed
      simp at failed

/-- Of what a sign begins, only text between dollar signs can lack its end. -/
theorem sign_error {c : Char} {rest : List Char}
    (failed : sign grammar c ⟨c :: rest, place⟩ = .error fault) :
    c = '$' ∧ fault.place = place.after (c :: rest) := by
  unfold sign at failed
  split at failed
  · split at failed
    · simp [lineComment] at failed
    · exact absurd failed hash_error
  · split at failed
    · exact absurd failed atSign_error
    · split at failed
      · exact absurd failed questionMark_error
      · split at failed
        · simp [word] at failed
        · split at failed
          · rename_i isDollar
            obtain rfl : c = '$' := by simpa using isDollar
            exact ⟨rfl, dollar_error failed⟩
          · split at failed
            · simp at failed
            · exact absurd failed operator_error

/-- A bracket with blanks behind it is a symbol. -/
theorem next_bracket {blanks : List Char} (blank : ∀ c ∈ blanks, Text.isBlank c = true) :
    next .redshift '[' blanks ⟨'[' :: blanks, place⟩ =
      .ok (.symbol "[", ⟨blanks, place.next '['⟩) := by
  rw [next_mark rfl rfl (by decide) rfl]
  have unnested : nestedQuote? .redshift ('[' :: blanks) = none := (nestedQuote?_blank blank).1
  have plain : operator .redshift ⟨'[' :: blanks, place⟩ =
      .ok (.symbol "[", ⟨blanks, place.next '['⟩) := rfl
  have starts : Grammar.startsWord .redshift '[' = false := by decide
  simp [mark, unnested, sign, starts, plain, Grammar.quotesWord, Text.isBlank]

/-- What precedes the mark that a bracketed word lacks scans. -/
theorem nestedWord_error {quote : Char} {rest : List Char}
    (failed : nestedWord quote ⟨'[' :: rest, place⟩ = .error fault) :
    ScansCut .redshift ('[' :: rest) place fault := by
  obtain ⟨blanks, tail, rfl, blank, stop⟩ := exists_run Text.isBlank rest
  simp only [nestedWord, Cursor.skip_one_cons, Cursor.span_run _ blank stop] at failed
  split at failed
  · obtain rfl := Except.error.inj failed
    exact scansCut_here rfl
  · split at failed
    · obtain rfl := Except.error.inj failed
      obtain ⟨tokens, last, reads, plain⟩ := reads_blanks blank (place.next '[')
      refine ⟨'[' :: blanks, tail, _, last, rfl, rfl, ?_, .step (next_bracket blank) reads⟩
      simpa [Token.semicolon] using plain
    · split at failed
      · simp at failed
      · obtain rfl := Except.error.inj failed
        exact scansCut_here rfl

/-- A quoted word that fails is laid to its quote. -/
theorem quotedWord_error {quote : Char} {cursor : Cursor}
    (failed : quotedWord quote cursor = .error fault) : fault.place = cursor.place := by
  unfold quotedWord at failed
  obtain ⟨-, rfl⟩ := closed_eq_error.1 failed
  rfl

/-- Where the fault of a text constant is laid. -/
theorem fault_constant {long : StringStyle} {rest : List Char}
    (quote : close = '\'' ∨ close = '"') (unquoting : grammar.quotesWord close = false)
    (failed : constant grammar style long close escapes ⟨close :: rest, place⟩ = .error fault) :
    if laidToOpening grammar close then ScansCut grammar (close :: rest) place fault
      else RemainsCut close (constant grammar style long close escapes) rest place fault := by
  have bare : laidToOpening grammar close = !grammar.hasTripleQuotes := by
    rcases quote with rfl | rfl <;> simp [laidToOpening, unquoting]
  rcases constant_error failed with ⟨single, laid⟩ | ⟨triple, remains⟩
  · simpa [bare, single] using scansCut_here laid
  · simpa [bare, triple] using remains

/-- Where the fault of what a mark begins is laid. -/
theorem fault_mark {c : Char} {rest : List Char} (unlettered : c.isAlpha = false)
    (failed : mark grammar c ⟨c :: rest, place⟩ = .error fault) :
    if laidToOpening grammar c then ScansCut grammar (c :: rest) place fault
      else RemainsCut c (mark grammar c) rest place fault := by
  by_cases quote : c = '\''
  · subst quote
    rw [mark_single] at failed ⊢
    exact fault_constant (.inl rfl) (by cases grammar <;> rfl) failed
  by_cases quotes : grammar.quotesWord c = true
  · rw [mark_quoted quote quotes] at failed
    simpa [laidToOpening, unlettered, quotes] using scansCut_here (quotedWord_error failed)
  have unquoting : grammar.quotesWord c = false := by simpa using quotes
  by_cases double : c = '"'
  · subst double
    rw [mark_double unquoting] at failed ⊢
    exact fault_constant (.inr rfl) unquoting failed
  have faulty := failed
  rw [mark_bracket quote unquoting double] at failed
  cases nested : nestedQuote? grammar (c :: rest) with
  | none =>
    rw [nested] at failed
    obtain ⟨rfl, laid⟩ := sign_error failed
    simpa [laidToOpening, quotes] using remainsCut_end faulty laid
  | some inner =>
    obtain ⟨rfl, rfl⟩ : grammar = .redshift ∧ c = '[' := by
      by_contra other
      simp [nestedQuote?_other other] at nested
    have scans : ScansCut .redshift ('[' :: rest) place fault := by
      rw [nested] at failed
      cases inner with
      | none => exact scansCut_here (quotedWord_error failed)
      | some quote => exact nestedWord_error failed
    simpa [laidToOpening] using scans

/-- Of what two characters begin, only a block comment can lack its end. -/
theorem fault_pair {c : Char} {rest : List Char} (pair : isPair c rest = true)
    (failed : nextFrom grammar c ⟨c :: rest, place⟩ = .error fault) :
    c = '/' ∧ fault.place = place.after (c :: rest) := by
  have pair : (c = '-' ∧ rest.head? = some '-') ∨ (c = '/' ∧ rest.head? = some '*') ∨
      (c = '/' ∧ rest.head? = some '/') := by
    simpa [isPair, and_or_left] using pair
  rcases pair with ⟨rfl, first⟩ | ⟨rfl, first⟩ | ⟨rfl, first⟩
  all_goals obtain ⟨rest, rfl⟩ := List.head?_eq_some_iff.1 first
  · simp [nextFrom, next, lineComment] at failed
  · have failed : blockComment grammar ⟨'/' :: '*' :: rest, place⟩ = .error fault := failed
    simp only [blockComment] at failed
    obtain ⟨-, rfl⟩ := closed_eq_error.1 failed
    exact ⟨rfl, rfl⟩
  · by_cases comments : grammar.hasSlashComments = true
    · simp [nextFrom, next, comments, lineComment] at failed
    · by_cases division : grammar.hasIntegerDivision = true
      · simp [nextFrom, next, comments, division] at failed
      · simp [nextFrom, next, comments, division, operator_error] at failed

/-- Separators do not fail. -/
theorem next_separator_error {c : Char} {rest : List Char} {cursor : Cursor}
    (separate : c ∈ [' ', '\t', '\n', '\r']) : next grammar c rest cursor ≠ .error fault := by
  simp only [List.mem_cons, List.not_mem_nil, or_false] at separate
  rcases separate with rfl | rfl | rfl | rfl
  case' inl | inr.inl | inr.inr.inl => simp [next]
  cases rest with
  | nil => simp [next]
  | cons d rest =>
    by_cases feed : d = '\n'
    · subst feed
      simp [next]
    · simp [next, feed]

/-- A fault is laid to a place before which the text scans, or where it remains. -/
theorem fault_cases {c : Char} {rest : List Char}
    (failed : next grammar c rest ⟨c :: rest, place⟩ = .error fault) :
    if laidToOpening grammar c then ScansCut grammar (c :: rest) place fault
      else RemainsCut c (nextFrom grammar c) rest place fault := by
  have faulty : nextFrom grammar c ⟨c :: rest, place⟩ = .error fault := failed
  by_cases lettered : c.isAlpha = true
  · have same : nextFrom grammar c = fromLetter grammar c := by
      funext cursor
      simp [nextFrom, next, lettered, fromLetter]
    rw [same] at faulty ⊢
    exact fault_letter lettered faulty
  by_cases numeric : (c.isDigit || c == '.') = true
  · simp only [next, lettered, numeric, if_true, if_false, Bool.false_eq_true] at failed
    exact absurd failed number_error
  by_cases separate : c ∈ [' ', '\t', '\n', '\r']
  · exact absurd failed (next_separator_error separate)
  by_cases pair : isPair c rest = true
  · obtain ⟨rfl, laid⟩ := fault_pair pair faulty
    have bare : laidToOpening grammar '/' = false := by cases grammar <;> rfl
    simpa [bare] using remainsCut_end faulty laid
  have opens (cursor : Cursor) (single : isPair c cursor.rest.tail = false) :
      nextFrom grammar c cursor = mark grammar c cursor :=
    next_mark (by simpa using lettered) (by simpa using numeric) separate single
  rw [opens _ (by simpa using pair)] at faulty
  have laid := fault_mark (by simpa using lettered) faulty
  split at laid
  · rename_i opening
    rwa [if_pos opening]
  · rename_i inside
    rw [if_neg inside]
    obtain ⟨part, more, rfl, reached, other, again⟩ := laid
    have continues : Continues false (part ++ more) part := .inl (List.prefix_append part more)
    refine ⟨part, more, rfl, reached, other, ?_⟩
    rw [opens]
    · exact again
    · simpa using mt (isPair_of_continues continues) pair

end TableCatalog.Lexer
