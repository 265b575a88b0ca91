import Mathlib.Tactic.ByContra
import TableCatalog.Proofs.Lexing.Number
import TableCatalog.Proofs.Lexing.Sign

/-!
# A token is read for itself

The token at the start of a text is read again wherever it stands before a part of what
followed it, and before a line feed unless a line feed prolongs it. Each kind of token has
its module; here they are put together by the cases of the lexer.
-/

namespace TableCatalog.Lexer

variable (line : Bool) {grammar : Grammar} {token : Token} {after : Cursor} {place : Location}

/-- A single quote opens a text constant. -/
theorem mark_single :
    mark grammar '\'' =
      constant grammar .single .tripleSingle '\'' grammar.hasBackslashEscapes := by
  funext cursor
  simp [mark]

/-- A mark that quotes words opens one. -/
theorem mark_quoted {c : Char} (quote : c ≠ '\'') (quotes : grammar.quotesWord c = true) :
    mark grammar c = quotedWord c := by
  funext cursor
  simp [mark, quote, quotes]

/-- A double quote that quotes no words opens a text constant. -/
theorem mark_double (quotes : grammar.quotesWord '"' = false) :
    mark grammar '"' = constant grammar .double .tripleDouble '"' grammar.hasBackslashEscapes := by
  funext cursor
  simp [mark, quotes]

/-- Any other mark may be a bracket with a word in it; else it is a sign. -/
theorem mark_bracket {c : Char} (quote : c ≠ '\'') (quotes : grammar.quotesWord c = false)
    (double : c ≠ '"') (rest : List Char) (place : Location) :
    mark grammar c ⟨c :: rest, place⟩ =
      (nestedQuote? grammar (c :: rest)).elim (sign grammar c ⟨c :: rest, place⟩)
        fun nested => nested.elim (quotedWord c) nestedWord ⟨c :: rest, place⟩ := by
  simp only [mark, quote, quotes, double, beq_iff_eq, Bool.false_eq_true, if_false]
  cases nestedQuote? grammar (c :: rest) with
  | none => rfl
  | some nested => cases nested <;> rfl

/-- What a mark begins stands, unless a line feed may be read with it. -/
theorem stands_mark {c : Char} {rest : List Char} (printed : c ≠ '\n')
    (solid : line = true → (opensLine grammar c rest || takesLine grammar token) = true →
      after.rest ≠ [])
    (found : mark grammar c ⟨c :: rest, place⟩ = .ok (token, after)) :
    Stands line c (mark grammar c) rest token after := by
  by_cases quote : c = '\''
  · subst quote
    rw [mark_single] at found ⊢
    exact stands_constant line printed found
  by_cases quotes : grammar.quotesWord c = true
  · rw [mark_quoted quote quotes] at found ⊢
    exact stands_quotedWord line (closing_printed printed) found
  have unquoting : grammar.quotesWord c = false := by simpa using quotes
  by_cases double : c = '"'
  · subst double
    rw [mark_double unquoting] at found ⊢
    exact stands_constant line printed found
  have opens := mark_bracket quote unquoting double
  rw [opens] at found
  cases nested : nestedQuote? grammar (c :: rest) with
  | none =>
    rw [nested] at found
    refine (stands_sign line solid found).congr fun kept place continues => ?_
    rw [opens, nestedQuote?_eq_none nested continues]
    rfl
  | some inner =>
    obtain ⟨rfl, rfl⟩ : grammar = .redshift ∧ c = '[' := by
      by_contra other
      simp [nestedQuote?_other other] at nested
    have stands : Stands line '[' (inner.elim (quotedWord '[') nestedWord) rest token after := by
      cases inner with
      | none =>
        rw [nested] at found
        exact stands_quotedWord line (by decide) found
      | some quote =>
        rw [nested] at found
        exact stands_nestedWord line (nestedQuote?_visible nested) found
    obtain ⟨run, shape, gives⟩ := stands
    have whole := gives [] place (Continues.nil line after.rest)
    rw [List.append_nil] at whole
    have visible := visible_of_bracket whole
    refine ⟨run, shape, fun kept place continues => ?_⟩
    have same : nestedQuote? .redshift ('[' :: (run ++ kept)) = some inner := by
      rw [← nested, shape, nestedQuote?_append visible, nestedQuote?_append visible]
    rw [opens, same, ← gives kept place continues]
    cases inner with
    | none => rfl
    | some quote => rfl

/-- What neither separates nor begins a letter, a digit or a pair is a mark. -/
theorem next_mark {c : Char} {rest : List Char} {cursor : Cursor}
    (unlettered : c.isAlpha = false) (unnumbered : (c.isDigit || c == '.') = false)
    (separate : c ∉ [' ', '\t', '\n', '\r']) (single : isPair c rest = false) :
    next grammar c rest cursor = mark grammar c cursor := by
  unfold next
  simp only [unlettered, unnumbered, Bool.false_eq_true, if_false]
  split <;> simp_all [isPair]

/-- The token at the start of a text stands. -/
theorem stands_next {c : Char} {rest : List Char}
    (solid : line = true → (opensLine grammar c rest || takesLine grammar token) = true →
      after.rest ≠ [])
    (found : nextFrom grammar c ⟨c :: rest, place⟩ = .ok (token, after)) :
    Stands line c (nextFrom grammar c) rest token after := by
  by_cases lettered : c.isAlpha = true
  · have same : nextFrom grammar c = fromLetter grammar c := by
      funext cursor
      simp [nextFrom, next, lettered, fromLetter]
    rw [same] at found ⊢
    exact stands_letter line found
  by_cases numeric : (c.isDigit || c == '.') = true
  · have same : nextFrom grammar c = number grammar := by
      funext cursor
      simp only [nextFrom, next, lettered, numeric, if_true, if_false, Bool.false_eq_true]
    rw [same] at found ⊢
    exact stands_number line numeric found
  by_cases separate : c ∈ [' ', '\t', '\n', '\r']
  · exact stands_separator line separate solid found
  by_cases pair : isPair c rest = true
  · exact stands_pair line pair solid found
  have opens (kept : List Char) (place : Location) (continues : Continues line rest kept) :
      nextFrom grammar c ⟨c :: kept, place⟩ = mark grammar c ⟨c :: kept, place⟩ := by
    refine next_mark (by simpa using lettered) (by simpa using numeric) separate ?_
    cases there : isPair c kept with
    | false => exact there
    | true => exact absurd (isPair_of_continues continues there) pair
  rw [opens rest place (Continues.refl line rest)] at found
  have printed : c ≠ '\n' := by
    rintro rfl
    simp at separate
  exact (stands_mark line printed solid found).congr opens

end TableCatalog.Lexer
