import TableCatalog.Proofs.Lexing.Gap

/-!
# What a sign begins

A dollar sign, an at sign and the other marks that open no quoted text. `@` and `#` may
begin a word with whatever character follows them, so that they do not stand at the end of
a text before a line feed.
-/

namespace TableCatalog.Lexer

variable (line : Bool) {grammar : Grammar} {token : Token} {after : Cursor} {close : Char}
  {place : Location}

/-- No grammar has line feeds in its tags. -/
theorem continuesTag_feed (grammar : Grammar) : grammar.continuesTag '\n' = false := by
  cases grammar <;> decide

/-- Two dollar signs open a text that two more close. -/
theorem dollar_pair {body : List Char} (quotes : grammar.hasDollarPlaceholders = false) :
    dollar grammar ⟨'$' :: '$' :: body, place⟩ =
      closed (Quoted.dollars body ((place.next '$').next '$') false [])
        ⟨.unterminatedDollarString, (place.next '$').after ('$' :: body)⟩ (.dollarString none) := by
  simp [dollar, quotes]

/-- Text between pairs of dollar signs stands. -/
theorem stands_dollarPair {body : List Char} (quotes : grammar.hasDollarPlaceholders = false)
    (found : dollar grammar ⟨'$' :: '$' :: body, place⟩ = .ok (token, after)) :
    Stands line '$' (dollar grammar) ('$' :: body) token after := by
  rw [dollar_pair quotes] at found
  obtain ⟨content, inside, rfl⟩ := closed_eq_ok.1 found
  obtain ⟨run, shape, stands⟩ := Quoted.settled_dollars line inside
  refine ⟨'$' :: run, congrArg ('$' :: ·) shape, fun kept place continues => ?_⟩
  rw [List.cons_append, dollar_pair quotes]
  exact closed_eq_ok.2 ⟨content, stands kept _ continues, rfl⟩

variable {line} in
/-- A dollar sign that does not open a text is none before what may follow either. -/
theorem noDollar_of_continues {follows kept : List Char} (continues : Continues line follows kept)
    (absent : ¬(follows.head? == some '$' && !grammar.hasDollarPlaceholders) = true) :
    (kept.head? == some '$' && !grammar.hasDollarPlaceholders) = false := by
  cases quotes : grammar.hasDollarPlaceholders with
  | true => simp
  | false =>
    have first : follows.head? ≠ some '$' := by simpa [quotes] using absent
    simpa using continues.head?_ne (by decide) first

/-- What a single dollar sign begins stands: a placeholder, or text up to a closing tag. -/
theorem stands_dollar {rest : List Char}
    (found : dollar grammar ⟨'$' :: rest, place⟩ = .ok (token, after)) :
    Stands line '$' (dollar grammar) rest token after := by
  by_cases pair : (rest.head? == some '$' && !grammar.hasDollarPlaceholders) = true
  · obtain ⟨first, quotes⟩ : rest.head? = some '$' ∧ grammar.hasDollarPlaceholders = false := by
      simpa using pair
    obtain ⟨body, rfl⟩ := List.head?_eq_some_iff.1 first
    exact stands_dollarPair line quotes found
  · obtain ⟨tag, tail, rfl, spanned⟩ := exists_span grammar.continuesTag
      (fun _ : line = true => continuesTag_feed grammar) rest
    have alone (kept : List Char) (continues : Continues line tail kept) :=
      noDollar_of_continues (continues.append tag) pair
    simp only [dollar, Cursor.skip_one_cons, pair,
      spanned tail _ (Continues.refl line tail)] at found
    by_cases closing : (tail.head? == some '$' && !grammar.hasDollarPlaceholders) = true
    · obtain ⟨first, quotes⟩ : tail.head? = some '$' ∧ grammar.hasDollarPlaceholders = false := by
        simpa using closing
      obtain ⟨body, rfl⟩ := List.head?_eq_some_iff.1 first
      simp only [closing] at found
      obtain ⟨content, inside, rfl⟩ := closed_eq_ok.1 found
      obtain ⟨run, shape, stands⟩ := Quoted.settled_tagged line inside
      obtain rfl : body = run ++ after.rest := shape
      refine ⟨tag ++ '$' :: run, by simp, fun kept place continues => ?_⟩
      have goesOn : Continues line ('$' :: (run ++ after.rest)) ('$' :: (run ++ kept)) :=
        continues.append ('$' :: run)
      have closing : (('$' :: (run ++ kept)).head? == some '$' &&
          !grammar.hasDollarPlaceholders) = true := by simp [quotes]
      simp only [List.cons_append, List.append_assoc, dollar, Cursor.skip_one_cons, alone _ goesOn,
        spanned _ _ goesOn, closing, Bool.false_eq_true, if_false, if_true]
      rw [Location.after_cons, Location.after_append _ tag ('$' :: run), Location.after_cons]
      exact closed_eq_ok.2 ⟨content, stands kept _ continues, rfl⟩
    · simp only [closing, Bool.false_eq_true, if_false] at found
      obtain ⟨rfl, rfl⟩ := Prod.mk.inj (Except.ok.inj found)
      refine ⟨tag, rfl, fun kept place continues => ?_⟩
      have single := noDollar_of_continues continues closing
      simp only [List.cons_append, dollar, Cursor.skip_one_cons, alone kept continues,
        spanned kept _ continues, single, Bool.false_eq_true, if_false]
      rfl

/-- What two signs begin stands, unless they end the text and may begin a word. -/
theorem stands_twoAtSigns {rest : List Char}
    (solid : line = true → takesLine grammar token = true → after.rest ≠ [])
    (found : atSign grammar ⟨'@' :: '@' :: rest, place⟩ = .ok (token, after)) :
    Stands line '@' (atSign grammar) ('@' :: rest) token after := by
  cases rest with
  | nil =>
    obtain ⟨rfl, rfl⟩ := Prod.mk.inj (Except.ok.inj found)
    refine ⟨['@'], rfl, fun kept place continues => ?_⟩
    cases kept with
    | nil => rfl
    | cons d kept =>
      obtain ⟨rfl, plain⟩ := continues.feed_of_nil fun allowed starts =>
        solid allowed (by simpa [takesLine] using starts) rfl
      simp [atSign, plain]
      rfl
  | cons e rest =>
    by_cases wordly : e ≠ ' ' ∧ grammar.startsWord '@' = true
    · obtain ⟨printed, starts⟩ := wordly
      have opens (rest : List Char) (place : Location) :
          atSign grammar ⟨'@' :: (['@', e] ++ rest), place⟩ =
            word grammar ['@', '@', e].length ⟨'@' :: (['@', e] ++ rest), place⟩ := by
        simp [atSign, starts]
      exact stands_word line ['@', e] opens found
    · have opens (rest : List Char) (place : Location) :
          atSign grammar ⟨'@' :: '@' :: e :: rest, place⟩ =
            .ok (.symbol "@@", ⟨e :: rest, (place.next '@').next '@'⟩) := by
        by_cases space : e = ' '
        · subst space; rfl
        · have starts : grammar.startsWord '@' = false := by simpa [space] using wordly
          simp [atSign, starts]
      obtain ⟨rfl, rfl⟩ := Prod.mk.inj (Except.ok.inj ((opens rest place).symm.trans found))
      refine ⟨['@'], rfl, fun kept place continues => ?_⟩
      rcases continues.of_cons_left with rfl | ⟨tail, rfl, -⟩
      · rfl
      · exact opens tail place

/-- A single `@` is an operator, or begins a word with the character behind it. -/
theorem atSign_single {d : Char} (greater : d ≠ '>') (question : d ≠ '?') (twice : d ≠ '@')
    (rest : List Char) (place : Location) :
    atSign grammar ⟨'@' :: d :: rest, place⟩ =
      if d == ' ' || d == '\'' || d == '"' || d == '\x60' || !grammar.startsWord '@' then
        .ok (.symbol "@", ⟨d :: rest, place.next '@'⟩)
      else word grammar 2 ⟨'@' :: d :: rest, place⟩ := by
  simp only [atSign, List.drop_succ_cons, List.drop_zero]
  split <;> simp_all

/-- What `@` begins stands, unless it ends the text and may begin a word. -/
theorem stands_atSign {rest : List Char}
    (solid : line = true → takesLine grammar token = true → after.rest ≠ [])
    (found : atSign grammar ⟨'@' :: rest, place⟩ = .ok (token, after)) :
    Stands line '@' (atSign grammar) rest token after := by
  cases rest with
  | nil =>
    obtain ⟨rfl, rfl⟩ := Prod.mk.inj (Except.ok.inj found)
    refine ⟨[], rfl, fun kept place continues => ?_⟩
    cases kept with
    | nil => rfl
    | cons d kept =>
      obtain ⟨rfl, plain⟩ := continues.feed_of_nil fun allowed starts =>
        solid allowed (by simpa [takesLine] using starts) rfl
      simp [atSign, plain]
      rfl
  | cons d rest =>
    by_cases twice : d = '@'
    · subst twice
      exact stands_twoAtSigns line solid found
    · by_cases symbol : d = '>' ∨ d = '?'
      · have opens (rest : List Char) (place : Location) :
            atSign grammar ⟨'@' :: d :: rest, place⟩ =
              .ok (.symbol (String.ofList ['@', d]), ⟨rest, (place.next '@').next d⟩) := by
          rcases symbol with rfl | rfl <;> rfl
        obtain ⟨rfl, rfl⟩ := Prod.mk.inj (Except.ok.inj ((opens rest place).symm.trans found))
        exact ⟨[d], rfl, fun kept place _ => opens kept place⟩
      · obtain ⟨greater, question⟩ := not_or.1 symbol
        by_cases lone : (d == ' ' || d == '\'' || d == '"' || d == '\x60' ||
            !grammar.startsWord '@') = true
        · have opens (rest : List Char) (place : Location) :
              atSign grammar ⟨'@' :: d :: rest, place⟩ =
                .ok (.symbol "@", ⟨d :: rest, place.next '@'⟩) := by
            rw [atSign_single greater question twice, if_pos lone]
          obtain ⟨rfl, rfl⟩ := Prod.mk.inj (Except.ok.inj ((opens rest place).symm.trans found))
          refine ⟨[], rfl, fun kept place continues => ?_⟩
          rcases continues.of_cons_left with rfl | ⟨tail, rfl, -⟩
          · rfl
          · exact opens tail place
        · have opens (rest : List Char) (place : Location) :
              atSign grammar ⟨'@' :: ([d] ++ rest), place⟩ =
                word grammar ['@', d].length ⟨'@' :: ([d] ++ rest), place⟩ := by
            rw [List.singleton_append, atSign_single greater question twice, if_neg lone]
            rfl
          exact stands_word line [d] opens found

/-- What a sign begins stands, unless a line feed may be read with it. -/
theorem stands_sign {c : Char} {rest : List Char}
    (solid : line = true → (opensLine grammar c rest || takesLine grammar token) = true →
      after.rest ≠ [])
    (found : sign grammar c ⟨c :: rest, place⟩ = .ok (token, after)) :
    Stands line c (sign grammar c) rest token after := by
  by_cases isHash : c = '#'
  · subst isHash
    by_cases comments : grammar.hasHashComments = true
    · have same : sign grammar '#' = lineComment grammar 1 := by
        funext cursor
        simp [sign, comments]
      rw [same] at found ⊢
      exact stands_lineComment line [] (fun _ _ => rfl)
        (fun allowed => solid allowed (by simp [opensLine, comments])) found
    · have same : sign grammar '#' = hash grammar := by
        funext cursor
        simp [sign, comments]
      rw [same] at found ⊢
      exact stands_hash line (fun allowed takes => solid allowed (by simp [takes])) found
  by_cases isAt : c = '@'
  · subst isAt
    exact stands_atSign line (fun allowed takes => solid allowed (by simp [takes])) found
  by_cases isQuestion : c = '?'
  · subst isQuestion
    exact stands_questionMark line (fun allowed takes => solid allowed (by simp [takes])) found
  by_cases starts : grammar.startsWord c = true
  · have same : sign grammar c = word grammar 1 := by
      funext cursor
      simp [sign, isHash, isAt, isQuestion, starts]
    rw [same] at found ⊢
    exact stands_word line [] (fun _ _ => rfl) found
  by_cases isDollar : c = '$'
  · subst isDollar
    have same : sign grammar '$' = dollar grammar := by
      funext cursor
      simp [sign, starts]
    rw [same] at found ⊢
    exact stands_dollar line found
  by_cases blank : Text.isBlank c = true
  · have opens (rest : List Char) (place : Location) :
        sign grammar c ⟨c :: rest, place⟩ = .ok (.gap .space, ⟨rest, place.next c⟩) := by
      simp [sign, isHash, isAt, isQuestion, starts, isDollar, blank]
    obtain ⟨rfl, rfl⟩ := Prod.mk.inj (Except.ok.inj ((opens rest place).symm.trans found))
    exact ⟨[], rfl, fun kept place _ => opens kept place⟩
  · have same : sign grammar c = operator grammar := by
      funext cursor
      simp [sign, isHash, isAt, isQuestion, starts, isDollar, blank]
    rw [same] at found ⊢
    exact stands_operator line found

end TableCatalog.Lexer
