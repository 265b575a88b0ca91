import TableCatalog.Proofs.Lexing.Operator

/-!
# Separators, comments and what begins with a pair

A comment to the end of the line and a carriage return at the end of a text are prolonged
by a line feed; all else that separates tokens stands.
-/

namespace TableCatalog.Lexer

variable (line : Bool) {grammar : Grammar} {token : Token} {after : Cursor} {place : Location}

/-- A comment that runs to the end of the line stands if it has found that end, and in any
case if nothing else follows. -/
theorem stands_lineComment {c : Char} (lead : List Char) {rest : List Char} {step : Cursor → Step}
    (opens : ∀ rest place, step ⟨c :: (lead ++ rest), place⟩ =
      lineComment grammar (c :: lead).length ⟨c :: (lead ++ rest), place⟩)
    (solid : line = true → after.rest ≠ [])
    (found : step ⟨c :: (lead ++ rest), place⟩ = .ok (token, after)) :
    Stands line c step (lead ++ rest) token after := by
  obtain ⟨run, tail, rfl, inside, stop⟩ := exists_run
    (fun c => !(c == '\n' || (c == '\r' && grammar == .postgres))) rest
  have taken (kept : List Char) : (c :: (lead ++ kept)).take (c :: lead).length = c :: lead := by
    simp
  have skipped (kept : List Char) (place : Location) :
      (Cursor.mk (c :: (lead ++ kept)) place).skip (c :: lead).length =
        ⟨kept, place.after (c :: lead)⟩ := by
    rw [← List.cons_append]
    exact Cursor.skip_append place rfl
  simp only [opens, lineComment, taken, skipped, Cursor.span_run _ inside stop] at found
  cases tail with
  | nil =>
    obtain ⟨rfl, rfl⟩ := Prod.mk.inj (Except.ok.inj found)
    refine ⟨lead ++ run, by simp [Cursor.skip, Cursor.past], fun kept place continues => ?_⟩
    obtain rfl := continues.of_nil line solid
    simp only [List.append_assoc, opens, lineComment, taken, skipped, Cursor.span_run _ inside stop]
    simp [Cursor.skip, Cursor.past, Location.after_append, Location.after_cons, Location.after_nil]
  | cons d tail =>
    obtain ⟨rfl, rfl⟩ := Prod.mk.inj (Except.ok.inj found)
    refine ⟨lead ++ (run ++ [d]), by simp, fun kept place continues => ?_⟩
    have stop : ∀ c, (d :: kept).head? = some c → _ = false := fun c first => stop c first
    simp only [List.append_assoc, List.cons_append, List.nil_append, opens, lineComment, taken,
      skipped, Cursor.span_run _ inside stop]
    simp [Location.after_append, Location.after_cons, Location.after_nil]

/-- A block comment stands, as it is read up to its own end. -/
theorem stands_blockComment {rest : List Char} {step : Cursor → Step}
    (opens : ∀ rest place, step ⟨'/' :: '*' :: rest, place⟩ =
      blockComment grammar ⟨'/' :: '*' :: rest, place⟩)
    (found : step ⟨'/' :: '*' :: rest, place⟩ = .ok (token, after)) :
    Stands line '/' step ('*' :: rest) token after := by
  simp only [opens, blockComment] at found
  obtain ⟨content, inside, rfl⟩ := closed_eq_ok.1 found
  obtain ⟨run, shape, stands⟩ := Quoted.settled_comment line inside
  refine ⟨'*' :: run, congrArg ('*' :: ·) shape, fun kept place continues => ?_⟩
  simp only [List.cons_append, opens, blockComment]
  exact closed_eq_ok.2 ⟨content, stands kept _ continues, rfl⟩

/-- The next token of a text that begins with a character. -/
def nextFrom (grammar : Grammar) (c : Char) (cursor : Cursor) : Step :=
  next grammar c cursor.rest.tail cursor

/-- Whether a character and the one behind it begin a comment or an integer division. -/
def isPair (c : Char) (rest : List Char) : Bool :=
  (c == '-' && rest.head? == some '-') ||
    (c == '/' && (rest.head? == some '*' || rest.head? == some '/'))

variable {line} in
/-- A pair that follows was one before. -/
theorem isPair_of_continues {c : Char} {rest kept : List Char}
    (continues : Continues line rest kept) (pair : isPair c kept = true) :
    isPair c rest = true := by
  have quoted (d : Char) (printed : d ≠ '\n') : kept.head? = some d → rest.head? = some d :=
    continues.printed_head? printed
  simp only [isPair, Bool.or_eq_true, Bool.and_eq_true, beq_iff_eq] at pair ⊢
  exact pair.imp (And.imp_right (quoted '-' (by decide)))
    (And.imp_right (Or.imp (quoted '*' (by decide)) (quoted '/' (by decide))))

/-- A separating character stands, except for a carriage return that ends the text. -/
theorem stands_separator {c : Char} {rest : List Char} (separate : c ∈ [' ', '\t', '\n', '\r'])
    (solid : line = true → (opensLine grammar c rest || takesLine grammar token) = true →
      after.rest ≠ [])
    (found : nextFrom grammar c ⟨c :: rest, place⟩ = .ok (token, after)) :
    Stands line c (nextFrom grammar c) rest token after := by
  simp only [List.mem_cons, List.not_mem_nil, or_false] at separate
  rcases separate with rfl | rfl | rfl | rfl
  case' inl | inr.inl | inr.inr.inl =>
    obtain ⟨rfl, rfl⟩ := Prod.mk.inj (Except.ok.inj found)
    exact ⟨[], rfl, fun kept place _ => rfl⟩
  cases rest with
  | nil =>
    obtain ⟨rfl, rfl⟩ := Prod.mk.inj (Except.ok.inj found)
    refine ⟨[], rfl, fun kept place continues => ?_⟩
    obtain rfl := continues.of_nil line fun allowed => solid allowed rfl
    rfl
  | cons d rest =>
    by_cases feed : d = '\n'
    · subst feed
      obtain ⟨rfl, rfl⟩ := Prod.mk.inj (Except.ok.inj found)
      exact ⟨['\n'], rfl, fun kept place _ => rfl⟩
    · have opens (rest : List Char) (place : Location) :
          nextFrom grammar '\r' ⟨'\r' :: d :: rest, place⟩ =
            .ok (.gap .newline, ⟨d :: rest, place.next '\r'⟩) := by
        simp [nextFrom, next, feed]
      obtain ⟨rfl, rfl⟩ := Prod.mk.inj (Except.ok.inj ((opens rest place).symm.trans found))
      refine ⟨[], rfl, fun kept place continues => ?_⟩
      rcases continues.of_cons_left with rfl | ⟨tail, rfl, -⟩
      · rfl
      · exact opens tail place

/-- What a pair of characters begins stands, unless it is a comment that ends the text. -/
theorem stands_pair {c : Char} {rest : List Char} (pair : isPair c rest = true)
    (solid : line = true → (opensLine grammar c rest || takesLine grammar token) = true →
      after.rest ≠ [])
    (found : nextFrom grammar c ⟨c :: rest, place⟩ = .ok (token, after)) :
    Stands line c (nextFrom grammar c) rest token after := by
  have pair : (c = '-' ∧ rest.head? = some '-') ∨ (c = '/' ∧ rest.head? = some '*') ∨
      (c = '/' ∧ rest.head? = some '/') := by
    simpa [isPair, and_or_left] using pair
  rcases pair with ⟨rfl, first⟩ | ⟨rfl, first⟩ | ⟨rfl, first⟩
  · obtain ⟨rest, rfl⟩ := List.head?_eq_some_iff.1 first
    exact stands_lineComment line ['-'] (fun _ _ => rfl) (fun allowed => solid allowed rfl) found
  · obtain ⟨rest, rfl⟩ := List.head?_eq_some_iff.1 first
    exact stands_blockComment line (fun _ _ => rfl) found
  · obtain ⟨rest, rfl⟩ := List.head?_eq_some_iff.1 first
    by_cases comments : grammar.hasSlashComments = true
    · have opens (rest : List Char) (place : Location) :
          nextFrom grammar '/' ⟨'/' :: (['/'] ++ rest), place⟩ =
            lineComment grammar ['/', '/'].length ⟨'/' :: (['/'] ++ rest), place⟩ := by
        simp [nextFrom, next, comments]
      exact stands_lineComment line ['/'] opens
        (fun allowed => solid allowed (by simp [opensLine, comments])) found
    · by_cases division : grammar.hasIntegerDivision = true
      · have opens (rest : List Char) (place : Location) :
            nextFrom grammar '/' ⟨'/' :: '/' :: rest, place⟩ =
              .ok (.symbol "//", ⟨rest, (place.next '/').next '/'⟩) := by
          simp [nextFrom, next, comments, division]
        obtain ⟨rfl, rfl⟩ := Prod.mk.inj (Except.ok.inj ((opens rest place).symm.trans found))
        exact ⟨['/'], rfl, fun kept place _ => opens kept place⟩
      · have opens (rest : List Char) (place : Location) :
            nextFrom grammar '/' ⟨'/' :: '/' :: rest, place⟩ =
              operator grammar ⟨'/' :: '/' :: rest, place⟩ := by
          simp [nextFrom, next, comments, division]
        rw [opens] at found
        refine (stands_operator line found).congr fun kept place continues => ?_
        rcases continues.of_cons_left with rfl | ⟨tail, rfl, -⟩
        · cases grammar <;> rfl
        · exact opens tail place

end TableCatalog.Lexer
