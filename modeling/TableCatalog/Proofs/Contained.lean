import TableCatalog.Proofs.OneStatement

/-!
# Statements that stay in their run

A run of tokens is contained if its statement is read without a step over its end and is not
followed by the word that ends a list of statements. A contained run is read alike wherever it
stands in a sequence of tokens, and so is any run with the same tokens in other places.
-/

namespace TableCatalog

open ParserInput

variable {grammar : Grammar} {front run run' back : List PlacedToken}

namespace ParserInput

/-- The tokens from a position to the end of its statement are counted right. -/
theorem width_eq {input : ParserInput} {position size count : Nat}
    (inside : ∀ i < size, input.endsAt (position + i) = false)
    (ends : input.endsAt (position + size) = true) (enough : size ≤ count) :
    input.width count position = size := by
  induction size generalizing position count with
  | zero =>
    cases count with
    | zero => rfl
    | succ count => simp [width, show input.endsAt position = true from ends]
  | succ size ih =>
    obtain ⟨count, rfl⟩ : ∃ more, count = more + 1 := ⟨count - 1, by omega⟩
    have first : input.endsAt position = false := inside 0 (by omega)
    have rest : input.width count (position + 1) = size := by
      apply ih
      · intro i bound
        have later := inside (i + 1) (by omega)
        rwa [Nat.add_comm i 1, ← Nat.add_assoc] at later
      · rwa [Nat.add_comm size 1, ← Nat.add_assoc] at ends
      · omega
    simp [width, first, rest]

/-- Places inside a run are the same wherever it stands. -/
theorem locateIn_behind (grammar : Grammar) (front run back : List PlacedToken) :
    { ofTokens grammar (front ++ run ++ back) with base := (lexemesOf front).length }.locateIn
        (lexemesOf run).length =
      (ofTokens grammar run).locateIn (lexemesOf run).length := by
  funext place
  obtain ⟨line, column⟩ := place
  unfold locateIn
  split
  · rename_i inside
    cases line with
    | zero => rfl
    | succ index =>
      have left := lexemes_behind grammar front run back (i := index) inside
      have right : (ofTokens grammar run).lexemes[0 + index]? = (lexemesOf run)[index]? := by
        simp [ofTokens]
      have base : (ofTokens grammar run).base = 0 := rfl
      simp only [locate, base, left, right]
  · rfl

/-- A run is as wide as it has tokens. -/
theorem width_run (grammar : Grammar) (front : List PlacedToken)
    (unterminated : ∀ placed ∈ run, placed.token ≠ .semicolon) (ends : Ends back) :
    (ofTokens grammar (front ++ run ++ back)).width
        (ofTokens grammar (front ++ run ++ back)).lexemes.size (lexemesOf front).length =
      (lexemesOf run).length := by
  apply width_eq
  · exact fun i bound => endsAt_inside grammar unterminated bound
  · exact endsAt_end grammar ends
  · simp only [ofTokens, List.size_toArray, lexemesOf_append, List.length_append]
    omega

end ParserInput

namespace Parsed

variable {α : Type} {size : Nat} {input input' : ParserInput} {first second : Parsed α}

/-- Outcomes that agree do so too if those that have strayed are replaced by others. -/
theorem Agree.replace (agree : Agree size input input' first second) (other other' : Parsed α) :
    Agree size input input' (if first.state.strayed then other.astray else first)
      (if second.state.strayed then other'.astray else second) := by
  cases agree with
  | strayed left right =>
    rw [if_pos left, if_pos right]
    exact .strayed other.strayed_astray other'.strayed_astray
  | done level =>
    obtain ⟨i, bound, rfl, rfl⟩ := level
    exact .done ⟨i, bound, rfl, rfl⟩
  | failed level deep =>
    obtain ⟨i, bound, rfl, rfl⟩ := level
    exact .failed ⟨i, bound, rfl, rfl⟩ deep

end Parsed

namespace Statement

/-- A run that stands before its end is read like any run of the same tokens. -/
theorem readAt_agree (grammar : Grammar) (front : List PlacedToken)
    (same : run.map (·.token) = run'.map (·.token))
    (unterminated : ∀ placed ∈ run, placed.token ≠ .semicolon) (ends : Ends back)
    (strayed strayed' : Bool) :
    Parsed.Agree (lexemesOf run).length
      { ParserInput.ofTokens grammar (front ++ run ++ back) with base := (lexemesOf front).length }
      (ParserInput.ofTokens grammar run')
      (readAt (ParserInput.ofTokens grammar (front ++ run ++ back))
        ⟨(lexemesOf front).length, strayed⟩)
      (readAt (ParserInput.ofTokens grammar run') ⟨0, strayed'⟩) := by
  have size : (lexemesOf run).length = (lexemesOf run').length := by
    simpa using congrArg List.length (lexemesOf_counted same 0)
  have left := width_run grammar front unterminated ends
  have right : (ParserInput.ofTokens grammar run').width
      (ParserInput.ofTokens grammar run').lexemes.size 0 = (lexemesOf run).length := by
    have alone := width_run grammar [] (unterminated_of_same same unterminated) ends_nil
    rw [size]
    simp only [List.nil_append, List.append_nil] at alone
    exact alone
  have alike := alike_ofTokens grammar front same unterminated ends
    ((lexemesOf run).length + 1)
  have agree := (parserWithin (lexemesOf run).length maxDepth).uniform.agrees _ _ _ alike
    ⟨(lexemesOf front).length, false⟩ ⟨0, false⟩ ⟨0, by omega, rfl, rfl⟩
  have agree : Parsed.Agree (lexemesOf run).length
      { ParserInput.ofTokens grammar (front ++ run ++ back) with base := (lexemesOf front).length }
      (ParserInput.ofTokens grammar run') _ _ := agree.of_base rfl rfl
  unfold readAt
  simp only [left, right]
  exact agree.replace _ _

/-- The statement that all of a run makes up, its places told by the numbers of its tokens. -/
def read? (grammar : Grammar) (run : List PlacedToken) : Option Statement :=
  match readAt (ParserInput.ofTokens grammar run) ⟨0, false⟩ with
  | .done statement state =>
    if state.position = (lexemesOf run).length then some statement else none
  | .failed _ _ => none

/-- The statement that all of a run makes up. -/
def ofRun? (grammar : Grammar) (run : List PlacedToken) : Option Statement :=
  (read? grammar run).map
    (·.relocate ((ParserInput.ofTokens grammar run).locateIn (lexemesOf run).length))

/-- Whether an outcome is reached inside a statement, and `END` does not follow there. -/
def staysIn (lexemes : List Lexeme) : Parsed Statement → Bool
  | .done _ state =>
    !state.strayed && state.position ≤ lexemes.length &&
      lexemes[state.position]?.all (·.key != "END")
  | .failed _ state => !state.strayed

/-- Whether the statement of a run is read without a step over its end, and `END` does not
follow it. -/
def isContained (grammar : Grammar) (run : List PlacedToken) : Bool :=
  staysIn (lexemesOf run) (readAt (ParserInput.ofTokens grammar run) ⟨0, false⟩)

theorem staysIn_of_strayed {outcome : Parsed Statement} (strayed : outcome.state.strayed = true)
    (lexemes : List Lexeme) : staysIn lexemes outcome = false := by
  cases outcome with
  | done statement state =>
    have strayed : state.strayed = true := strayed
    simp [staysIn, strayed]
  | failed error state =>
    have strayed : state.strayed = true := strayed
    simp [staysIn, strayed]

/-- What a run that is contained is read as wherever it stands: a statement up to its end, a
statement up to a token inside it that does not end a list, or nothing. -/
inductive Reading (grammar : Grammar) (front run back run' : List PlacedToken) : Prop where
  | whole {statement : Statement} (read : read? grammar run' = some statement)
      (there : readAt (ParserInput.ofTokens grammar (front ++ run ++ back))
        ⟨(lexemesOf front).length, false⟩ =
          .done statement ⟨(lexemesOf front).length + (lexemesOf run).length, false⟩)
  | part {statement : Statement} {i : Nat} {lexeme : Lexeme} (unread : read? grammar run' = none)
      (there : readAt (ParserInput.ofTokens grammar (front ++ run ++ back))
        ⟨(lexemesOf front).length, false⟩ =
          .done statement ⟨(lexemesOf front).length + i, false⟩)
      (inside : (lexemesOf run)[i]? = some lexeme) (goesOn : lexeme.key ≠ "END")
  | failed {error : ParseError} {i : Nat} (unread : read? grammar run' = none)
      (there : readAt (ParserInput.ofTokens grammar (front ++ run ++ back))
        ⟨(lexemesOf front).length, false⟩ = .failed error ⟨(lexemesOf front).length + i, false⟩)

/-- What stands in a run behind its statement depends on the tokens alone. -/
theorem keys_of_same (same : run.map (·.token) = run'.map (·.token)) (i : Nat) :
    (lexemesOf run)[i]?.all (·.key != "END") = (lexemesOf run')[i]?.all (·.key != "END") := by
  have both := congrArg (·[i]?.map (·.key)) (lexemesOf_counted same 0)
  have counted (run : List PlacedToken) : (((lexemesOf run).map (·.counted 0))[i]?.map (·.key)) =
      (lexemesOf run)[i]?.map (·.key) := by
    simp [Function.comp_def, Lexeme.counted]
  have all (run : List PlacedToken) : (lexemesOf run)[i]?.all (·.key != "END") =
      ((lexemesOf run)[i]?.map (·.key)).all (· != "END") := by
    cases (lexemesOf run)[i]? <;> rfl
  rw [all, all, ← counted, ← counted]
  exact congrArg _ both

/-- A run that is contained is read alike wherever it stands before its end. -/
theorem reading_of_contained (front : List PlacedToken)
    (same : run.map (·.token) = run'.map (·.token))
    (unterminated : ∀ placed ∈ run, placed.token ≠ .semicolon) (ends : Ends back)
    (contained : isContained grammar run' = true) : Reading grammar front run back run' := by
  have size : (lexemesOf run).length = (lexemesOf run').length := by
    simpa using congrArg List.length (lexemesOf_counted same 0)
  have agree := readAt_agree grammar front same unterminated ends false false
  unfold isContained at contained
  generalize shape : readAt (ParserInput.ofTokens grammar run') ⟨0, false⟩ = alone at agree contained
  generalize there : readAt (ParserInput.ofTokens grammar (front ++ run ++ back)) _ = found at agree
  cases agree with
  | strayed left right => simp [staysIn_of_strayed right] at contained
  | @done statement _ _ level =>
    obtain ⟨i, -, rfl, rfl⟩ := level
    have start : (ParserInput.ofTokens grammar run').base + i = i := Nat.zero_add i
    rw [start] at shape contained
    simp only [staysIn, Bool.not_false, Bool.true_and, Bool.and_eq_true, decide_eq_true_eq] at contained
    obtain ⟨bound, goesOn⟩ := contained
    by_cases last : i = (lexemesOf run').length
    · subst last
      have read : read? grammar run' = some statement := by simp [read?, shape]
      refine .whole read ?_
      rw [there, size]
    · have inside := List.getElem?_eq_getElem (show i < (lexemesOf run).length by omega)
      refine .part (by simp [read?, shape, last]) there inside ?_
      have goesOn := (keys_of_same same i).trans goesOn
      simpa [inside] using goesOn
  | failed level deep =>
    obtain ⟨i, -, rfl, rfl⟩ := level
    exact .failed (by simp [read?, shape]) there

/-- Gaps around a run and the places of its tokens do not matter to what it is read as. -/
theorem read?_of_same (same : run.map (·.token) = run'.map (·.token))
    (unterminated : ∀ placed ∈ run, placed.token ≠ .semicolon)
    (before : lexemesOf front = []) (behind : lexemesOf back = [])
    (contained : isContained grammar run' = true) :
    read? grammar (front ++ run ++ back) = read? grammar run' := by
  have ends : Ends back := by simp [Ends, behind]
  have whole : lexemesOf (front ++ run ++ back) = lexemesOf run := by
    simp only [lexemesOf_append, before, behind, List.nil_append, List.append_nil]
  cases reading_of_contained front same unterminated ends contained with
  | whole read there =>
    simp only [before, List.length_nil, Nat.zero_add] at there
    rw [read, read?, there, whole]
    simp
  | @part _ i _ unread there inside goesOn =>
    have bound : i < (lexemesOf run).length := (List.getElem?_eq_some_iff.1 inside).1
    simp only [before, List.length_nil, Nat.zero_add] at there
    rw [unread, read?, there, whole]
    simp [Nat.ne_of_lt bound]
  | failed unread there =>
    simp only [before, List.length_nil, Nat.zero_add] at there
    rw [unread, read?, there]

/-- Nor do they matter to whether it is contained. -/
theorem isContained_of_same (grammar : Grammar)
    (same : run.map (·.token) = run'.map (·.token))
    (unterminated : ∀ placed ∈ run, placed.token ≠ .semicolon)
    (before : lexemesOf front = []) (behind : lexemesOf back = []) :
    isContained grammar (front ++ run ++ back) = isContained grammar run' := by
  have ends : Ends back := by simp [Ends, behind]
  have size : (lexemesOf run).length = (lexemesOf run').length := by
    simpa using congrArg List.length (lexemesOf_counted same 0)
  have whole : lexemesOf (front ++ run ++ back) = lexemesOf run := by
    simp only [lexemesOf_append, before, behind, List.nil_append, List.append_nil]
  have agree := readAt_agree grammar front same unterminated ends false false
  unfold isContained
  rw [before] at agree
  rw [whole]
  generalize readAt (ParserInput.ofTokens grammar run') ⟨0, false⟩ = alone at agree ⊢
  generalize readAt (ParserInput.ofTokens grammar (front ++ run ++ back)) _ = found at agree ⊢
  cases agree with
  | strayed left right => rw [staysIn_of_strayed left, staysIn_of_strayed right]
  | done level =>
    obtain ⟨i, -, rfl, rfl⟩ := level
    have left : 0 + i = i := Nat.zero_add i
    have right : (ParserInput.ofTokens grammar run').base + i = i := Nat.zero_add i
    simp only [staysIn, List.length_nil, left, right, size, keys_of_same same]
  | failed level deep =>
    obtain ⟨i, -, rfl, rfl⟩ := level
    rfl

end Statement

end TableCatalog
