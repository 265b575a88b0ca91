import Mathlib.Data.List.Forall2
import TableCatalog.Proofs.Contained

/-!
# Statements read all at once and one by one

Of contained runs a sequence of tokens makes up the statements that the runs make up one by one:
what is read of the sequence begins with the statement of its first run, and goes on behind the
terminator of that run.
-/

namespace TableCatalog

open ParserInput

variable {grammar : Grammar} {front run run' back : List PlacedToken}

namespace Statement

/-- A run with content begins with a token that is no terminator. -/
theorem exists_first_lexeme (grammar : Grammar)
    (unterminated : ∀ placed ∈ run, placed.token ≠ .semicolon)
    (content : Token.hasContent run = true) (front back : List PlacedToken) :
    ∃ lexeme, (ParserInput.ofTokens grammar (front ++ run ++ back)).lexemes[
      (lexemesOf front).length]? = some lexeme ∧ lexeme.placed.token ≠ .semicolon := by
  have filled := length_lexemesOf_pos content
  have found := lexemes_behind grammar front run back filled
  rw [Nat.add_zero, List.getElem?_eq_getElem filled] at found
  exact ⟨_, found, unterminated _ (mem_of_mem_lexemesOf (List.getElem_mem filled))⟩

/-- What a run that is contained adds to a list of statements. -/
theorem listFrom_run (front : List PlacedToken)
    (unterminated : ∀ placed ∈ run, placed.token ≠ .semicolon)
    (content : Token.hasContent run = true) (ends : Ends back)
    (contained : isContained grammar run = true) (fuel : Nat) :
    let input := ParserInput.ofTokens grammar (front ++ run ++ back)
    let rest := listFrom input (statementAt input) (fuel + 1) false
      ⟨(lexemesOf front).length + (lexemesOf run).length, false⟩
    let outcome := listFrom input (statementAt input) (fuel + 2) true
      ⟨(lexemesOf front).length, false⟩
    match ofRun? grammar run with
    | some statement => outcome = rest.elim (fun others => .done (statement :: others)) .failed
    | none => ∃ error state, outcome = .failed error state := by
  intro input rest outcome
  obtain ⟨lexeme, first, printed⟩ :=
    exists_first_lexeme grammar unterminated content front back
  have start : outcome = (statementAt input ⟨(lexemesOf front).length, false⟩).elim
      (fun first state => (listFrom input (statementAt input) (fuel + 1) false state).elim
        (fun others => .done (first :: others)) .failed) .failed :=
    listFrom_statement first printed (statementAt input) (fuel + 1)
  have placed := locateIn_behind grammar front run back
  cases reading_of_contained front rfl unterminated ends contained with
  | whole read there =>
    simp only [ofRun?, read, Option.map_some]
    rw [start]
    simp only [statementAt, input, there, Parsed.elim, Nat.add_sub_cancel_left, placed, rest]
  | @part _ i lexeme unread there inside goesOn =>
    simp only [ofRun?, unread, Option.map_none]
    have bound := (List.getElem?_eq_some_iff.1 inside).1
    have next := (lexemes_behind grammar front run back bound).trans inside
    have printed := unterminated _ (mem_of_mem_lexemesOf (List.mem_of_getElem? inside))
    refine ⟨.expected "end of statement" (some lexeme.placed),
      ⟨(lexemesOf front).length + i, false⟩, ?_⟩
    rw [start]
    simp only [statementAt, input, there, Parsed.elim, listFrom, next, beq_iff_eq, printed, goesOn,
      if_false, Bool.not_false, if_true]
  | @failed error i unread there =>
    simp only [ofRun?, unread, Option.map_none]
    refine ⟨error, ⟨(lexemesOf front).length + i, false⟩, ?_⟩
    rw [start]
    simp only [statementAt, input, there, Parsed.elim]

/-- A list of statements goes on behind a terminator. -/
theorem listFrom_terminator {input : ParserInput} {position : Nat} {lexeme : Lexeme}
    (found : input.lexemes[position]? = some lexeme) (terminates : lexeme.placed.token = .semicolon)
    (statement : ParserState → Parsed Statement) (fuel : Nat) (delimited strayed : Bool) :
    listFrom input statement (fuel + 1) delimited ⟨position, strayed⟩ =
      listFrom input statement fuel true ⟨position + 1, strayed⟩ := by
  simp [listFrom, found, terminates]

/-- A list of statements ends at the end of the text. -/
theorem listFrom_end {input : ParserInput} {position : Nat}
    (found : input.lexemes[position]? = none) (statement : ParserState → Parsed Statement)
    (fuel : Nat) (delimited strayed : Bool) :
    listFrom input statement (fuel + 1) delimited ⟨position, strayed⟩ =
      .done [] ⟨position, strayed⟩ := by
  simp [listFrom, found]

/-- A statement before others is read exactly if it is one and the others are read. -/
theorem done_cons_iff {outcome rest : Parsed (List Statement)} {read : Option Statement}
    (adds : match read with
      | some statement => outcome = rest.elim (fun others => .done (statement :: others)) .failed
      | none => ∃ error state, outcome = .failed error state) (statements : List Statement) :
    (∃ state, outcome = .done statements state) ↔
      ∃ statement others, read = some statement ∧ (∃ state, rest = .done others state) ∧
        statements = statement :: others := by
  cases read with
  | none =>
    obtain ⟨error, state, rfl⟩ := adds
    simp
  | some statement =>
    obtain rfl := adds
    cases rest with
    | failed error state => simp [Parsed.elim]
    | done others state =>
      constructor
      · rintro ⟨state', shape⟩
        obtain ⟨rfl, rfl⟩ := by simpa [Parsed.elim] using shape
        exact ⟨statement, others, rfl, ⟨_, rfl⟩, rfl⟩
      · rintro ⟨statement', others', same, ⟨state', shape⟩, rfl⟩
        obtain rfl := Option.some.inj same
        obtain ⟨rfl, rfl⟩ := by simpa using shape
        exact ⟨_, rfl⟩

/-- A piece of a script is read as the run that it is, if it is one, before what is read behind
it. -/
theorem listFrom_piece_iff (front : List PlacedToken) {piece : List PlacedToken}
    (unterminated : ∀ placed ∈ piece, placed.token ≠ .semicolon) (ends : Ends back)
    (contained : Token.hasContent piece = true → isContained grammar piece = true)
    (later : List (List PlacedToken)) (least : Nat) :
    let input := ParserInput.ofTokens grammar (front ++ piece ++ back)
    (∀ fuel, least ≤ fuel → ∀ delimited others,
      (∃ state, listFrom input (statementAt input) (fuel + 1) delimited
          ⟨(lexemesOf front).length + (lexemesOf piece).length, false⟩ = .done others state) ↔
        List.Forall₂ (fun run statement => ofRun? grammar run = some statement) later others) →
    ∀ {fuel : Nat}, (lexemesOf piece).length + least < fuel → ∀ statements,
      (∃ state, listFrom input (statementAt input) fuel true ⟨(lexemesOf front).length, false⟩ =
          .done statements state) ↔
        List.Forall₂ (fun run statement => ofRun? grammar run = some statement)
          (if Token.hasContent piece then piece :: later else later) statements := by
  intro input behind fuel enough statements
  by_cases content : Token.hasContent piece = true
  · have filled := length_lexemesOf_pos content
    obtain ⟨fuel, rfl⟩ : ∃ more, fuel = more + 2 := ⟨fuel - 2, by omega⟩
    have adds := listFrom_run front unterminated content ends (contained content) fuel
    rw [if_pos content, done_cons_iff adds, List.forall₂_cons_left_iff]
    refine exists_congr fun statement => exists_congr fun others => and_congr_right fun _ =>
      and_congr_left fun _ => ?_
    exact behind fuel (by omega) false others
  · obtain ⟨fuel, rfl⟩ : ∃ more, fuel = more + 1 := ⟨fuel - 1, by omega⟩
    have blank : lexemesOf piece = [] := lexemesOf_blank (by simpa using content)
    have stays := behind fuel (by omega) true statements
    rw [if_neg content]
    rwa [blank] at stays

/-- From its beginning on, a script is read as its runs are one by one. -/
theorem listFrom_eq_done_iff (tokens : List PlacedToken)
    (contained : ∀ run ∈ Token.runs tokens, isContained grammar run = true) (front : List PlacedToken)
    {fuel : Nat} (enough : (lexemesOf tokens).length < fuel) (statements : List Statement) :
    let input := ParserInput.ofTokens grammar (front ++ tokens)
    (∃ state, listFrom input (statementAt input) fuel true ⟨(lexemesOf front).length, false⟩ =
        .done statements state) ↔
      List.Forall₂ (fun run statement => ofRun? grammar run = some statement) (Token.runs tokens)
        statements := by
  intro input
  induction tokens using Token.pieces_induction generalizing front fuel statements with
  | last piece unterminated =>
    rw [Token.runs_unterminated unterminated] at contained ⊢
    have last := listFrom_piece_iff front unterminated ends_nil
      (fun content => contained piece (by simp [content])) [] 0
    have ended := lexemes_end grammar front piece []
    simp only [List.append_nil] at last ended
    refine last (fun fuel _ delimited others => ?_) enough statements
    rw [listFrom_end ended, List.forall₂_nil_left_iff]
    simp [eq_comm]
  | step piece terminator rest unterminated terminates ih =>
    rw [Token.runs_append unterminated terminates] at contained ⊢
    have solid := isGap_of_terminates terminates
    obtain ⟨key, behind⟩ := exists_lexemesOf_cons solid rest
    have size : (lexemesOf (piece ++ terminator :: rest)).length =
        (lexemesOf piece).length + ((lexemesOf rest).length + 1) := by
      rw [lexemesOf_append, behind, List.length_append, List.length_cons]
    have next : input.lexemes[(lexemesOf front).length + (lexemesOf piece).length]? =
        some ⟨terminator, key⟩ := by
      have last := lexemes_end grammar front piece (terminator :: rest)
      rw [behind, List.append_assoc] at last
      exact last
    have before : (lexemesOf (front ++ (piece ++ [terminator]))).length =
        (lexemesOf front).length + (lexemesOf piece).length + 1 := by
      obtain ⟨_, alone⟩ := exists_lexemesOf_cons solid []
      rw [lexemesOf_append, lexemesOf_append, alone, List.length_append, List.length_append]
      rfl
    have first := listFrom_piece_iff front unterminated (ends_terminator terminates rest)
      (fun content => contained piece (by simp [content])) (Token.runs rest)
      ((lexemesOf rest).length + 1)
    rw [List.append_assoc] at first
    refine first (fun fuel least delimited others => ?_) (size ▸ enough) statements
    -- Behind the terminator the rest of the script is read.
    have later := ih (fun run member => contained run (by split <;> simp [member]))
      (front ++ (piece ++ [terminator])) least others
    have whole : front ++ (piece ++ [terminator]) ++ rest = front ++ (piece ++ terminator :: rest) := by
      simp
    rw [whole, before] at later
    rw [listFrom_terminator next terminates]
    exact later

/-- A script is read as its runs are one by one. -/
theorem ofTokens_eq_ok_iff {tokens : List PlacedToken}
    (contained : ∀ run ∈ Token.runs tokens, isContained grammar run = true)
    (statements : List Statement) :
    ofTokens grammar tokens = .ok statements ↔
      List.Forall₂ (fun run statement => ofRun? grammar run = some statement) (Token.runs tokens)
        statements := by
  have enough : (lexemesOf tokens).length < 2 * (ParserInput.ofTokens grammar tokens).fuel := by
    simp only [ParserInput.ofTokens]
    omega
  refine Iff.trans ?_ (listFrom_eq_done_iff tokens contained [] enough statements)
  simp only [List.nil_append, ofTokens, lexemesOf, List.filter_nil, List.map_nil, List.length_nil]
  generalize listFrom (ParserInput.ofTokens grammar tokens) _ _ true ⟨0, false⟩ = outcome
  cases outcome with
  | done found state => simp
  | failed error state => simp

/-- A run makes up one statement or none. -/
theorem ofTokens_run_eq_ok_iff (unterminated : ∀ placed ∈ run, placed.token ≠ .semicolon)
    (content : Token.hasContent run = true) (contained : isContained grammar run = true)
    (statements : List Statement) :
    ofTokens grammar run = .ok statements ↔
      ∃ statement, ofRun? grammar run = some statement ∧ statements = [statement] := by
  have alone : Token.runs run = [run] := by rw [Token.runs_unterminated unterminated, if_pos content]
  rw [ofTokens_eq_ok_iff (by simpa [alone] using contained), alone, List.forall₂_cons_left_iff]
  simp [List.forall₂_nil_left_iff]

/-- A script with a statement that is contained begins with it, or is not read. -/
theorem exists_cons_of_ofTokens {statements : List Statement}
    (unterminated : ∀ placed ∈ run, placed.token ≠ .semicolon)
    (content : Token.hasContent run = true) (ends : Ends back)
    (contained : isContained grammar run = true)
    (read : ofTokens grammar (run ++ back) = .ok statements) :
    ∃ statement others, ofRun? grammar run = some statement ∧ statements = statement :: others := by
  have filled := length_lexemesOf_pos content
  have enough : ∃ more, 2 * (ParserInput.ofTokens grammar (run ++ back)).fuel = more + 2 := by
    refine ⟨2 * (lexemesOf (run ++ back)).length, ?_⟩
    simp only [ParserInput.ofTokens]
    omega
  obtain ⟨fuel, enough⟩ := enough
  have adds := listFrom_run [] unterminated content ends contained fuel
  rw [ofTokens, enough] at read
  have done : ∃ state, listFrom (ParserInput.ofTokens grammar (run ++ back))
      (statementAt (ParserInput.ofTokens grammar (run ++ back))) (fuel + 2) true ⟨0, false⟩ =
        .done statements state := by
    revert read
    generalize listFrom _ _ _ _ _ = outcome
    cases outcome <;> simp
  obtain ⟨statement, others, found, -, shape⟩ := (done_cons_iff adds statements).1 done
  exact ⟨statement, others, found, shape⟩

end Statement

end TableCatalog
