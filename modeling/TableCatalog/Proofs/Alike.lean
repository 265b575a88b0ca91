import Mathlib.Data.List.Forall2
import TableCatalog.Statement.Parser

/-!
# The same statement among other tokens

What a parser sees of a statement are its tokens and the gaps between them. So a run of tokens
without a terminator is the same statement wherever it stands before a terminator or at the
end, and wherever its tokens are placed.
-/

namespace TableCatalog.ParserInput

variable {grammar : Grammar} {front run run' back : List PlacedToken}

/-- The lexemes of runs one after another are those of the runs. -/
theorem lexemesOf_append (first second : List PlacedToken) :
    lexemesOf (first ++ second) = lexemesOf first ++ lexemesOf second := by
  simp [lexemesOf]

/-- Gaps are no lexemes. -/
theorem lexemesOf_gap {placed : PlacedToken} (gap : placed.token.isGap = true)
    (rest : List PlacedToken) : lexemesOf (placed :: rest) = lexemesOf rest := by
  simp [lexemesOf, gap]

/-- Any other token is one, with the keyword that it may be. -/
theorem exists_lexemesOf_cons {placed : PlacedToken} (solid : placed.token.isGap = false)
    (rest : List PlacedToken) :
    ∃ key, lexemesOf (placed :: rest) = ⟨placed, key⟩ :: lexemesOf rest := by
  simp [lexemesOf, solid]

/-- Every lexeme is a token of its run. -/
theorem mem_of_mem_lexemesOf {lexeme : Lexeme} (inside : lexeme ∈ lexemesOf run) :
    lexeme.placed ∈ run := by
  simp only [lexemesOf, List.mem_map, List.mem_filter] at inside
  obtain ⟨placed, ⟨member, -⟩, rfl⟩ := inside
  exact member

/-- Runs with the same tokens have them one by one. -/
theorem forall₂_of_same (same : run.map (·.token) = run'.map (·.token)) :
    List.Forall₂ (fun placed placed' => placed.token = placed'.token) run run' := by
  rwa [← List.forall₂_eq_eq_eq, List.forall₂_map_left_iff, List.forall₂_map_right_iff] at same

/-- Lexemes are the same up to their places if the tokens are. -/
theorem lexemesOf_counted (same : run.map (·.token) = run'.map (·.token)) (index : Nat) :
    (lexemesOf run).map (·.counted index) = (lexemesOf run').map (·.counted index) := by
  induction forall₂_of_same same with
  | nil => rfl
  | @cons placed placed' run run' token _ ih =>
    have rest := ih (List.cons.inj same).2
    cases gap : placed.token.isGap with
    | true => rw [lexemesOf_gap gap, lexemesOf_gap (token ▸ gap), rest]
    | false =>
      have gap' : placed'.token.isGap = false := token ▸ gap
      simp only [lexemesOf, List.filter_cons, gap, gap', Bool.not_false, if_true, List.map_cons]
      simp only [lexemesOf] at rest
      rw [rest]
      simp [Lexeme.counted, token]

/-- A gap in front joins the first gaps and leaves the others. -/
theorem gapRuns_gap {placed : PlacedToken} (gap : placed.token.isGap = true)
    (rest : List PlacedToken) (i : Nat) :
    (gapRuns (placed :: rest))[i]? =
      (gapRuns rest)[i]?.map fun gaps => if i = 0 then placed :: gaps else gaps := by
  have shape : gapRuns rest ≠ [] := by
    cases rest with
    | nil => simp [gapRuns]
    | cons next rest =>
      rw [gapRuns]
      split
      · split <;> simp
      · simp
  rw [gapRuns, if_pos gap]
  cases found : gapRuns rest with
  | nil => exact absurd found shape
  | cons first others => cases i <;> simp

/-- A token that is no gap has no gaps in front of its own. -/
theorem gapRuns_solid {placed : PlacedToken} (solid : placed.token.isGap = false)
    (rest : List PlacedToken) : gapRuns (placed :: rest) = [] :: gapRuns rest := by
  simp [gapRuns, solid]

/-- The gaps behind a token do not depend on what stands before it. -/
theorem gapRuns_behind (front rest : List PlacedToken) {i : Nat} (positive : 0 < i) :
    (gapRuns (front ++ rest))[(lexemesOf front).length + i]? = (gapRuns rest)[i]? := by
  induction front with
  | nil => simp [lexemesOf]
  | cons placed front ih =>
    cases gap : placed.token.isGap with
    | true =>
      have later : (lexemesOf front).length + i ≠ 0 := by omega
      rw [lexemesOf_gap gap, List.cons_append, gapRuns_gap gap, ih]
      simp only [if_neg later, Option.map_id']
    | false =>
      obtain ⟨key, shape⟩ := exists_lexemesOf_cons gap front
      rw [shape, List.cons_append, gapRuns_solid gap, List.length_cons, Nat.add_right_comm,
        List.getElem?_cons_succ, ih]

/-- The gaps before a token do not depend on what stands behind it. -/
theorem gapRuns_before (run back : List PlacedToken) {i : Nat}
    (inside : i < (lexemesOf run).length) :
    (gapRuns (run ++ back))[i]? = (gapRuns run)[i]? := by
  induction run generalizing i with
  | nil => simp [lexemesOf] at inside
  | cons placed run ih =>
    cases gap : placed.token.isGap with
    | true =>
      rw [lexemesOf_gap gap] at inside
      rw [List.cons_append, gapRuns_gap gap, gapRuns_gap gap, ih inside]
    | false =>
      obtain ⟨key, shape⟩ := exists_lexemesOf_cons gap run
      rw [shape, List.length_cons] at inside
      rw [List.cons_append, gapRuns_solid gap, gapRuns_solid gap]
      cases i with
      | zero => rfl
      | succ i => simpa using ih (by omega)

/-- The tokens of gaps are the same if all tokens are. -/
theorem gapRuns_tokens (same : run.map (·.token) = run'.map (·.token)) (i : Nat) :
    (gapRuns run)[i]?.map (·.map (·.token)) = (gapRuns run')[i]?.map (·.map (·.token)) := by
  induction forall₂_of_same same generalizing i with
  | nil => rfl
  | @cons placed placed' run run' token _ ih =>
    have same := (List.cons.inj same).2
    cases gap : placed.token.isGap with
    | true =>
      have rest := ih same i
      rw [gapRuns_gap gap, gapRuns_gap (token ▸ gap : placed'.token.isGap = true)]
      by_cases start : i = 0
      · simp only [start, if_true, Option.map_map] at rest ⊢
        have grown := congrArg (Option.map (placed.token :: ·)) rest
        simp only [Option.map_map] at grown
        simpa [Function.comp_def, token] using grown
      · simpa [start] using rest
    | false =>
      rw [gapRuns_solid gap, gapRuns_solid (token ▸ gap : placed'.token.isGap = false)]
      cases i with
      | zero => rfl
      | succ i => simpa using ih same i

/-- The lexemes of a run behind others. -/
theorem lexemes_behind (grammar : Grammar) (front run back : List PlacedToken) {i : Nat}
    (inside : i < (lexemesOf run).length) :
    (ofTokens grammar (front ++ run ++ back)).lexemes[(lexemesOf front).length + i]? =
      (lexemesOf run)[i]? := by
  simp only [ofTokens, List.getElem?_toArray, lexemesOf_append, List.append_assoc]
  rw [List.getElem?_append_right (by omega), Nat.add_sub_cancel_left,
    List.getElem?_append_left inside]

/-- What ends a run that stands before something else. -/
theorem lexemes_end (grammar : Grammar) (front run back : List PlacedToken) :
    (ofTokens grammar (front ++ run ++ back)).lexemes[(lexemesOf front).length +
      (lexemesOf run).length]? = (lexemesOf back)[0]? := by
  simp only [ofTokens, List.getElem?_toArray, lexemesOf_append, List.append_assoc]
  rw [List.getElem?_append_right (by omega), Nat.add_sub_cancel_left,
    List.getElem?_append_right (by omega), Nat.sub_self]

/-- A terminator or nothing follows. -/
def Ends (back : List PlacedToken) : Prop :=
  ∀ lexeme, (lexemesOf back)[0]? = some lexeme → lexeme.placed.token = .semicolon

theorem ends_nil : Ends [] := by
  simp [Ends, lexemesOf]

/-- A terminator is no gap. -/
theorem isGap_of_terminates {terminator : PlacedToken}
    (terminates : terminator.token = .semicolon) : terminator.token.isGap = false := by
  rw [terminates]
  rfl

/-- A run ends before a terminator. -/
theorem ends_terminator {terminator : PlacedToken} (terminates : terminator.token = .semicolon)
    (rest : List PlacedToken) : Ends (terminator :: rest) := by
  intro lexeme first
  obtain ⟨key, shape⟩ := exists_lexemesOf_cons (isGap_of_terminates terminates) rest
  rw [shape] at first
  exact Option.some.inj first ▸ terminates

/-- The input ends where a terminator comes next. -/
theorem endsAt_of_lexeme {input : ParserInput} {position : Nat} {lexeme : Lexeme}
    (found : input.lexemes[position]? = some lexeme) :
    input.endsAt position = (lexeme.placed.token == .semicolon) := by
  simp [endsAt, found]

/-- A run goes on to its last token. -/
theorem endsAt_inside (grammar : Grammar)
    (unterminated : ∀ placed ∈ run, placed.token ≠ .semicolon) {i : Nat}
    (inside : i < (lexemesOf run).length) :
    (ofTokens grammar (front ++ run ++ back)).endsAt ((lexemesOf front).length + i) = false := by
  have found := lexemes_behind grammar front run back inside
  rw [List.getElem?_eq_getElem inside] at found
  rw [endsAt_of_lexeme found]
  simpa using unterminated _ (mem_of_mem_lexemesOf (List.getElem_mem inside))

/-- A run ends before a terminator. -/
theorem endsAt_end (grammar : Grammar) (ends : Ends back) :
    (ofTokens grammar (front ++ run ++ back)).endsAt
      ((lexemesOf front).length + (lexemesOf run).length) = true := by
  have found := lexemes_end grammar front run back
  cases next : (lexemesOf back)[0]? with
  | none => simp only [endsAt, found, next]
  | some lexeme =>
    rw [endsAt_of_lexeme (found.trans next), ends lexeme next]
    rfl

/-- The gaps inside a run. -/
theorem gapsAt_behind (grammar : Grammar) (front run back : List PlacedToken) {i : Nat}
    (inside : i < (lexemesOf run).length) (positive : 0 < i) :
    (ofTokens grammar (front ++ run ++ back)).gapsAt ((lexemesOf front).length + i) =
      (gapRuns run)[i]?.getD [] := by
  simp only [gapsAt, ofTokens, List.getElem?_toArray, List.append_assoc]
  rw [gapRuns_behind front (run ++ back) positive, gapRuns_before run back inside]

/-- Whether there is a terminator depends on the tokens alone. -/
theorem unterminated_of_same (same : run.map (·.token) = run'.map (·.token))
    (unterminated : ∀ placed ∈ run, placed.token ≠ .semicolon) :
    ∀ placed ∈ run', placed.token ≠ .semicolon := by
  intro placed member
  have named : placed.token ∈ run'.map (·.token) := List.mem_map_of_mem member
  rw [← same] at named
  obtain ⟨other, inside, token⟩ := List.mem_map.1 named
  exact token ▸ unterminated other inside

/-- A run that stands before its end is the same statement as any run of the same tokens. -/
theorem alike_ofTokens (grammar : Grammar) (front : List PlacedToken)
    (same : run.map (·.token) = run'.map (·.token))
    (unterminated : ∀ placed ∈ run, placed.token ≠ .semicolon) (ends : Ends back) (fuel : Nat) :
    Alike (lexemesOf run).length
      { ofTokens grammar (front ++ run ++ back) with base := (lexemesOf front).length, fuel }
      { ofTokens grammar run' with base := 0, fuel } := by
  have counted := lexemesOf_counted same
  have size : (lexemesOf run).length = (lexemesOf run').length := by
    simpa using congrArg List.length (counted 0)
  have unterminated' := unterminated_of_same same unterminated
  have whole : ofTokens grammar run' = ofTokens grammar ([] ++ run' ++ []) := by simp
  have start (i : Nat) : i = (lexemesOf []).length + i := by simp [lexemesOf]
  constructor
  case grammar | fuel | depth | hasPrior => rfl
  case inside =>
    intro i bound
    refine ⟨endsAt_inside grammar unterminated bound, ?_⟩
    show (ofTokens grammar run').endsAt (0 + i) = false
    rw [whole, Nat.zero_add, start i]
    exact endsAt_inside grammar unterminated' (size ▸ bound)
  case lexeme =>
    intro i bound
    have left := lexemes_behind grammar front run back bound
    have right : (ofTokens grammar run').lexemes[0 + i]? = (lexemesOf run')[i]? := by
      simp [ofTokens]
    have both := congrArg (·[i]?) (counted i)
    simp only [List.getElem?_map] at both
    simp only [lexeme?, left, right, Nat.add_sub_cancel_left, both]
  case gaps =>
    intro i bound positive
    have left := gapsAt_behind grammar front run back bound positive
    have right : (ofTokens grammar run').gapsAt (0 + i) = (gapRuns run')[i]?.getD [] := by
      simp [gapsAt, ofTokens]
    have both := gapRuns_tokens same i
    show ((ofTokens grammar (front ++ run ++ back)).gapsAt _).map _ =
      ((ofTokens grammar run').gapsAt (0 + i)).map _
    rw [left, right]
    cases first : (gapRuns run)[i]? <;> cases second : (gapRuns run')[i]? <;>
      simp [first, second] at both ⊢
    exact both
  case ends =>
    refine ⟨endsAt_end grammar ends, ?_⟩
    show (ofTokens grammar run').endsAt (0 + (lexemesOf run).length) = true
    rw [whole, Nat.zero_add, size, start (lexemesOf run').length]
    exact endsAt_end grammar ends_nil

end TableCatalog.ParserInput
