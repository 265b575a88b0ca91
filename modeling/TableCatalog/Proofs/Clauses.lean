import TableCatalog.Proofs.Pieces
import TableCatalog.Token.PartitionClause

/-!
# What is left of a script without its partition clauses

Taking out partition clauses does not empty a statement, since a clause begins behind a
closed group. It may take out whole statements: those behind a terminator at which the clause
has a parenthesis open.
-/

namespace TableCatalog.PartitionClause

open Token

variable {tokens piece rest : List PlacedToken} {terminator : PlacedToken} {state : State}

/-- The state behind tokens. -/
def State.through : State → List PlacedToken → State
  | state, [] => state
  | state, placed :: rest => (state.enter placed.token rest).through rest

/-- A terminator is no keyword that a look ahead might find. -/
theorem leadsWith_append (terminates : terminator.token = .semicolon) (keyword : String)
    (piece rest : List PlacedToken) :
    leadsWith keyword (piece ++ terminator :: rest) = leadsWith keyword piece := by
  have solid : terminator.token.isGap = false := by
    rw [terminates]
    rfl
  have other : terminator.token.isKeyword keyword = false := by
    rw [terminates]
    rfl
  unfold leadsWith
  rw [List.find?_append]
  cases piece.find? fun placed => !placed.token.isGap with
  | none => simp [solid, other]
  | some placed => rfl

/-- Whether a clause begins is told without what stands behind the next terminator. -/
theorem enter_append (terminates : terminator.token = .semicolon) (state : State) (token : Token)
    (piece rest : List PlacedToken) :
    state.enter token (piece ++ terminator :: rest) = state.enter token piece := by
  unfold State.enter
  rw [leadsWith_append terminates]

/-- What is kept of a piece does not depend on what follows it. -/
theorem kept_append (terminates : terminator.token = .semicolon) (state : State)
    (piece rest : List PlacedToken) :
    kept state (piece ++ terminator :: rest) =
      kept state piece ++ kept (state.through piece) (terminator :: rest) := by
  induction piece generalizing state with
  | nil => rfl
  | cons placed piece ih =>
    have step (tail : List PlacedToken) : kept state (placed :: tail) =
        if (state.enter placed.token tail).dropping then kept (state.enter placed.token tail) tail
        else placed :: kept (state.enter placed.token tail) tail := rfl
    rw [List.cons_append, step, step, enter_append terminates, State.through, ih]
    split
    · rfl
    · rw [List.cons_append]

/-- A terminator outside parentheses makes a fresh start; inside it changes nothing. -/
theorem enter_terminator (state : State) (rest : List PlacedToken) :
    state.enter .semicolon rest = if state.depth = 0 then State.initial else state :=
  rfl

/-- A terminator outside all parentheses ends a clause and a statement. -/
theorem kept_terminator_closed (terminates : terminator.token = .semicolon)
    (closed : state.depth = 0) (rest : List PlacedToken) :
    kept state (terminator :: rest) = terminator :: kept State.initial rest := by
  simp only [kept, terminates, enter_terminator, if_pos closed]
  rfl

/-- A terminator inside parentheses ends nothing. -/
theorem kept_terminator_open (terminates : terminator.token = .semicolon)
    (opened : state.depth ≠ 0) (rest : List PlacedToken) :
    kept state (terminator :: rest) =
      if state.dropping then kept state rest else terminator :: kept state rest := by
  simp only [kept, terminates, enter_terminator, if_neg opened]

/-- A state in which no clause has begun, nor can it begin with the next token. -/
structure State.Fresh (state : State) : Prop where
  keeping : state.dropping = false
  ungrouped : state.depth = 0 → state.grouped = false

theorem fresh_initial : State.initial.Fresh :=
  ⟨rfl, fun _ => rfl⟩

/-- Gaps change nothing. -/
theorem enter_gap {token : Token} (gap : token.isGap = true) (state : State)
    (rest : List PlacedToken) : state.enter token rest = state := by
  cases token <;> simp [Token.isGap] at gap
  simp [State.enter, Token.isKeyword]

/-- The first token of a statement is kept. -/
theorem State.Fresh.enter (fresh : state.Fresh) (token : Token) (rest : List PlacedToken) :
    (state.enter token rest).dropping = false := by
  unfold State.enter
  split
  · split
    · rfl
    · exact fresh.keeping
  · exact fresh.keeping
  · exact fresh.keeping
  · split
    · rename_i begins
      simp only [Bool.and_eq_true, decide_eq_true_eq] at begins
      obtain ⟨⟨⟨outside, grouped⟩, -⟩, -⟩ := begins
      simp [fresh.ungrouped outside] at grouped
    · exact fresh.keeping

/-- No statement is emptied. -/
theorem hasContent_kept (fresh : state.Fresh) (piece : List PlacedToken) :
    hasContent (kept state piece) = hasContent piece := by
  induction piece with
  | nil => rfl
  | cons placed piece ih =>
    cases gap : placed.token.isGap with
    | true =>
      simp only [kept, enter_gap gap, fresh.keeping, Bool.false_eq_true, if_false]
      simpa [hasContent, gap] using ih
    | false =>
      simp only [kept, fresh.enter, Bool.false_eq_true, if_false]
      simp [hasContent, gap]

/-- A clause goes on to a terminator. -/
theorem enter_dropping (dropping : state.dropping = true) {token : Token}
    (printed : token ≠ .semicolon) (rest : List PlacedToken) :
    (state.enter token rest).dropping = true := by
  unfold State.enter
  split
  · exact absurd rfl printed
  · exact dropping
  · exact dropping
  · split
    · rfl
    · exact dropping

/-- Within a clause nothing is kept, and a run without a terminator does not leave it. -/
theorem kept_dropping (dropping : state.dropping = true)
    (unterminated : ∀ placed ∈ piece, placed.token ≠ .semicolon) :
    kept state piece = [] ∧ (state.through piece).dropping = true := by
  induction piece generalizing state with
  | nil => exact ⟨rfl, dropping⟩
  | cons placed piece ih =>
    have here := enter_dropping dropping (unterminated placed List.mem_cons_self) piece
    have later :=
      ih here fun other member => unterminated other (List.mem_cons_of_mem placed member)
    simpa [kept, here, State.through] using later

/-- What is kept of a run has no terminator. -/
theorem unterminated_kept (unterminated : ∀ placed ∈ piece, placed.token ≠ .semicolon)
    (state : State) : ∀ placed ∈ kept state piece, placed.token ≠ .semicolon :=
  fun placed member => unterminated placed ((kept_sublist state piece).subset member)

/-- Behind a clause that has begun, something is kept from a terminator on only. -/
theorem kept_dropping_cases (dropping : state.dropping = true) (tokens : List PlacedToken) :
    kept state tokens = [] ∨
      ∃ terminator rest, kept state tokens = terminator :: rest ∧
        terminator.token = .semicolon := by
  induction tokens using pieces_induction generalizing state with
  | last piece unterminated => exact .inl (kept_dropping dropping unterminated).1
  | step piece terminator rest unterminated terminates ih =>
    obtain ⟨nothing, goesOn⟩ := kept_dropping dropping unterminated
    rw [kept_append terminates, nothing, List.nil_append]
    by_cases closed : (state.through piece).depth = 0
    · exact .inr ⟨terminator, _, kept_terminator_closed terminates closed rest, terminates⟩
    · rw [kept_terminator_open terminates closed, if_pos goesOn]
      exact ih goesOn

/-- A terminator at the beginning divides nothing off. -/
theorem runs_terminator (terminates : terminator.token = .semicolon) (rest : List PlacedToken) :
    runs (terminator :: rest) = runs rest := by
  have nothing : ∀ placed ∈ ([] : List PlacedToken), placed.token ≠ .semicolon := by simp
  simpa [hasContent] using runs_append nothing terminates rest

/-- A piece is a run of its own before what is empty or begins with a terminator. -/
theorem length_runs_append (unterminated : ∀ placed ∈ piece, placed.token ≠ .semicolon)
    (ends : tokens = [] ∨ ∃ terminator rest, tokens = terminator :: rest ∧
      terminator.token = .semicolon) :
    (runs (piece ++ tokens)).length =
      (if hasContent piece then 1 else 0) + (runs tokens).length := by
  rcases ends with rfl | ⟨terminator, rest, rfl, terminates⟩
  · rw [List.append_nil, runs_unterminated unterminated]
    split <;> rfl
  · rw [runs_append unterminated terminates, runs_terminator terminates]
    split
    · rw [List.length_cons, Nat.add_comm]
    · rw [Nat.zero_add]

/-- The runs that a clause goes over as a whole: it has begun before the terminator that they
follow, and has a parenthesis open there. -/
def swallowedFrom : State → List (List PlacedToken) → List (List PlacedToken)
  | _, [] => []
  | state, piece :: rest =>
    let later := swallowedFrom ((state.through piece).enter .semicolon []) rest
    if state.dropping && hasContent piece then piece :: later else later

/-- The runs of a script that its partition clauses go over. -/
def swallowed (tokens : List PlacedToken) : List (List PlacedToken) :=
  swallowedFrom State.initial (pieces tokens)

theorem swallowedFrom_cons (state : State) (piece : List PlacedToken)
    (rest : List (List PlacedToken)) :
    (swallowedFrom state (piece :: rest)).length =
      (if state.dropping && hasContent piece then 1 else 0) +
        (swallowedFrom ((state.through piece).enter .semicolon []) rest).length := by
  rw [swallowedFrom]
  split
  · rw [List.length_cons, Nat.add_comm]
  · rw [Nat.zero_add]

/-- The part of a piece that is kept is a run, or the piece is swallowed. -/
theorem kept_or_swallowed (begun : state.dropping = true ∨ state.Fresh)
    (unterminated : ∀ placed ∈ piece, placed.token ≠ .semicolon) :
    (if hasContent (kept state piece) then 1 else 0) +
        (if state.dropping && hasContent piece then 1 else 0) =
      if hasContent piece then 1 else 0 := by
  rcases begun with dropping | fresh
  · have nothing : hasContent [] = false := rfl
    simp [(kept_dropping dropping unterminated).1, dropping, nothing]
  · simp [hasContent_kept fresh, fresh.keeping]

/-- What is kept from a state on has the runs that are not swallowed. -/
theorem length_runs_kept (tokens : List PlacedToken)
    (begun : state.dropping = true ∨ state.Fresh) :
    (runs (kept state tokens)).length + (swallowedFrom state (pieces tokens)).length =
      (runs tokens).length := by
  induction tokens using pieces_induction generalizing state with
  | last piece unterminated =>
    have here := kept_or_swallowed begun unterminated
    have all := length_runs_append unterminated (.inl rfl)
    have left := length_runs_append (unterminated_kept unterminated state) (.inl rfl)
    have none : (swallowedFrom ((state.through piece).enter .semicolon []) []).length = 0 := rfl
    rw [List.append_nil] at all left
    rw [pieces_unterminated unterminated, swallowedFrom_cons, none, all, left]
    omega
  | step piece terminator rest unterminated terminates ih =>
    have here := kept_or_swallowed begun unterminated
    have all := length_runs_append unterminated (.inr ⟨terminator, rest, rfl, terminates⟩)
    rw [runs_terminator terminates] at all
    rw [pieces_append unterminated terminates, swallowedFrom_cons, all, kept_append terminates,
      enter_terminator]
    generalize state.through piece = behind
    by_cases closed : behind.depth = 0
    · have later := ih (.inr fresh_initial)
      have left := length_runs_append (unterminated_kept unterminated state)
        (.inr ⟨terminator, kept State.initial rest, rfl, terminates⟩)
      rw [kept_terminator_closed terminates closed, if_pos closed, left, runs_terminator terminates]
      omega
    · rw [kept_terminator_open terminates closed, if_neg closed]
      by_cases dropping : behind.dropping = true
      · have later := ih (.inl dropping)
        have left := length_runs_append (unterminated_kept unterminated state)
          (kept_dropping_cases dropping rest)
        rw [if_pos dropping, left]
        omega
      · have later := ih (.inr ⟨by simpa using dropping, fun outside => absurd outside closed⟩)
        have left := length_runs_append (unterminated_kept unterminated state)
          (.inr ⟨terminator, kept behind rest, rfl, terminates⟩)
        rw [if_neg dropping, left, runs_terminator terminates]
        omega

/-- A statement is separated from the next one if all parentheses in it are closed. -/
def State.Closes (state : State) (piece : List PlacedToken) : Prop :=
  (state.through piece).depth = 0

instance (state : State) (piece : List PlacedToken) : Decidable (state.Closes piece) :=
  inferInstanceAs (Decidable (_ = 0))

/-- Where every parenthesis is closed in its own statement, nothing is swallowed. -/
theorem swallowed_of_closes (closes : ∀ piece ∈ pieces tokens, State.initial.Closes piece) :
    swallowed tokens = [] := by
  unfold swallowed
  generalize pieces tokens = divided at closes
  induction divided with
  | nil => rfl
  | cons piece rest ih =>
    have here : (State.initial.through piece).depth = 0 := closes piece List.mem_cons_self
    have keeping : State.initial.dropping = false := rfl
    simp only [swallowedFrom, keeping, Bool.false_and, Bool.false_eq_true, if_false,
      enter_terminator, if_pos here]
    exact ih fun later member => closes later (List.mem_cons_of_mem piece member)

/-- Where every parenthesis is closed in its own statement, clauses are taken out of each
statement for itself. -/
theorem pieces_kept (tokens : List PlacedToken)
    (closes : ∀ piece ∈ pieces tokens, State.initial.Closes piece) :
    pieces (kept State.initial tokens) = (pieces tokens).map (kept State.initial) := by
  induction tokens using pieces_induction with
  | last piece unterminated =>
    rw [pieces_unterminated unterminated, pieces_unterminated (unterminated_kept unterminated _)]
    rfl
  | step piece terminator rest unterminated terminates ih =>
    rw [pieces_append unterminated terminates] at closes ⊢
    have here : (State.initial.through piece).depth = 0 := closes piece List.mem_cons_self
    rw [kept_append terminates, kept_terminator_closed terminates here,
      pieces_append (unterminated_kept unterminated _) terminates, List.map_cons,
      ih fun later member => closes later (List.mem_cons_of_mem piece member)]

/-- Where every piece closes its parentheses, the runs of what is kept are the runs without their
clauses. -/
theorem runs_kept (tokens : List PlacedToken)
    (closes : ∀ piece ∈ pieces tokens, State.initial.Closes piece) :
    runs (kept State.initial tokens) = (runs tokens).map (kept State.initial) := by
  simp only [runs, pieces_kept tokens closes, List.filter_map]
  congr 1
  exact List.filter_congr fun piece _ => hasContent_kept fresh_initial piece

/-- Tokens without a clause are left as they are. -/
theorem kept_of_strip? (left : strip? tokens = none) : kept State.initial tokens = tokens := by
  unfold strip? at left
  simp only [ite_eq_left_iff, reduceCtorEq, imp_false, Decidable.not_not] at left
  exact (kept_sublist State.initial tokens).eq_of_length left

theorem strip?_eq_some (stripped : strip? tokens = some rest) :
    rest = kept State.initial tokens := by
  simp only [strip?] at stripped
  split at stripped
  · simp at stripped
  · exact (Option.some.inj stripped).symm

end TableCatalog.PartitionClause
