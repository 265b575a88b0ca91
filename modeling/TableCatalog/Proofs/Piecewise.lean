import Mathlib.Algebra.Order.BigOperators.Group.List
import Mathlib.Algebra.Order.Ring.Nat
import TableCatalog.Proofs.Clauses

/-!
# Partition clauses, statement by statement

Partition clauses are taken out in one pass over a script, which comes to the same as taking the
statements one by one: the script is cut at the terminators outside all parentheses, and each piece
is cut off before its first clause. What is left of a script holds no clause any more.
-/

namespace TableCatalog.PartitionClause

open Token

/-- The parentheses that are open behind a token; a closing one too many is passed over. -/
def depthPast (depth : Nat) : Token → Nat
  | .openParen => depth + 1
  | .closeParen => depth - 1
  | _ => depth

/-- A token where it stands in a script: with the number of parentheses that are open before it
and with the tokens behind it. -/
structure Spot where
  placed : PlacedToken
  depth : Nat
  behind : List PlacedToken
  deriving DecidableEq, Repr

namespace Spot

/-- A terminator outside all parentheses. -/
def separates (spot : Spot) : Bool :=
  spot.depth == 0 && spot.placed.token == .semicolon

/-- A closing parenthesis that leaves none open. -/
def closesGroup (spot : Spot) : Bool :=
  spot.placed.token == .closeParen && depthPast spot.depth spot.placed.token == 0

/-- `PARTITION BY` outside all parentheses. -/
def leadsClause (spot : Spot) : Bool :=
  spot.depth == 0 && spot.placed.token.isKeyword "PARTITION" && leadsWith "BY" spot.behind

/-- Whether a clause begins behind a part of a piece: a group has been closed in that part. -/
def opensClause (before : List Spot) (spot : Spot) : Bool :=
  before.any closesGroup && spot.leadsClause

end Spot

/-- Tokens where they stand, the first one at a depth. -/
def spots (depth : Nat) : List PlacedToken → List Spot
  | [] => []
  | placed :: rest => ⟨placed, depth, rest⟩ :: spots (depthPast depth placed.token) rest

/-- What stands in the rest of a piece before the first clause, if a clause begins there; `before`
is the part of the piece in front of the rest. -/
def beforeClause? (before : List Spot) : List Spot → Option (List Spot)
  | [] => none
  | spot :: rest =>
    if spot.opensClause before then some []
    else (beforeClause? (before ++ [spot]) rest).map (spot :: ·)

/-- Whether a clause begins in a piece. -/
def hasClause (piece : List Spot) : Bool :=
  (beforeClause? [] piece).isSome

/-- The rest of a piece up to its first clause. -/
def upToClause (before rest : List Spot) : List Spot :=
  (beforeClause? before rest).getD rest

/-- Pieces with one terminator behind each of them but the last. -/
def rejoin (pieces : List (List Spot)) (terminators : List Spot) : List Spot :=
  (pieces.zipWith (· ++ ·) (terminators.map ([·]) ++ [[]])).flatten

variable {tokens rest : List PlacedToken} {placed : PlacedToken} {state other : State}

section Scanning

/-- The spots of a script are its tokens, with a depth for each. -/
theorem placed_spots (depth : Nat) (tokens : List PlacedToken) :
    (spots depth tokens).map (·.placed) = tokens := by
  induction tokens generalizing depth with
  | nil => rfl
  | cons placed rest ih => rw [spots, List.map_cons, ih]

/-- All that reading a token does to a scan. -/
theorem enter_eq (state : State) (placed : PlacedToken) (rest : List PlacedToken) :
    let spot : Spot := ⟨placed, state.depth, rest⟩
    state.enter placed.token rest =
      if spot.separates then State.initial
      else ⟨depthPast state.depth placed.token, state.grouped || spot.closesGroup,
        state.dropping || (state.grouped && spot.leadsClause)⟩ := by
  intro spot
  obtain ⟨depth, grouped, dropping⟩ := state
  obtain ⟨token, begins, past⟩ := placed
  by_cases terminator : token = .semicolon
  · subst terminator
    cases depth <;> cases grouped <;> cases dropping <;> rfl
  by_cases opening : token = .openParen
  · subst opening
    cases depth <;> cases grouped <;> cases dropping <;> rfl
  by_cases closing : token = .closeParen
  · subst closing
    cases depth <;> cases grouped <;> cases dropping <;> rfl
  have entered : State.enter ⟨depth, grouped, dropping⟩ token rest =
      if depth = 0 && grouped && token.isKeyword "PARTITION" && leadsWith "BY" rest then
        ⟨depth, grouped, true⟩
      else ⟨depth, grouped, dropping⟩ := by
    unfold State.enter
    split <;> trivial
  have level : depthPast depth token = depth := by
    unfold depthPast
    split <;> trivial
  have inside : spot.separates = false := by simp [spot, Spot.separates, terminator]
  have goesOn : spot.closesGroup = false := by simp [spot, Spot.closesGroup, closing]
  have leads : spot.leadsClause = (depth = 0 && token.isKeyword "PARTITION" && leadsWith "BY" rest) :=
    rfl
  rw [entered, level, inside, goesOn, leads]
  cases grouped <;> cases dropping <;> grind

end Scanning

section Rejoining

/-- An empty first piece leaves its terminator in front. -/
theorem rejoin_terminator (spot : Spot) (pieces : List (List Spot)) (terminators : List Spot) :
    rejoin ([] :: pieces) (spot :: terminators) = spot :: rejoin pieces terminators :=
  rfl

/-- What is put before the first piece is put before the whole. -/
theorem rejoin_cons (spot : Spot) (first : List Spot) (pieces : List (List Spot))
    (terminators : List Spot) :
    rejoin ((spot :: first) :: pieces) terminators = spot :: rejoin (first :: pieces) terminators := by
  cases terminators <;> rfl

@[simp] theorem upToClause_nil (before : List Spot) : upToClause before [] = [] := rfl

/-- A piece is kept until a clause opens behind what is kept. -/
theorem upToClause_cons (before : List Spot) (spot : Spot) (rest : List Spot) :
    upToClause before (spot :: rest) =
      if spot.opensClause before then [] else spot :: upToClause (before ++ [spot]) rest := by
  unfold upToClause
  rw [beforeClause?]
  split
  · rfl
  · cases beforeClause? (before ++ [spot]) rest <;> rfl

/-- What a scan keeps, by the pieces that the tokens make up from where it stands: the rest of the
first piece up to its clause, unless that has begun, and all others up to theirs. -/
theorem kept_eq_rejoin (state : State) (before : List Spot) (tokens : List PlacedToken)
    (passed : state.grouped = before.any Spot.closesGroup) :
    ∃ first pieces, (spots state.depth tokens).splitOnP Spot.separates = first :: pieces ∧
      kept state tokens =
        (rejoin ((if state.dropping then [] else upToClause before first) ::
          pieces.map (upToClause [])) ((spots state.depth tokens).filter Spot.separates)).map
            (·.placed) := by
  induction tokens generalizing state before with
  | nil => exact ⟨[], [], rfl, by simp [spots, kept, rejoin]⟩
  | cons placed rest ih =>
    have entered := enter_eq state placed rest
    rw [spots, List.splitOnP_cons_eq_if_modifyHead, kept]
    generalize shape : (⟨placed, state.depth, rest⟩ : Spot) = spot at entered ⊢
    have here : spot.placed = placed := shape ▸ rfl
    cases separates : spot.separates with
    | true =>
      have level : depthPast state.depth placed.token = State.initial.depth := by
        have facts : state.depth = 0 ∧ placed.token = .semicolon := by
          simpa [← shape, Spot.separates] using separates
        rw [facts.1, facts.2]
        rfl
      obtain ⟨first, pieces, divided, left⟩ := ih State.initial [] rfl
      refine ⟨[], first :: pieces, by simp [level, divided], ?_⟩
      have fresh : State.initial.dropping = false := rfl
      simp only [separates, if_true] at entered
      rw [fresh, if_neg Bool.false_ne_true] at left
      simp only [entered, fresh, Bool.false_eq_true, if_false, level, left, upToClause_nil, ite_self,
        List.filter_cons, separates, if_true, List.map_cons, rejoin_terminator, here]
    | false =>
      simp only [separates, Bool.false_eq_true, if_false] at entered ⊢
      obtain ⟨first, pieces, divided, left⟩ :=
        ih (state.enter placed.token rest) (before ++ [spot]) (by simp [entered, passed])
      have level : (state.enter placed.token rest).depth = depthPast state.depth placed.token := by
        rw [entered]
      rw [level] at divided left
      refine ⟨spot :: first, pieces, by rw [divided]; rfl, ?_⟩
      have goesOn : (state.enter placed.token rest).dropping =
          (state.dropping || spot.opensClause before) := by
        rw [entered, passed, Spot.opensClause]
      rw [left, goesOn, List.filter_cons_of_neg (by simp [separates]), upToClause_cons]
      cases state.dropping with
      | true => simp
      | false =>
        cases spot.opensClause before with
        | true => simp
        | false => simp [rejoin_cons, here]

/-- A run before a clause is shorter than the run with it. -/
theorem length_lt_of_beforeClause? {before rest run : List Spot}
    (found : beforeClause? before rest = some run) : run.length < rest.length := by
  induction rest generalizing before run with
  | nil => cases found
  | cons spot rest ih =>
    rw [beforeClause?] at found
    split at found
    · obtain rfl := Option.some.inj found
      exact Nat.zero_lt_succ _
    · obtain ⟨more, later, rfl⟩ := Option.map_eq_some_iff.1 found
      exact Nat.succ_lt_succ (ih later)

/-- A piece without a clause is kept whole. -/
theorem upToClause_eq {piece : List Spot} (whole : hasClause piece = false) :
    upToClause [] piece = piece := by
  have nothing : beforeClause? [] piece = none := by simpa [hasClause] using whole
  rw [upToClause, nothing]
  rfl

/-- A piece with a clause gets shorter. -/
theorem length_upToClause_lt {piece : List Spot} (cut : hasClause piece = true) :
    (upToClause [] piece).length < piece.length := by
  obtain ⟨run, found⟩ := Option.isSome_iff_exists.1 cut
  rw [upToClause, found]
  exact length_lt_of_beforeClause? found

/-- Rejoined pieces are as long as the pieces and terminators together. -/
theorem length_rejoin {pieces : List (List Spot)} {terminators : List Spot}
    (between : pieces.length = terminators.length + 1) :
    (rejoin pieces terminators).length = (pieces.map List.length).sum + terminators.length := by
  induction pieces generalizing terminators with
  | nil => simp at between
  | cons piece pieces ih =>
    cases terminators with
    | nil =>
      obtain rfl := List.length_eq_zero_iff.1 (by simpa using between)
      simp [rejoin]
    | cons terminator terminators =>
      have later := ih (by simpa using between)
      have shape : rejoin (piece :: pieces) (terminator :: terminators) =
          piece ++ [terminator] ++ rejoin pieces terminators := rfl
      rw [shape, List.length_append, later]
      simp
      omega

/-- There is one piece more than there are terminators. -/
theorem length_splitOnP {α : Type} (test : α → Bool) (items : List α) :
    (items.splitOnP test).length = (items.filter test).length + 1 := by
  induction items with
  | nil => rfl
  | cons item items ih =>
    rw [List.splitOnP_cons_eq_if_modifyHead, List.filter_cons]
    split <;> simp [ih]

/-- Pieces that are cut off before their clauses are all as they were exactly if none has one. -/
theorem length_rejoin_upToClause (pieces : List (List Spot)) (terminators : List Spot)
    (between : pieces.length = terminators.length + 1) :
    (rejoin (pieces.map (upToClause [])) terminators).length =
        (rejoin pieces terminators).length ↔
      pieces.any hasClause = false := by
  constructor
  · intro same
    by_contra cut
    obtain ⟨piece, member, cut⟩ := List.any_eq_true.1 (Bool.not_eq_false _ ▸ cut)
    have each : ∀ piece ∈ pieces, (upToClause [] piece).length ≤ piece.length := by
      intro piece _
      cases clause : hasClause piece with
      | true => exact (length_upToClause_lt clause).le
      | false => rw [upToClause_eq clause]
    have fewer := List.sum_lt_sum (fun piece => (upToClause [] piece).length) List.length each
      ⟨piece, member, length_upToClause_lt cut⟩
    rw [length_rejoin between, length_rejoin (by simpa using between), List.map_map] at same
    exact absurd (Nat.add_right_cancel same) fewer.ne
  · intro whole
    have kept : pieces.map (upToClause []) = pieces.map id :=
      List.map_congr_left fun piece member =>
        upToClause_eq (by simpa using List.any_eq_false.1 whole piece member)
    rw [kept, List.map_id]

end Rejoining

section Again

/-- What a scan that takes nothing out keeps does not begin with a keyword that the tokens do not
begin with. -/
theorem leadsWith_of_kept (keeping : state.dropping = false) {keyword : String}
    (leads : leadsWith keyword (kept state tokens) = true) : leadsWith keyword tokens = true := by
  induction tokens generalizing state with
  | nil => exact leads
  | cons placed rest ih =>
    cases gap : placed.token.isGap with
    | true =>
      simp only [kept, enter_gap gap, keeping, Bool.false_eq_true, if_false] at leads
      simp only [leadsWith, List.find?_cons, gap] at leads ⊢
      exact ih keeping leads
    | false =>
      rw [kept] at leads
      split at leads
      case isTrue dropping =>
        -- Behind a clause that begins here, a terminator comes first, and it is no keyword.
        rcases kept_dropping_cases dropping rest with nothing | ⟨terminator, more, shape, terminates⟩
        · rw [nothing] at leads
          cases leads
        · rw [shape] at leads
          simp [leadsWith, terminates, Token.isGap, Token.isKeyword] at leads
      case isFalse =>
        simpa [leadsWith, gap] using leads

/-- A token at which no clause begins is passed in the same way before what a scan keeps of the
tokens behind it. -/
theorem enter_kept (keeping : (state.enter placed.token rest).dropping = false) :
    state.enter placed.token (kept (state.enter placed.token rest) rest) =
      state.enter placed.token rest := by
  have further : leadsWith "BY" (kept (state.enter placed.token rest) rest) = true →
      leadsWith "BY" rest = true := leadsWith_of_kept keeping
  generalize kept (state.enter placed.token rest) rest = more at further ⊢
  rw [enter_eq] at keeping
  rw [enter_eq, enter_eq]
  -- What is behind a token matters to nothing but the clause that it may lead.
  have alike : (Spot.mk placed state.depth more).separates =
      (Spot.mk placed state.depth rest).separates := rfl
  rw [alike]
  split at keeping
  case isTrue separates => rw [if_pos separates, if_pos separates]
  case isFalse inside =>
    rw [if_neg inside, if_neg inside]
    have silent : (state.grouped && (Spot.mk placed state.depth rest).leadsClause) = false :=
      (Bool.or_eq_false_iff.1 keeping).2
    have silent' : (state.grouped && (Spot.mk placed state.depth more).leadsClause) = false := by
      rw [← Bool.not_eq_true] at silent ⊢
      intro begins
      simp only [Spot.leadsClause, Bool.and_eq_true] at begins silent
      exact silent ⟨begins.1, begins.2.1, further begins.2.2⟩
    rw [silent, silent']
    rfl

/-- How a scan over what another one keeps stands to it: at the same place, or outside all
parentheses where the other one takes a clause out. -/
structure State.Rescans (other state : State) : Prop where
  keeping : other.dropping = false
  same : state.dropping = false → other = state
  outside : state.dropping = true → other.depth = 0

theorem State.Rescans.refl (keeping : state.dropping = false) : state.Rescans state where
  keeping := keeping
  same _ := rfl
  outside dropping := by simp [keeping] at dropping

/-- A clause begins outside all parentheses. -/
theorem depth_of_enter_dropping (keeping : state.dropping = false)
    (begins : (state.enter placed.token rest).dropping = true) : state.depth = 0 := by
  rw [enter_eq] at begins
  split at begins
  · cases begins
  · simp only [keeping, Bool.false_or, Bool.and_eq_true] at begins
    have leads : (Spot.mk placed state.depth rest).leadsClause = true := begins.2
    simp only [Spot.leadsClause, Bool.and_eq_true, beq_iff_eq] at leads
    exact leads.1.1

/-- A clause ends at a terminator outside all parentheses. -/
theorem terminates_of_enter_keeping (dropping : state.dropping = true)
    (ends : (state.enter placed.token rest).dropping = false) :
    placed.token = .semicolon ∧ state.enter placed.token rest = State.initial := by
  rw [enter_eq] at ends ⊢
  split at ends
  case isTrue separates =>
    rw [if_pos separates]
    simp only [Spot.separates, Bool.and_eq_true, beq_iff_eq] at separates
    exact ⟨separates.2, rfl⟩
  case isFalse => simp [dropping] at ends

/-- A scan over what another one keeps takes nothing out. -/
theorem kept_kept (rescans : other.Rescans state) (tokens : List PlacedToken) :
    kept other (kept state tokens) = kept state tokens := by
  induction tokens generalizing state other with
  | nil => rfl
  | cons placed rest ih =>
    rw [kept]
    cases next : (state.enter placed.token rest).dropping with
    | true =>
      rw [if_pos rfl]
      refine ih ⟨rescans.keeping, fun keeping => by simp [next] at keeping, fun _ => ?_⟩
      cases dropping : state.dropping with
      | true => exact rescans.outside dropping
      | false =>
        rw [rescans.same dropping]
        exact depth_of_enter_dropping dropping next
    | false =>
      rw [if_neg Bool.false_ne_true, kept]
      have passed : other.enter placed.token (kept (state.enter placed.token rest) rest) =
          state.enter placed.token rest := by
        cases dropping : state.dropping with
        | true =>
          obtain ⟨terminates, fresh⟩ := terminates_of_enter_keeping dropping next
          rw [fresh, terminates, enter_terminator, if_pos (rescans.outside dropping)]
        | false =>
          rw [rescans.same dropping]
          exact enter_kept next
      rw [passed, next, if_neg Bool.false_ne_true, ih (.refl next)]

end Again

/-- Taking out the clauses of a script cuts off each of its pieces before the first clause in it,
and keeps the terminators between them; there is nothing to take out exactly if no piece has a
clause, and nothing more once it has been done. -/
theorem strip?_eq_piecewise (tokens : List PlacedToken) :
    let script := spots 0 tokens
    let pieces := script.splitOnP Spot.separates
    let terminators := script.filter Spot.separates
    tokens = (rejoin pieces terminators).map (·.placed) ∧
      strip? tokens =
        (if pieces.any hasClause then
          some ((rejoin (pieces.map (upToClause [])) terminators).map (·.placed))
        else none) ∧
      (strip? tokens).bind strip? = none := by
  intro script pieces terminators
  have whole : rejoin pieces terminators = script := List.splitOnP_spec script
  have same : tokens = (rejoin pieces terminators).map (·.placed) := by
    rw [whole, placed_spots]
  have left : kept State.initial tokens =
      (rejoin (pieces.map (upToClause [])) terminators).map (·.placed) := by
    obtain ⟨first, others, divided, left⟩ := kept_eq_rejoin State.initial [] tokens rfl
    have shape : pieces = first :: others := divided
    rw [left, shape]
    rfl
  refine ⟨same, ?_, ?_⟩
  · have between : pieces.length = terminators.length + 1 := length_splitOnP _ _
    have lengths : (kept State.initial tokens).length = tokens.length ↔
        pieces.any hasClause = false := by
      rw [left, List.length_map, ← length_rejoin_upToClause pieces terminators between]
      conv_lhs => rw [same, List.length_map]
    unfold strip?
    cases cut : pieces.any hasClause with
    | true =>
      have shorter : (kept State.initial tokens).length ≠ tokens.length := by simp [lengths, cut]
      rw [if_neg shorter, left, if_pos rfl]
    | false => rw [if_pos (lengths.2 cut), if_neg Bool.false_ne_true]
  · cases stripped : strip? tokens with
    | none => rfl
    | some remaining =>
      rw [Option.bind_some, strip?_eq_some stripped, strip?, kept_kept (.refl rfl)]
      simp

/-- A closing parenthesis too many closes a group, and a clause goes on over the terminator inside
its parentheses. -/
example :
    let place (token : Token) : PlacedToken := ⟨token, Location.none, Location.none⟩
    let clause := [Token.word ⟨"partition", none⟩, .gap .space, .word ⟨"By", none⟩, .openParen,
      .semicolon, .closeParen]
    strip? ((.closeParen :: clause ++ .semicolon :: clause).map place) =
      some ((.closeParen :: .semicolon :: clause).map place) := by
  decide +kernel

end TableCatalog.PartitionClause
