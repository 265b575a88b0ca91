import Mathlib.Data.List.Chain
import TableCatalog.Proofs.Alike
import TableCatalog.Proofs.Hyphen
import TableCatalog.Proofs.Pieces
import TableCatalog.Proofs.Reading
import TableCatalog.Script

/-!
# Lines of tokens

The tokens of a text stand one behind another, and so do those of each of its runs. An error is
laid to a token or to the gap behind a hyphen, and both are on a line of the run.
-/

namespace TableCatalog

namespace Token

variable {tokens run : List PlacedToken} {placed : PlacedToken} {line : Nat}

/-- Tokens that stand one behind another: each begins where the one before it ends, none ends on
a line before the one on which it begins, and hyphens end on the line on which they begin. -/
structure InOrder (tokens : List PlacedToken) : Prop where
  chain : tokens.IsChain fun token next => next.first = token.past
  forward : ∀ placed ∈ tokens, placed.first.line ≤ placed.past.line
  hyphens : ∀ placed ∈ tokens, placed.token = .symbol "-" → placed.past.line = placed.first.line

/-- Part of what stands in order stands in order. -/
theorem InOrder.of_part (ordered : InOrder tokens) (part : run <:+: tokens) : InOrder run where
  chain := by
    obtain ⟨front, back, rfl⟩ := part
    exact ordered.chain.left_of_append.right_of_append
  forward placed member := ordered.forward placed (part.subset member)
  hyphens placed member := ordered.hyphens placed (part.subset member)

/-- No token is on a line before that of an earlier one. -/
theorem InOrder.pairwise (ordered : InOrder tokens) :
    tokens.Pairwise fun token later => token.first.line ≤ later.first.line := by
  have steps : (tokens.map (·.first.line)).IsChain (· ≤ ·) := by
    refine (List.isChain_map _).2 (ordered.chain.imp_of_mem_imp fun token next member _ follows => ?_)
    rw [follows]
    exact ordered.forward token member
  exact List.pairwise_map.1 (List.isChain_iff_pairwise.1 steps)

/-- What a reading reads stands in order, from the place on at which it begins. -/
theorem inOrder_of_reads {grammar : Grammar} {cursor finish : Cursor}
    (reads : Lexer.Reads grammar cursor tokens finish) :
    InOrder tokens ∧ ∀ first ∈ tokens.head?, first.first = cursor.place := by
  induction reads with
  | refl => exact ⟨⟨.nil, by simp, by simp⟩, by simp⟩
  | @step c rest place token after finish tokens found more ih =>
    obtain ⟨⟨chain, forward, hyphens⟩, begins⟩ := ih
    have here : place.line ≤ after.place.line := by
      obtain ⟨lexemes, -, -, reached, -⟩ := (Lexer.Reads.step found .refl).settled
      rw [reached]
      exact Location.line_le_after place _
    have level (hyphen : token = .symbol "-") : after.place.line = place.line :=
      Lexer.line_hyphen (hyphen ▸ found)
    refine ⟨⟨chain.cons begins, ?_, ?_⟩, by simp⟩
    · exact List.forall_mem_cons.2 ⟨here, forward⟩
    · exact List.forall_mem_cons.2 ⟨level, hyphens⟩

/-- The tokens of a text stand in order. -/
theorem inOrder_of_scan {grammar : Grammar} {text : List Char}
    (scanned : scan grammar text = .ok tokens) : InOrder tokens := by
  obtain ⟨place, reads⟩ := reads_of_scan scanned
  exact (inOrder_of_reads reads).1

/-- The tokens of a run that are no gaps. -/
def solid (run : List PlacedToken) : List PlacedToken :=
  run.filter fun placed => !placed.token.isGap

/-- A line of a run: from the line of its first token on to that of its last one, gaps not
counted. -/
def Spans (run : List PlacedToken) (line : Nat) : Prop :=
  (∃ first ∈ (solid run).head?, first.first.line ≤ line) ∧
    ∃ last ∈ (solid run).getLast?, line ≤ last.first.line

instance (run : List PlacedToken) (line : Nat) : Decidable (Spans run line) :=
  inferInstanceAs (Decidable ((∃ first ∈ _, _) ∧ ∃ last ∈ _, _))

/-- The line of a token of a run is a line of the run. -/
theorem InOrder.spans (ordered : InOrder run) (inside : placed ∈ solid run) :
    Spans run placed.first.line := by
  have lines : (solid run).Pairwise fun token later => token.first.line ≤ later.first.line :=
    ordered.pairwise.sublist List.filter_sublist
  unfold Spans
  constructor
  · cases shape : solid run with
    | nil => simp [shape] at inside
    | cons first others =>
      rw [shape] at inside lines
      refine ⟨first, rfl, ?_⟩
      rcases List.mem_cons.1 inside with rfl | later
      · exact Nat.le_refl _
      · exact List.rel_of_pairwise_cons lines later
  · rcases List.eq_nil_or_concat (solid run) with shape | ⟨others, last, shape⟩
    · simp [shape] at inside
    · rw [shape, List.concat_eq_append] at inside lines ⊢
      refine ⟨last, by simp, ?_⟩
      rcases List.mem_append.1 inside with earlier | here
      · exact (List.pairwise_append.1 lines).2.2 placed earlier last (by simp)
      · rw [List.mem_singleton.1 here]

end Token

namespace ParserInput

variable {grammar : Grammar} {run : List PlacedToken} {gap : PlacedToken}

theorem mem_solid_of_mem_lexemesOf {lexeme : Lexeme} (inside : lexeme ∈ lexemesOf run) :
    lexeme.placed ∈ Token.solid run := by
  obtain ⟨placed, member, rfl⟩ := List.mem_map.1 inside
  exact member

/-- The gaps at the beginning of a run begin with its first token. -/
theorem exists_cons_of_gapRuns {more : List PlacedToken}
    (found : (gapRuns run)[0]? = some (gap :: more)) : ∃ rest, run = gap :: rest := by
  cases run with
  | nil => simp [gapRuns] at found
  | cons placed rest =>
    cases blank : placed.token.isGap with
    | false => simp [gapRuns_solid blank] at found
    | true =>
      rw [gapRuns_gap blank] at found
      obtain ⟨gaps, -, same⟩ := Option.map_eq_some_iff.1 found
      obtain rfl : placed = gap := by simpa using (List.cons.inj same).1
      exact ⟨rest, rfl⟩

/-- The gap behind a token follows it directly. -/
theorem follows_of_gapRuns {i : Nat} {lexeme : Lexeme} {more : List PlacedToken}
    (token : (lexemesOf run)[i]? = some lexeme)
    (behind : (gapRuns run)[i + 1]? = some (gap :: more)) : [lexeme.placed, gap] <:+: run := by
  induction run generalizing i with
  | nil => simp [lexemesOf] at token
  | cons placed run ih =>
    cases blank : placed.token.isGap with
    | true =>
      rw [lexemesOf_gap blank] at token
      rw [gapRuns_gap blank] at behind
      exact (ih token (by simpa using behind)).trans (List.suffix_cons placed run).isInfix
    | false =>
      obtain ⟨key, shape⟩ := exists_lexemesOf_cons blank run
      rw [shape] at token
      rw [gapRuns_solid blank, List.getElem?_cons_succ] at behind
      cases i with
      | zero =>
        obtain rfl : (⟨placed, key⟩ : Lexeme) = lexeme := by simpa using token
        obtain ⟨rest, rfl⟩ := exists_cons_of_gapRuns behind
        exact ⟨[], rest, rfl⟩
      | succ i =>
        exact (ih (by simpa using token) behind).trans (List.suffix_cons placed run).isInfix

/-- A gap behind a hyphen stands behind the hyphen. -/
theorem exists_of_gapBehindHyphen? {index : Nat}
    (behind : (ofTokens grammar run).gapBehindHyphen? (index + 1) = some gap) :
    ∃ lexeme, (lexemesOf run)[index]? = some lexeme ∧ lexeme.placed.token = .symbol "-" ∧
      ∃ more, (gapRuns run)[index + 1]? = some (gap :: more) := by
  unfold gapBehindHyphen? gapsAt at behind
  dsimp only [ofTokens] at behind
  rw [List.getElem?_toArray, List.getElem?_toArray] at behind
  cases inside : (lexemesOf run)[index]? with
  | none => simp [inside] at behind
  | some lexeme =>
    simp only [inside] at behind
    split at behind
    case isFalse => simp at behind
    case isTrue hyphen =>
      refine ⟨lexeme, rfl, hyphen, ?_⟩
      cases gaps : (gapRuns run)[index + 1]? with
      | none => simp [gaps] at behind
      | some blanks =>
        rw [gaps] at behind
        obtain ⟨more, rfl⟩ := List.head?_eq_some_iff.1 behind
        exact ⟨more, rfl⟩

/-- An error that is laid to a place is laid to one on a line of the run. -/
theorem ErrorPlace.spans {place : Location} (lays : (ofTokens grammar run).ErrorPlace place)
    (ordered : Token.InOrder run) (told : place.line ≠ 0) : Token.Spans run place.line := by
  cases lays with
  | none => exact absurd rfl told
  | token inside =>
    exact ordered.spans (mem_solid_of_mem_lexemesOf (by simpa [ofTokens] using inside))
  | @gap position gap behind =>
    cases position with
    | zero => simp [gapBehindHyphen?] at behind
    | succ index =>
      obtain ⟨lexeme, inside, hyphen, more, gaps⟩ := exists_of_gapBehindHyphen? behind
      have follows := follows_of_gapRuns inside gaps
      have next : gap.first = lexeme.placed.past :=
        (List.isChain_cons_cons.1 (ordered.of_part follows).chain).1
      have level := ordered.hyphens _ (follows.subset List.mem_cons_self) hyphen
      rw [next, level]
      exact ordered.spans (mem_solid_of_mem_lexemesOf (List.mem_of_getElem? inside))

end ParserInput

namespace Statement

/-- The error in a statement is laid to a place of the input. -/
theorem laid_statementAt (input : ParserInput) (state : ParserState) :
    (statementAt input state).Laid input := by
  have attempt (size : Nat) : ((parserWithin size input.depth).run
      { input with base := state.position, fuel := size + 1 } ⟨state.position, false⟩).Laid input :=
    ((parserWithin size input.depth).laid _ _).congr rfl rfl
  have laid : (readAt input state).Laid input := by
    unfold readAt
    dsimp only
    split
    · exact (attempt _).astray
    · exact attempt _
  exact laid.elim (fun statement after => trivial) fun error after marks => marks

/-- Errors in tokens are laid to places of theirs. -/
theorem errorPlace_of_ofTokens {grammar : Grammar} {tokens : List PlacedToken} {error : ParseError}
    (unread : ofTokens grammar tokens = .error error) :
    (ParserInput.ofTokens grammar tokens).ErrorPlace error.place := by
  have laid := laid_listFrom (laid_statementAt (ParserInput.ofTokens grammar tokens))
    (2 * (ParserInput.ofTokens grammar tokens).fuel) true ⟨0, false⟩
  unfold ofTokens at unread
  dsimp only at unread
  split at unread
  · simp at unread
  case h_2 failed =>
    obtain rfl := Except.error.inj unread
    rwa [failed] at laid

end Statement

/-- The error that a script is rejected with is laid to a place of its tokens. -/
theorem Script.errorPlace_of_ofTokens {grammar : Grammar} {tokens : List PlacedToken}
    {error : ParseError} (unread : ofTokens grammar tokens = .error error) :
    (ParserInput.ofTokens grammar tokens).ErrorPlace error.place := by
  cases first : Statement.ofTokens grammar tokens with
  | ok statements => simp [ofTokens, first] at unread
  | error other =>
    -- The error of the first attempt stands, whatever the second one comes to.
    have same : other = error := by
      simp only [ofTokens, first] at unread
      split at unread
      · exact Except.error.inj unread
      · split at unread
        · simp at unread
        · exact Except.error.inj unread
    exact same ▸ Statement.errorPlace_of_ofTokens first

end TableCatalog
