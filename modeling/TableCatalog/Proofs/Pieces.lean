import Mathlib.Data.List.Forall2
import TableCatalog.Token.Run

/-!
# Pieces of a script

A script divides at its terminators. What is true of a piece without a terminator, and of a
script once it is true of what follows its first terminator, is true of every script.
-/

namespace TableCatalog.Token

variable {piece rest tokens core run : List PlacedToken} {terminator : PlacedToken}

/-- Induction over the parts of a list between its terminators. -/
theorem parts_induction {α : Type} (terminates : α → Bool) {motive : List α → Prop}
    (last : ∀ part, (∀ item ∈ part, terminates item = false) → motive part)
    (step : ∀ part terminator rest, (∀ item ∈ part, terminates item = false) →
      terminates terminator = true → motive rest → motive (part ++ terminator :: rest))
    (items : List α) : motive items := by
  have begun (part : List α) (unterminated : ∀ item ∈ part, terminates item = false) :
      motive (part ++ items) := by
    induction items generalizing part with
    | nil => simpa using last part unterminated
    | cons item items ih =>
      cases ends : terminates item with
      | true => exact step part item items unterminated ends (ih [] (by simp))
      | false =>
        have longer := ih (part ++ [item]) fun other member => by
          rcases List.mem_append.1 member with before | here
          · exact unterminated other before
          · obtain rfl := List.mem_singleton.1 here
            exact ends
        simpa using longer
  exact begun [] (by simp)

/-- Induction on the pieces of a script: the last one, or one with its terminator before others. -/
@[elab_as_elim]
theorem pieces_induction {motive : List PlacedToken → Prop}
    (last : ∀ piece, (∀ placed ∈ piece, placed.token ≠ .semicolon) → motive piece)
    (step : ∀ piece terminator rest, (∀ placed ∈ piece, placed.token ≠ .semicolon) →
      terminator.token = .semicolon → motive rest → motive (piece ++ terminator :: rest))
    (tokens : List PlacedToken) : motive tokens := by
  refine parts_induction (·.token == .semicolon) (fun piece unterminated => ?_)
    (fun piece terminator rest unterminated terminates => ?_) tokens
  · exact last piece (by simpa using unterminated)
  · exact step piece terminator rest (by simpa using unterminated) (by simpa using terminates)

/-- Tokens without a terminator are one piece. -/
theorem pieces_unterminated (unterminated : ∀ placed ∈ piece, placed.token ≠ .semicolon) :
    pieces piece = [piece] := by
  induction piece with
  | nil => rfl
  | cons placed piece ih =>
    have later := ih fun other member => unterminated other (List.mem_cons_of_mem placed member)
    have here : placed.token ≠ .semicolon := unterminated placed List.mem_cons_self
    simp [pieces, here, later]

/-- The first terminator ends the first piece. -/
theorem pieces_append (unterminated : ∀ placed ∈ piece, placed.token ≠ .semicolon)
    (terminates : terminator.token = .semicolon) (rest : List PlacedToken) :
    pieces (piece ++ terminator :: rest) = piece :: pieces rest := by
  induction piece with
  | nil => simp [pieces, terminates]
  | cons placed piece ih =>
    have later := ih fun other member => unterminated other (List.mem_cons_of_mem placed member)
    have here : placed.token ≠ .semicolon := unterminated placed List.mem_cons_self
    simp [pieces, here, later]

/-- Without a terminator there is one run, or none if there is nothing in it. -/
theorem runs_unterminated (unterminated : ∀ placed ∈ piece, placed.token ≠ .semicolon) :
    runs piece = if hasContent piece then [piece] else [] := by
  simp [runs, pieces_unterminated unterminated, List.filter_cons]

/-- A piece with its terminator is a run of its own before those of the rest. -/
theorem runs_append (unterminated : ∀ placed ∈ piece, placed.token ≠ .semicolon)
    (terminates : terminator.token = .semicolon) (rest : List PlacedToken) :
    runs (piece ++ terminator :: rest) =
      if hasContent piece then piece :: runs rest else runs rest := by
  simp [runs, pieces_append unterminated terminates, List.filter_cons]

/-- No piece holds a terminator. -/
theorem unterminated_of_mem_pieces (member : piece ∈ pieces tokens) :
    ∀ placed ∈ piece, placed.token ≠ .semicolon := by
  induction tokens using pieces_induction with
  | last whole unterminated =>
    rw [pieces_unterminated unterminated, List.mem_singleton] at member
    exact member ▸ unterminated
  | step first terminator rest unterminated terminates ih =>
    rw [pieces_append unterminated terminates, List.mem_cons] at member
    rcases member with rfl | later
    · exact unterminated
    · exact ih later

/-- No run has a terminator in it. -/
theorem unterminated_of_mem_runs (member : run ∈ runs tokens) :
    ∀ placed ∈ run, placed.token ≠ .semicolon :=
  unterminated_of_mem_pieces (List.mem_filter.1 member).1

/-- Every run has a token that is no gap. -/
theorem hasContent_of_mem_runs (member : run ∈ runs tokens) : hasContent run = true :=
  (List.mem_filter.1 member).2

/-- A piece of a script stands in it as a whole. -/
theorem infix_of_mem_pieces (member : piece ∈ pieces tokens) : piece <:+: tokens := by
  induction tokens using pieces_induction with
  | last whole unterminated =>
    rw [pieces_unterminated unterminated, List.mem_singleton] at member
    exact member ▸ List.infix_rfl
  | step first terminator rest unterminated terminates ih =>
    rw [pieces_append unterminated terminates, List.mem_cons] at member
    rcases member with rfl | later
    · exact (List.prefix_append _ _).isInfix
    · exact (ih later).trans ⟨first ++ [terminator], [], by simp⟩

/-- A run stands in its script as it is. -/
theorem infix_of_mem_runs (member : run ∈ runs tokens) : run <:+: tokens :=
  infix_of_mem_pieces (List.mem_filter.1 member).1

/-- A run that is another one with gaps around it. -/
inductive Framed (core : List PlacedToken) : List PlacedToken → Prop where
  | intro (front back : List PlacedToken) (before : hasContent front = false)
      (behind : hasContent back = false) : Framed core (front ++ core ++ back)

/-- Gaps around a run are no content. -/
theorem Framed.hasContent_eq (framed : Framed core run) : hasContent run = hasContent core := by
  obtain ⟨front, back, before, behind⟩ := framed
  unfold hasContent at before behind ⊢
  rw [List.any_append, List.any_append, before, behind, Bool.false_or, Bool.or_false]

/-- Gaps are no terminators. -/
theorem Framed.unterminated (framed : Framed core run)
    (plain : ∀ placed ∈ core, placed.token ≠ .semicolon) :
    ∀ placed ∈ run, placed.token ≠ .semicolon := by
  obtain ⟨front, back, before, behind⟩ := framed
  have gaps {blanks : List PlacedToken} (blank : hasContent blanks = false) :
      ∀ placed ∈ blanks, placed.token ≠ .semicolon := by
    intro placed member terminates
    have solid := List.any_eq_false.1 blank placed member
    simp [terminates, semicolon, isGap] at solid
  intro placed member
  simp only [List.mem_append] at member
  rcases member with (inFront | inside) | inBack
  · exact gaps before placed inFront
  · exact plain placed inside
  · exact gaps behind placed inBack

theorem Framed.subset (framed : Framed core run) : core ⊆ run := by
  obtain ⟨front, back, -, -⟩ := framed
  intro placed member
  simp [member]

theorem Framed.refl (run : List PlacedToken) : Framed run run := by
  have whole : Framed run ([] ++ run ++ []) := .intro [] [] rfl rfl
  rwa [List.nil_append, List.append_nil] at whole

/-- A gap at the beginning of a script is one in front of its first run. -/
theorem framed_runs {placed : PlacedToken} (gap : placed.token.isGap = true)
    (tokens : List PlacedToken) : List.Forall₂ Framed (runs tokens) (runs (placed :: tokens)) := by
  have printed : placed.token ≠ .semicolon := by
    intro terminates
    rw [terminates] at gap
    exact absurd gap (by decide)
  have pieces : List.Forall₂ Framed (pieces tokens) (pieces (placed :: tokens)) := by
    obtain ⟨first, others, shape⟩ := List.exists_cons_of_ne_nil (pieces_ne_nil tokens)
    have front : hasContent [placed] = false := by simp [hasContent, gap]
    have first : Framed first ([placed] ++ first ++ []) := .intro [placed] [] front rfl
    rw [List.append_nil] at first
    simp only [Token.pieces, beq_iff_eq, printed, if_false, shape]
    exact .cons first (List.forall₂_same.2 fun run _ => Framed.refl run)
  refine List.rel_filter ?_ pieces
  intro core run framed
  exact iff_of_eq (congrArg (· = true) framed.hasContent_eq.symm)

end TableCatalog.Token
