import TableCatalog.Proofs.Reading
import TableCatalog.Proofs.Separate
import TableCatalog.Proofs.Tables
import TableCatalog.Token.PartitionClause

/-!
# The same tokens in another text

A text that stands behind another one has the same tokens there, and the same text behind
each of them. So it makes up the same statements, and they define the same tables.
-/

namespace TableCatalog

variable {grammar : Grammar} {text text' : List Char} {run run' tokens tokens' : List PlacedToken}

/-- The same token in two texts, with the same text behind its two sides. -/
structure PlacedToken.Moved (text text' : List Char) (placed placed' : PlacedToken) : Prop where
  token : placed.token = placed'.token
  first : placed.first.rest? text = placed'.first.rest? text'
  past : placed.past.rest? text = placed'.past.rest? text'

open PlacedToken

namespace Lexer

/-- Tokens with their spellings are moved with the text that they are read from. -/
theorem moved_placed (lexemes : List (Token × List Char)) (front front' : List Char) :
    List.Forall₂ (Moved (front ++ spelled lexemes) (front' ++ spelled lexemes))
      (placed (Location.start.after front) lexemes)
      (placed (Location.start.after front') lexemes) := by
  induction lexemes generalizing front front' with
  | nil => exact .nil
  | cons lexeme lexemes ih =>
    obtain ⟨token, run⟩ := lexeme
    have whole (front : List Char) : front ++ spelled ((token, run) :: lexemes) =
        (front ++ run) ++ spelled lexemes := by
      simp [spelled]
    refine .cons ⟨rfl, ?_, ?_⟩ ?_
    · rw [Location.rest?_after, Location.rest?_after]
    · rw [← Location.after_append, ← Location.after_append, whole front, whole front',
        Location.rest?_after, Location.rest?_after]
    · rw [← Location.after_append, ← Location.after_append, whole front, whole front']
      exact ih (front ++ run) (front' ++ run)

end Lexer

namespace Token

/-- Tokens that only move are the same tokens. -/
theorem tokens_of_moved (moved : List.Forall₂ (Moved text text') run run') :
    run.map (·.token) = run'.map (·.token) := by
  induction moved with
  | nil => rfl
  | cons here _ ih => simp [here.token, ih]

/-- Tokens that are moved divide at the same terminators. -/
theorem pieces_of_moved (moved : List.Forall₂ (Moved text text') tokens tokens') :
    List.Forall₂ (List.Forall₂ (Moved text text')) (pieces tokens) (pieces tokens') := by
  induction moved with
  | nil => exact .cons .nil .nil
  | @cons placed placed' tokens tokens' here _ ih =>
    by_cases terminates : placed.token = .semicolon
    · have terminates' : placed'.token = .semicolon := here.token ▸ terminates
      simp only [pieces, terminates, terminates', beq_self_eq_true, if_true]
      exact .cons .nil ih
    · have goesOn' : placed'.token ≠ .semicolon := here.token ▸ terminates
      simp only [pieces, beq_iff_eq, terminates, goesOn', if_false]
      generalize pieces tokens = left at ih
      generalize pieces tokens' = right at ih
      cases ih with
      | nil => exact .cons (.cons here .nil) .nil
      | cons first others => exact .cons (.cons here first) others

/-- A run that moves has content if it had. -/
theorem hasContent_of_moved (moved : List.Forall₂ (Moved text text') run run') :
    hasContent run = hasContent run' := by
  induction moved with
  | nil => rfl
  | cons here _ ih =>
    simp only [hasContent, List.any_cons, here.token] at ih ⊢
    rw [ih]

/-- A script is divided at the same terminators wherever its tokens stand. -/
theorem runs_of_moved (moved : List.Forall₂ (Moved text text') tokens tokens') :
    List.Forall₂ (List.Forall₂ (Moved text text')) (runs tokens) (runs tokens') := by
  refine List.rel_filter ?_ (pieces_of_moved moved)
  intro piece piece' moved
  exact iff_of_eq (congrArg (· = true) (hasContent_of_moved moved))

end Token

namespace PartitionClause

theorem leadsWith_of_moved (moved : List.Forall₂ (Moved text text') run run') (keyword : String) :
    leadsWith keyword run = leadsWith keyword run' := by
  induction moved with
  | nil => rfl
  | cons here _ ih =>
    simp only [leadsWith, List.find?_cons, here.token] at ih ⊢
    split
    · simp [here.token]
    · exact ih

/-- Of tokens that are moved the same ones are kept. -/
theorem kept_of_moved (moved : List.Forall₂ (Moved text text') run run') (state : State) :
    List.Forall₂ (Moved text text') (kept state run) (kept state run') := by
  induction moved generalizing state with
  | nil => exact .nil
  | @cons placed placed' run run' here rest ih =>
    have same : state.enter placed.token run = state.enter placed'.token run' := by
      unfold State.enter
      rw [leadsWith_of_moved rest, here.token]
    simp only [kept, same]
    split
    · exact ih _
    · exact .cons here (ih _)

end PartitionClause

namespace Statement

open ParserInput

/-- The lexemes of a run move with its tokens. -/
theorem lexemesOf_of_moved (moved : List.Forall₂ (Moved text text') run run') :
    List.Forall₂ (fun lexeme lexeme' => Moved text text' lexeme.placed lexeme'.placed)
      (lexemesOf run) (lexemesOf run') := by
  have solid : List.Forall₂ (Moved text text') (run.filter fun placed => !placed.token.isGap)
      (run'.filter fun placed => !placed.token.isGap) := by
    refine List.rel_filter ?_ moved
    intro placed placed' here
    exact iff_of_eq (congrArg (fun token : Token => (!token.isGap) = true) here.token)
  exact List.forall₂_map_left_iff.2 (List.forall₂_map_right_iff.2 solid)

/-- The places of tokens that are moved have the same text behind them. -/
theorem locateIn_of_moved (grammar : Grammar)
    (moved : List.Forall₂ (Moved text text') run run') (count : Nat) (place : Location) :
    ((ParserInput.ofTokens grammar run).locateIn count place).rest? text =
      ((ParserInput.ofTokens grammar run').locateIn count place).rest? text' := by
  obtain ⟨line, column⟩ := place
  have nowhere : Location.none.rest? text = Location.none.rest? text' := rfl
  unfold locateIn
  split
  swap
  · exact nowhere
  · rename_i counted
    clear counted
    cases line with
    | zero => exact nowhere
    | succ index =>
      have base (run : List PlacedToken) : (ParserInput.ofTokens grammar run).base = 0 := rfl
      have lexemes (run : List PlacedToken) :
          (ParserInput.ofTokens grammar run).lexemes[0 + index]? = (lexemesOf run)[index]? := by
        simp [ParserInput.ofTokens]
      simp only [locate, base, lexemes]
      clear lexemes
      have both := lexemesOf_of_moved moved
      generalize lexemesOf run = left at both
      generalize lexemesOf run' = right at both
      induction both generalizing index with
      | nil => exact nowhere
      | cons here _ ih =>
        cases index with
        | zero =>
          by_cases first : column = 0
          · simp [first, here.first]
          · simp [first, here.past]
        | succ index => exact ih index

end Statement

end TableCatalog
