import TableCatalog.Proofs.VerbatimType

/-!
# Types that a delimiter ends

A separator or a closing bracket outside all brackets ends a type. It is no part of a word, a
quote or a comment, nor of the second word of `CHARACTER SET`, and so the scan never looks past
it: each pass up to the delimiter is the same if the text is cut off there, and the same again in
front of any other text that begins with the delimiter.
-/

namespace TableCatalog.DeclaredType

variable {c : Char} {depth depth' depth'' : Nat}
  {text whole rest middle piece run run' more after : List Char}

section Cutting

/-- A word that begins an option goes on to do so in front of more text. -/
theorem opensOption_append_of_opensOption {word : List Char} (option : opensOption word rest = true)
    (after : List Char) : opensOption word (rest ++ after) = true := by
  simp only [opensOption, Bool.or_eq_true, Bool.and_eq_true, beq_iff_eq] at option ⊢
  refine option.imp_right (And.imp_right fun set => ?_)
  have long : 3 ≤ (Text.trimStart rest).length := by
    have letters := congrArg List.length set
    rw [Text.length_asciiUpper, List.length_take] at letters
    have three : min 3 (Text.trimStart rest).length = 3 := letters
    omega
  have visible : Text.trimStart rest ≠ [] := List.ne_nil_of_length_pos (by omega)
  rw [trimStart_append_of_visible visible, List.take_append_of_le_length long, set]

/-- A comment goes on to begin in front of more text. -/
theorem opensComment_append_of_opensComment (comment : opensComment c rest = true)
    (after : List Char) : opensComment c (rest ++ after) = true := by
  cases rest with
  | nil => simp [opensComment] at comment
  | cons d rest => exact comment

/-- A pass is the same if the text is cut off behind it. -/
theorem Pass.cut (pass : Pass depth whole piece depth' (rest ++ after)) :
    Pass depth (piece ++ rest) piece depth' rest := by
  generalize behind : rest ++ after = left at pass
  cases pass with
  | blank space => exact .blank space
  | @quoted c _ text quotes =>
    have pass : Pass depth (c :: ((DeclaredType.quoted c text).1 ++ rest)) _ depth _ :=
      .quoted quotes
    cases opened : quoteOpen c text with
    | true =>
      -- a quote that stays open leaves no text to cut off
      obtain ⟨all, -⟩ := quoted_of_open opened []
      rw [all] at behind pass ⊢
      obtain ⟨rfl, -⟩ := List.append_eq_nil_iff.1 behind
      simpa only [List.append_nil, all] using pass
    | false =>
      -- a quote that doubles the closing one would stand in `rest`, which is not cut off
      have apart : rest.head? ≠ some c := by
        intro again
        refine (ends_of_closed opened).2 ?_
        rw [← behind, List.head?_append, again]
        rfl
      rwa [(quoted_of_closed opened apart).1] at pass
  | opening opens => exact .opening opens
  | closing closes => exact .closing closes
  | @word c _ text part plain =>
    have ends : ∀ d ∈ rest.head?, isWordPart d = false := by
      intro d first
      have stopped := List.head?_dropWhile_not isWordPart text
      rw [← behind, List.head?_append, Option.mem_def.1 first] at stopped
      simpa using stopped
    obtain ⟨taken, left⟩ := takeWhile_word (fun d => List.all_eq_true.1 List.all_takeWhile d) ends
    have pass : Pass depth (c :: (text.takeWhile isWordPart ++ rest)) _ depth _ :=
      .word part fun outside => by
        rw [taken, left, ← Bool.not_eq_true]
        intro option
        have longer := opensOption_append_of_opensOption option after
        rw [behind, plain outside] at longer
        cases longer
    rwa [taken, left] at pass
  | other space quotes opens closes goesOn comment part =>
    subst behind
    refine .other space quotes opens closes goesOn ?_ part
    rw [← Bool.not_eq_true] at comment ⊢
    exact fun begins => comment (opensComment_append_of_opensComment begins after)

/-- A run of passes is the same if the text is cut off behind it. -/
theorem Passes.cut (passes : Passes depth whole run depth' (rest ++ after)) :
    Passes depth (run ++ rest) run depth' rest := by
  generalize behind : rest ++ after = left at passes
  induction passes with
  | refl => exact .refl
  | step pass more ih =>
    subst behind
    rw [← more.append_eq, ← List.append_assoc] at pass
    rw [List.append_assoc]
    exact .step pass.cut (ih rfl)

theorem Passes.trans (first : Passes depth text run depth' middle)
    (later : Passes depth' middle run' depth'' rest) :
    Passes depth text (run ++ run') depth'' rest := by
  induction first with
  | refl => exact later
  | step pass _ ih =>
    rw [List.append_assoc]
    exact .step pass (ih later)

theorem passes_blanks {blanks : List Char} (spaces : ∀ b ∈ blanks, isSpace b = true) :
    Passes depth (blanks ++ rest) blanks depth rest := by
  induction blanks with
  | nil => exact .refl
  | cons b blanks ih =>
    obtain ⟨space, spaces⟩ := List.forall_mem_cons.1 spaces
    exact .step (.blank space) (ih spaces)

end Cutting

section Delimiting

/-- That the scan for the type at the head of a text comes, with no bracket open, to a separator
or a closing bracket, which `more` follows. -/
structure DelimitedBy (text : List Char) (c : Char) (more : List Char) : Prop where
  passes : ∃ run, Passes 0 (Text.trimStart text) run 0 (c :: more)
  delimiter : isSeparator c = true ∨ isClosing c = true

/-- Brackets are all closed where the scan stops before a delimiter. -/
theorem Stops.depth_eq_zero (stops : Stops depth (c :: more))
    (delimiter : isSeparator c = true ∨ isClosing c = true) : depth = 0 := by
  cases stops with
  | closing | separator | option => rfl
  | comment opens =>
    exfalso
    rcases eq_of_opensComment opens with rfl | rfl <;> revert delimiter <;> decide

/-- A delimiter ends a type if the scan stops before it. -/
theorem delimitedBy_iff : DelimitedBy text c more ↔
    behind text = c :: more ∧ (isSeparator c = true ∨ isClosing c = true) := by
  constructor
  · rintro ⟨⟨run, passes⟩, delimiter⟩
    have stops : Stops 0 (c :: more) := delimiter.elim .separator .closing
    obtain ⟨blanks, rfl, spaces⟩ := passes.exists_blanks stops.scan_eq_nil
    refine ⟨behind_eq ?_ spaces stops, delimiter⟩
    rw [← List.append_assoc]
    exact passes.append_eq
  · rintro ⟨stopped, delimiter⟩
    obtain ⟨depth, blanks, left, passes, spaces, stops⟩ :=
      exists_passes_scan 0 (Text.trimStart text)
    obtain rfl : left = c :: more := (behind_eq passes.append_eq spaces stops).symm.trans stopped
    obtain rfl := stops.depth_eq_zero delimiter
    exact ⟨⟨_, passes.trans (passes_blanks spaces)⟩, delimiter⟩

instance (text : List Char) (c : Char) (more : List Char) : Decidable (DelimitedBy text c more) :=
  decidable_of_iff _ delimitedBy_iff.symm

/-- What follows the delimiter of a type has no part in it. -/
theorem DelimitedBy.exists_front (delimited : DelimitedBy text c more) :
    ∃ front, text = front ++ c :: more ∧ ∀ other, ofText (front ++ c :: other) = ofText text := by
  obtain ⟨⟨run, passes⟩, delimiter⟩ := delimited
  have follows (other : List Char) : Follows ([] ++ c :: other) := .mark (by simp) delimiter
  have closed := passes.closed_of_ne_nil (by simp)
  -- cut off before the delimiter, the run is passed over alone, and then again before any text
  have alone : Passes 0 run run 0 [] := by
    have cut : Passes 0 (run ++ []) run 0 [] := passes.cut
    rwa [List.append_nil] at cut
  have scanned (other : List Char) : scan 0 (run ++ c :: other) = scan 0 run :=
    alone.scan_append_eq (follows other).bounds closed
      ((follows other).scan_eq_nil.trans Stops.ended.scan_eq_nil.symm)
  have shape := passes.append_eq
  have trimmed (other : List Char) : Text.trimStart (run ++ c :: other) = run ++ c :: other := by
    cases run with
    | nil =>
      exact trimStart_of_visible (Text.isBlank_head_trimStart shape.symm) other
    | cons d run =>
      exact trimStart_of_visible (Text.isBlank_head_trimStart shape.symm) (run ++ c :: other)
  have parts : text = text.takeWhile Text.isBlank ++ (run ++ c :: more) := by
    rw [shape, Text.trimStart, List.takeWhile_append_dropWhile]
  have taken (other : List Char) :
      ofText (text.takeWhile Text.isBlank ++ (run ++ c :: other)) = scan 0 run := by
    rw [ofText, trimStart_append_of_blank (fun b => List.all_eq_true.1 List.all_takeWhile b),
      trimmed, scanned]
  refine ⟨text.takeWhile Text.isBlank ++ run, ?_, fun other => ?_⟩
  · rw [List.append_assoc]
    exact parts
  · rw [List.append_assoc, taken, ofText, ← shape, scanned]

end Delimiting

end TableCatalog.DeclaredType

namespace TableCatalog.Column

open DeclaredType

variable {c : Char} {front more rest : List Char} {definition : ColumnDefinition}

/-- What follows the delimiter that ends a type has no part in what is reported of the column. -/
theorem ofDefinition_delimited
    (located : definition.name.past.rest? (front ++ c :: more) = some rest)
    (delimited : DelimitedBy rest c more) (other : List Char) :
    ofDefinition (front ++ c :: other) definition =
      ofDefinition (front ++ c :: more) definition := by
  obtain ⟨inner, rfl, same⟩ := delimited.exists_front
  obtain ⟨before, shape, standing⟩ := Location.exists_before located
  obtain rfl : front = before ++ inner := by
    rw [← List.append_assoc] at shape
    exact List.append_cancel_right shape
  have located' : definition.name.past.rest? ((before ++ inner) ++ c :: other) =
      some (inner ++ c :: other) := by
    rw [List.append_assoc]
    exact standing _
  rw [ofDefinition_eq_iff, type_eq located, type_eq located', same]

/-- The word `SET` behind the delimiter does not make an option of `CHARACTER` in front of it. -/
theorem ofDefinition_delimited_character :
    let front := "CREATE TABLE a (b MAP<'c,', \"d;\"> - CHARACTER\n\u00a0".toList
    let more := " e INT)".toList
    let definition : ColumnDefinition := ⟨⟨"b", none, ⟨1, 18⟩⟩, .unspecified, none, []⟩
    let rest := " MAP<'c,', \"d;\"> - CHARACTER\n\u00a0, e INT)".toList
    definition.name.past.rest? (front ++ ',' :: more) = some rest ∧ DelimitedBy rest ',' more ∧
      ofDefinition (front ++ ',' :: " SET 'f".toList) definition =
        ofDefinition (front ++ ',' :: more) definition := by
  intro front more definition rest
  have located : definition.name.past.rest? (front ++ ',' :: more) = some rest := by
    decide +kernel
  have delimited : DelimitedBy rest ',' more := by decide +kernel
  exact ⟨located, delimited, ofDefinition_delimited located delimited _⟩

end TableCatalog.Column
