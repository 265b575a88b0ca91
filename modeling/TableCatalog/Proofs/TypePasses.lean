import TableCatalog.Proofs.OpenType

/-!
# The passes of the type scan

The scan for a type goes over a text in passes: in each it takes a blank, quoted text, a bracket,
a word or one other character. `Pass` tells what a pass takes and how many brackets are open
behind it, and `Stops` where there is none. What the scan gives is what its passes take up to
where it stops, without the blanks at the end.
-/

namespace TableCatalog.DeclaredType

section Deciding

variable (p : Char → Prop) [DecidablePred p]

/- Only the characters of a text are tested. Without this priority the tests that the library has
for all characters that there are would be found, and these cannot be evaluated. -/

instance (priority := high) decidableForallIn (text : List Char) : Decidable (∀ c ∈ text, p c) :=
  List.decidableBAll p text

instance (priority := high) decidableExistsIn (text : List Char) : Decidable (∃ c ∈ text, p c) :=
  List.decidableBEx p text

instance (priority := high) decidableForallFirst (first : Option Char) :
    Decidable (∀ c ∈ first, p c) :=
  Option.decidableForallMem first

end Deciding

section Kinds

variable {c : Char} {rest : List Char}

/-- Blanks, quotes, brackets and separators are told apart, and none of them is part of a word. -/
theorem eq_of_isSpace (space : isSpace c = true) :
    c = ' ' ∨ c = '\t' ∨ c = '\r' ∨ c = '\n' := by
  simpa [isSpace, or_assoc] using space

/-- The three marks that quote. -/
theorem eq_of_isQuote (quotes : isQuote c = true) : c = '\'' ∨ c = '"' ∨ c = '\x60' := by
  simpa [isQuote, or_assoc] using quotes

/-- The three brackets that open. -/
theorem eq_of_isOpening (opens : isOpening c = true) : c = '(' ∨ c = '[' ∨ c = '<' := by
  simpa [isOpening, or_assoc] using opens

/-- The three brackets that close. -/
theorem eq_of_isClosing (closes : isClosing c = true) : c = ')' ∨ c = ']' ∨ c = '>' := by
  simpa [isClosing, or_assoc] using closes

theorem eq_of_isSeparator (ends : isSeparator c = true) : c = ',' ∨ c = ';' := by
  simpa [isSeparator] using ends

theorem eq_of_opensComment (comment : opensComment c rest = true) : c = '-' ∨ c = '/' := by
  simp only [opensComment, Bool.or_eq_true, Bool.and_eq_true, beq_iff_eq] at comment
  rcases comment with ⟨hyphen, -⟩ | ⟨slash, -⟩
  · exact .inl hyphen
  · exact .inr slash

/-- A word begins with nothing that has a meaning of its own. -/
theorem kinds_of_isWordPart (part : isWordPart c = true) :
    isSpace c = false ∧ isQuote c = false ∧ isOpening c = false ∧ isClosing c = false ∧
      isSeparator c = false := by
  refine ⟨?_, ?_, ?_, ?_, ?_⟩ <;>
    refine Bool.eq_false_iff.2 fun special => ?_
  · rcases eq_of_isSpace special with rfl | rfl | rfl | rfl <;> revert part <;> decide
  · rcases eq_of_isQuote special with rfl | rfl | rfl <;> revert part <;> decide
  · rcases eq_of_isOpening special with rfl | rfl | rfl <;> revert part <;> decide
  · rcases eq_of_isClosing special with rfl | rfl | rfl <;> revert part <;> decide
  · rcases eq_of_isSeparator special with rfl | rfl <;> revert part <;> decide

/-- No comment begins with a character of a word. -/
theorem opensComment_of_isWordPart (part : isWordPart c = true) :
    opensComment c rest = false := by
  refine Bool.eq_false_iff.2 fun comment => ?_
  rcases eq_of_opensComment comment with rfl | rfl <;> revert part <;> decide

end Kinds

/-- One pass of the scan over the head of a text: what it takes, the number of brackets that are
open behind it, and what follows. -/
inductive Pass : Nat → List Char → List Char → Nat → List Char → Prop where
  | blank {c depth rest} (space : isSpace c = true) : Pass depth (c :: rest) [c] depth rest
  | quoted {c depth rest} (quotes : isQuote c = true) :
      Pass depth (c :: rest) (c :: (quoted c rest).1) depth (quoted c rest).2
  | opening {c depth rest} (opens : isOpening c = true) :
      Pass depth (c :: rest) [c] (depth + 1) rest
  | closing {c depth rest} (closes : isClosing c = true) :
      Pass (depth + 1) (c :: rest) [c] depth rest
  | word {c depth rest} (part : isWordPart c = true)
      (plain : depth = 0 →
        opensOption (c :: rest.takeWhile isWordPart) (rest.dropWhile isWordPart) = false) :
      Pass depth (c :: rest) (c :: rest.takeWhile isWordPart) depth (rest.dropWhile isWordPart)
  | other {c depth rest} (space : isSpace c = false) (quotes : isQuote c = false)
      (opens : isOpening c = false) (closes : isClosing c = false)
      (goesOn : isSeparator c = true → depth ≠ 0) (comment : opensComment c rest = false)
      (part : isWordPart c = false) : Pass depth (c :: rest) [c] depth rest

/-- Where the scan stops: at the end of the text, before a closing bracket or a separator outside
all brackets, before a comment, and before an option outside all brackets. -/
inductive Stops : Nat → List Char → Prop where
  | ended {depth} : Stops depth []
  | closing {c rest} (closes : isClosing c = true) : Stops 0 (c :: rest)
  | separator {c rest} (ends : isSeparator c = true) : Stops 0 (c :: rest)
  | comment {c depth rest} (opens : opensComment c rest = true) : Stops depth (c :: rest)
  | option {c rest} (part : isWordPart c = true)
      (option : opensOption (c :: rest.takeWhile isWordPart) (rest.dropWhile isWordPart) = true) :
      Stops 0 (c :: rest)

/-- A run of passes, one after another. -/
inductive Passes : Nat → List Char → List Char → Nat → List Char → Prop where
  | refl {depth text} : Passes depth text [] depth text
  | step {depth text piece depth₁ middle run depth₂ rest}
      (pass : Pass depth text piece depth₁ middle) (more : Passes depth₁ middle run depth₂ rest) :
      Passes depth text (piece ++ run) depth₂ rest

variable {c : Char} {depth depth' : Nat} {text rest left piece run : List Char}

/-- The scan goes on or stops. -/
theorem stops_or_pass (depth : Nat) (text : List Char) :
    Stops depth text ∨ ∃ piece depth' rest, Pass depth text piece depth' rest := by
  cases text with
  | nil => exact .inl .ended
  | cons c rest =>
    by_cases space : isSpace c = true
    · exact .inr ⟨_, _, _, .blank space⟩
    by_cases quotes : isQuote c = true
    · exact .inr ⟨_, _, _, .quoted quotes⟩
    by_cases opens : isOpening c = true
    · exact .inr ⟨_, _, _, .opening opens⟩
    by_cases closes : isClosing c = true
    · cases depth with
      | zero => exact .inl (.closing closes)
      | succ depth => exact .inr ⟨_, _, _, .closing closes⟩
    by_cases ends : isSeparator c = true ∧ depth = 0
    · obtain ⟨ends, rfl⟩ := ends
      exact .inl (.separator ends)
    by_cases comment : opensComment c rest = true
    · exact .inl (.comment comment)
    by_cases part : isWordPart c = true
    · by_cases option : depth = 0 ∧
          opensOption (c :: rest.takeWhile isWordPart) (rest.dropWhile isWordPart) = true
      · obtain ⟨rfl, option⟩ := option
        exact .inl (.option part option)
      · exact .inr ⟨_, _, _, .word part fun outside => by simpa [outside] using option⟩
    · rw [Bool.not_eq_true] at space quotes opens closes comment part
      exact .inr ⟨_, _, _, .other space quotes opens closes
        (fun separates outside => ends ⟨separates, outside⟩) comment part⟩

/-- A pass takes up a part of the text. -/
theorem Pass.append_eq (pass : Pass depth text piece depth' rest) : piece ++ rest = text := by
  cases pass with
  | blank | opening | closing | other => rfl
  | quoted => simp [quoted_append]
  | word => simp

/-- Every pass takes up something. -/
theorem Pass.ne_nil (pass : Pass depth text piece depth' rest) : piece ≠ [] := by
  cases pass <;> simp

/-- A pass shortens the text. -/
theorem Pass.length_lt (pass : Pass depth text piece depth' rest) : rest.length < text.length := by
  have taken := List.length_pos_iff.2 pass.ne_nil
  rw [← pass.append_eq, List.length_append]
  omega

/-- Blanks open and close no bracket. -/
theorem Pass.depth_eq (pass : Pass depth text piece depth' rest)
    (space : piece.all isSpace = true) : depth' = depth := by
  cases pass with
  | opening opens => rcases eq_of_isOpening opens with rfl | rfl | rfl <;> cases space
  | closing closes => rcases eq_of_isClosing closes with rfl | rfl | rfl <;> cases space
  | blank | quoted | word | other => rfl

/-- What passes take up and what they leave make up the text. -/
theorem Passes.append_eq (passes : Passes depth text run depth' rest) : run ++ rest = text := by
  induction passes with
  | refl => rfl
  | step pass _ ih => rw [List.append_assoc, ih, pass.append_eq]

/-- Where nothing is taken there was no pass. -/
theorem Passes.eq_of_nil (passes : Passes depth text [] depth' rest) :
    depth' = depth ∧ rest = text := by
  generalize nothing : ([] : List Char) = run at passes
  cases passes with
  | refl => exact ⟨rfl, rfl⟩
  | step pass _ => exact absurd nothing.symm (List.append_ne_nil_of_left_ne_nil pass.ne_nil _)

/-- Where the scan stops it gives nothing. -/
theorem Stops.scan_eq_nil (stops : Stops depth text) : scan depth text = [] := by
  cases stops with
  | ended => simp [scan]
  | closing closes =>
    rcases eq_of_isClosing closes with rfl | rfl | rfl <;>
      simp [scan, isSpace, isQuote, isOpening, isClosing]
  | separator ends =>
    rcases eq_of_isSeparator ends with rfl | rfl <;>
      simp [scan, isSpace, isQuote, isOpening, isClosing, isSeparator]
  | comment opens =>
    rcases eq_of_opensComment opens with rfl | rfl <;>
      simp [scan, isSpace, isQuote, isOpening, isClosing, isSeparator, opens]
  | option part option =>
    obtain ⟨space, quotes, opens, closes, ends⟩ := kinds_of_isWordPart part
    simp [scan, space, quotes, opens, closes, ends, opensComment_of_isWordPart part, part, option]

/-- What a pass takes before what the scan gives behind it: a blank counts only before more. -/
def attach (piece more : List Char) : List Char :=
  if piece.all isSpace = true ∧ more = [] then [] else piece ++ more

/-- The scan goes on behind a pass. -/
theorem Pass.scan_eq (pass : Pass depth text piece depth' rest) :
    scan depth text = attach piece (scan depth' rest) := by
  cases pass with
  | blank space => simp [scan_space space, attach, space]
  | quoted quotes =>
    rcases eq_of_isQuote quotes with rfl | rfl | rfl <;> simp [scan, attach, isSpace, isQuote]
  | opening opens =>
    rcases eq_of_isOpening opens with rfl | rfl | rfl <;>
      simp [scan, attach, isSpace, isQuote, isOpening]
  | closing closes =>
    rcases eq_of_isClosing closes with rfl | rfl | rfl <;>
      simp [scan, attach, isSpace, isQuote, isOpening, isClosing]
  | word part plain =>
    obtain ⟨space, quotes, opens, closes, ends⟩ := kinds_of_isWordPart part
    rw [scan]
    simpa [attach, space, quotes, opens, closes, ends, opensComment_of_isWordPart part, part]
      using plain
  | other space quotes opens closes goesOn comment part =>
    rw [scan]
    simpa [attach, space, quotes, opens, closes, comment, part] using goesOn

/-- The scan goes over the type in passes, over blanks behind it, and stops. -/
theorem exists_passes_scan (depth : Nat) (text : List Char) :
    ∃ depth' blanks left, Passes depth text (scan depth text) depth' (blanks ++ left) ∧
      (∀ c ∈ blanks, isSpace c = true) ∧ Stops depth' left := by
  induction size : text.length using Nat.strongRecOn generalizing depth text with
  | ind _ ih =>
    rcases stops_or_pass depth text with stops | ⟨piece, depth₁, middle, pass⟩
    · refine ⟨depth, [], text, ?_, by simp, stops⟩
      rw [stops.scan_eq_nil]
      exact .refl
    · obtain ⟨depth', blanks, left, passes, spaces, stops⟩ :=
        ih _ (size ▸ pass.length_lt) depth₁ middle rfl
      have whole := pass.scan_eq
      unfold attach at whole
      split at whole
      · -- no pass follows the blank, which then stands in front of the other blanks
        rename_i ended
        obtain ⟨space, nothing⟩ := ended
        rw [nothing] at passes
        obtain ⟨rfl, rfl⟩ := passes.eq_of_nil
        obtain rfl := pass.depth_eq space
        refine ⟨_, piece ++ blanks, left, ?_, ?_, stops⟩
        · rw [whole, List.append_assoc, pass.append_eq]
          exact .refl
        · simpa [or_imp, forall_and] using ⟨by simpa using space, spaces⟩
      · exact ⟨depth', blanks, left, whole ▸ .step pass passes, spaces, stops⟩

/-- What is passed over before the scan comes to nothing is the type, if no blank ends it. -/
theorem Passes.scan_eq (passes : Passes depth text run depth' rest)
    (ended : scan depth' rest = []) (filled : ∀ c ∈ run.getLast?, isSpace c = false) :
    scan depth text = run := by
  induction passes with
  | refl => exact ended
  | @step _ _ piece _ middle run _ _ pass more ih =>
    have later : scan _ middle = run := ih ended fun c last =>
      filled c (by simp [List.getLast?_append, Option.mem_def.1 last])
    rw [pass.scan_eq, later, attach, if_neg]
    rintro ⟨space, rfl⟩
    cases last : piece.getLast? with
    | none => exact pass.ne_nil (List.getLast?_eq_none_iff.1 last)
    | some d =>
      have blank := List.all_eq_true.1 space d (List.mem_of_getLast? last)
      exact absurd blank (by simp [filled d (by simp [last])])

end TableCatalog.DeclaredType
