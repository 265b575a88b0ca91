import TableCatalog.Proofs.Place
import TableCatalog.Proofs.TypeReach

/-!
# Types that are reported verbatim

A type is well formed if nothing in it ends the scan for it: no comment, and outside brackets
no separator and no word that begins an option. Then the scan passes over it alike whatever
follows it, and where what follows ends the scan, the type is reported as it stands, wherever
it stands in the script.
-/

namespace TableCatalog.DeclaredType

variable {c : Char} {depth depth' : Nat} {text rest left piece run front type after : List Char}

/-- Whether neither a quote nor a bracket is open at the end of a text. -/
def isSettled (text : List Char) : Bool :=
  (unquoted? text).any fun outside => outside.countP isOpening == outside.countP isClosing

/-- Whether a text begins with a separator. -/
def beginsSeparator (text : List Char) : Bool :=
  text.head?.any isSeparator

/-- Whether the word at the head of a text begins an option of a column. -/
def beginsOption (text : List Char) : Bool :=
  opensOption (text.takeWhile isWordPart) (text.dropWhile isWordPart)

/-- Types that nothing in them ends: no blank stands at either end, quotes end and brackets nest,
no comment begins outside quotes, and outside quotes and brackets there is no separator and no
word that begins an option. -/
structure WellFormed (type : List Char) : Prop where
  filled : type ≠ []
  begins : ∀ c ∈ type.head?, Text.isBlank c = false
  ends : ∀ c ∈ type.getLast?, isSpace c = false
  balanced : Balanced type
  uncommented : ∀ i < type.length, (unquoted? (type.take i)).isSome = true →
    beginsComment (type.drop i) = false
  unseparated : ∀ i < type.length, isSettled (type.take i) = true →
    beginsSeparator (type.drop i) = false
  optionless : ∀ i < type.length, isSettled (type.take i) = true →
    (∀ c ∈ (type.take i).getLast?, isWordPart c = false) → beginsOption (type.drop i) = false

instance (type : List Char) : Decidable (WellFormed type) :=
  decidable_of_iff
    (type ≠ [] ∧ (∀ c ∈ type.head?, Text.isBlank c = false) ∧
      (∀ c ∈ type.getLast?, isSpace c = false) ∧ Balanced type ∧
      (∀ i < type.length, (unquoted? (type.take i)).isSome = true →
        beginsComment (type.drop i) = false) ∧
      (∀ i < type.length, isSettled (type.take i) = true →
        beginsSeparator (type.drop i) = false) ∧
      ∀ i < type.length, isSettled (type.take i) = true →
        (∀ c ∈ (type.take i).getLast?, isWordPart c = false) → beginsOption (type.drop i) = false)
    ⟨fun ⟨filled, begins, ends, balanced, uncommented, unseparated, optionless⟩ =>
        ⟨filled, begins, ends, balanced, uncommented, unseparated, optionless⟩,
      fun type => ⟨type.filled, type.begins, type.ends, type.balanced, type.uncommented,
        type.unseparated, type.optionless⟩⟩

/-- What may follow a type: nothing; a separator or a closing bracket, blanks or none before it;
after blanks, a whole word that begins an option, or a comment. -/
inductive Follows : List Char → Prop where
  | nothing : Follows []
  | mark {blanks c rest} (spaces : ∀ b ∈ blanks, isSpace b = true)
      (ends : isSeparator c = true ∨ isClosing c = true) : Follows (blanks ++ c :: rest)
  | option {blanks word rest} (spaces : ∀ b ∈ blanks, isSpace b = true) (apart : blanks ≠ [])
      (parts : ∀ c ∈ word, isWordPart c = true) (whole : ∀ c ∈ rest.head?, isWordPart c = false)
      (option : opensOption word rest = true) : Follows (blanks ++ (word ++ rest))
  | comment {blanks c rest} (spaces : ∀ b ∈ blanks, isSpace b = true) (apart : blanks ≠ [])
      (opens : opensComment c rest = true) : Follows (blanks ++ c :: rest)

section Following

/-- No word that begins an option begins as `SET` does. -/
theorem toUpper_head_of_opensOption {word : List Char} (option : opensOption (c :: word) rest = true) :
    c.toUpper ≠ 'S' := by
  have known : Text.asciiUpper (c :: word) ∈ "CHARACTER".toList :: optionWords := by
    simp only [opensOption, Bool.or_eq_true, Bool.and_eq_true, beq_iff_eq,
      List.contains_iff_mem] at option
    rcases option with listed | ⟨character, -⟩
    · exact List.mem_cons_of_mem _ listed
    · exact character ▸ List.mem_cons_self
  have heads : ∀ word ∈ "CHARACTER".toList :: optionWords, word.head? ≠ some 'S' := by decide
  simpa [Text.asciiUpper] using heads _ known

/-- What follows a type bounds it. -/
theorem Follows.bounds (follows : Follows after) : Bounds after := by
  cases follows with
  | nothing => exact ⟨by simp, by simp [Text.trimStart]⟩
  | @mark blanks d rest spaces ends =>
    have kinds : d ∈ [',', ';', ')', ']', '>'] := by
      rcases ends with ends | closes
      · rcases eq_of_isSeparator ends with rfl | rfl <;> decide
      · rcases eq_of_isClosing closes with rfl | rfl | rfl <;> decide
    have facts : ∀ d ∈ [',', ';', ')', ']', '>'], Text.isBlank d = false ∧ d.toUpper ≠ 'S' := by
      decide
    exact bounds_append spaces (fun _ => kinds) (facts d kinds).1 (facts d kinds).2 rest
  | @option blanks word rest spaces apart parts whole option =>
    cases word with
    | nil => cases option
    | cons d word =>
      exact bounds_append spaces (absurd · apart) (isBlank_of_isWordPart (parts d List.mem_cons_self))
        (toUpper_head_of_opensOption option) _
  | @comment blanks d rest spaces apart opens =>
    have kinds : Text.isBlank d = false ∧ d.toUpper ≠ 'S' := by
      rcases eq_of_opensComment opens with rfl | rfl <;> decide
    exact bounds_append spaces (absurd · apart) kinds.1 kinds.2 rest

/-- Where what follows a type begins, the scan comes to nothing. -/
theorem Follows.scan_eq_nil (follows : Follows after) : scan 0 after = [] := by
  cases follows with
  | nothing => exact Stops.ended.scan_eq_nil
  | mark spaces ends => exact scan_blanks spaces (ends.elim Stops.separator Stops.closing).scan_eq_nil
  | option spaces _ parts whole option =>
    exact scan_blanks spaces (scan_word_eq_nil (by rintro rfl; cases option) parts whole option)
  | comment spaces _ opens => exact scan_blanks spaces (Stops.comment opens).scan_eq_nil

end Following

section Passing

/-- Where a word begins, none has ended. -/
theorem Pass.seam (pass : Pass depth text piece depth' rest)
    (word : ∃ c ∈ rest.head?, isWordPart c = true) :
    ∀ c ∈ piece.getLast?, isWordPart c = false := by
  obtain ⟨d, first, begins⟩ := word
  have closed := pass.closed_of_ne_nil (by rintro rfl; cases first)
  intro c last
  refine Bool.eq_false_iff.2 fun part => ?_
  exact absurd begins (by simp [(pass.getLast?_kinds closed c last).2 part d first])

theorem Passes.seam (passes : Passes depth text run depth' left)
    (word : ∃ c ∈ left.head?, isWordPart c = true) :
    ∀ c ∈ run.getLast?, isWordPart c = false := by
  induction passes with
  | refl => simp
  | @step _ _ piece _ middle run _ left pass more ih =>
    cases run with
    | nil =>
      obtain ⟨rfl, rfl⟩ := more.eq_of_nil
      simpa using pass.seam word
    | cons d run =>
      have later := ih word
      simpa [List.getLast?_append] using later

/-- Nowhere inside a well-formed type does the scan stop. -/
theorem WellFormed.not_stops (formed : WellFormed (front ++ left))
    (passes : Passes 0 (front ++ left) front depth left) (early : left ≠ []) :
    ¬Stops depth left := by
  obtain ⟨outside, tally⟩ := passes.exists_tally (passes.closed_of_ne_nil early)
  have inside : front.length < (front ++ left).length := by
    simpa using List.length_pos_iff.2 early
  have closed : (unquoted? front).isSome = true := by rw [tally.unquoted?_eq]; rfl
  have settled := tally.settled
  have level (outer : depth = 0) : isSettled ((front ++ left).take front.length) = true := by
    simpa [isSettled, tally.unquoted?_eq, outer] using settled
  intro stops
  cases stops with
  | ended => exact early rfl
  | @closing c rest closes =>
    -- One bracket more would be closed than are open, but the brackets of the type nest.
    obtain ⟨whole, found, nested⟩ := formed.balanced
    have kinds : isQuote c = false ∧ isOpening c = false := by
      rcases eq_of_isClosing closes with rfl | rfl | rfl <;> decide
    rw [tally.unquoted (c :: rest) (by simp), unquoted?, if_neg (by simp [kinds.1])] at found
    obtain ⟨tail, later, rfl⟩ := Option.map_eq_some_iff.1 found
    obtain ⟨more, -, rfl⟩ := Option.map_eq_some_iff.1 later
    have bound := nested.sane (outside ++ [c]) ⟨more, by simp⟩
    simp only [List.countP_append, List.countP_singleton, closes, kinds.2, if_true,
      Bool.false_eq_true, if_false] at bound
    omega
  | separator ends =>
    have none := formed.unseparated _ inside (level rfl)
    simp [beginsSeparator, ends] at none
  | comment opens =>
    have none := formed.uncommented _ inside (by simpa using closed)
    simp [beginsComment, opens] at none
  | @option c rest part option =>
    have none := formed.optionless _ inside (level rfl) (by simpa using passes.seam ⟨c, rfl, part⟩)
    simp [beginsOption, part, option] at none

/-- The scan goes through a well-formed type, and no bracket is open behind it. -/
theorem WellFormed.passes (formed : WellFormed type) : Passes 0 type type 0 [] := by
  cases reach 0 type with
  | stopped passes stops early =>
    obtain rfl := passes.append_eq
    exact absurd stops (formed.not_stops passes early)
  | through passes closed =>
    obtain ⟨outside, tally⟩ := passes.exists_tally closed
    obtain rfl := tally.balanced_iff.1 formed.balanced
    exact passes
  | @quoting front depth quote inside passes quotes opened =>
    obtain ⟨outside, tally⟩ := passes.exists_tally (passes.closed_of_ne_nil (by simp))
    obtain ⟨whole, found, -⟩ := formed.balanced
    rw [← passes.append_eq, tally.unquoted _ (by simp), unquoted?, if_pos quotes, if_pos opened]
      at found
    cases found

/-- The scan takes exactly a well-formed type from the head of a text. -/
theorem WellFormed.scan_append (formed : WellFormed type) (follows : Follows after) :
    scan 0 (type ++ after) = type := by
  have closed : (unquoted? type).isSome = true := by
    obtain ⟨outside, found, -⟩ := formed.balanced
    rw [found]
    rfl
  exact (formed.passes.append follows.bounds closed).scan_eq follows.scan_eq_nil formed.ends

/-- Blanks before a well-formed type are no part of it. -/
theorem WellFormed.ofText_append (formed : WellFormed type) (follows : Follows after)
    {blanks : List Char} (blank : ∀ c ∈ blanks, Text.isBlank c = true) :
    ofText (blanks ++ (type ++ after)) = type := by
  obtain ⟨c, rest, rfl⟩ := List.exists_cons_of_ne_nil formed.filled
  rw [List.cons_append, ofText_append_of_blank blank (formed.begins c rfl)]
  exact formed.scan_append follows

end Passing

end TableCatalog.DeclaredType

namespace TableCatalog.Column

/-- A well-formed type is reported verbatim, wherever it stands behind the name of its column. -/
theorem type_verbatim {before blanks type after : List Char} {definition : ColumnDefinition}
    (place : definition.name.past = Location.start.after before)
    (blank : ∀ c ∈ blanks, Text.isBlank c = true) (formed : DeclaredType.WellFormed type)
    (follows : DeclaredType.Follows after) :
    (ofDefinition (before ++ blanks ++ type ++ after) definition).type = String.ofList type := by
  have located : definition.name.past.rest? (before ++ blanks ++ type ++ after) =
      some (blanks ++ (type ++ after)) := by
    rw [place, List.append_assoc, List.append_assoc]
    exact Location.rest?_after before _
  have whole : DeclaredType.ofText (blanks ++ (type ++ after)) = type :=
    formed.ofText_append follows blank
  rw [type_of_located located (by rw [whole]; exact formed.filled), whole]

/-- A type over several lines, with brackets and commas in quotes. -/
theorem type_verbatim_nested :
    let before := "CREATE TABLE a (\n  b".toList
    let blanks := "\u00a0\n\t".toList
    let type := "map<varchar ( 2 ), ENUM('c)',\n\t\"NOT\", `d``,`, 'é')> [ -1 ]".toList
    let after := "\n  NOT NULL)".toList
    let definition : ColumnDefinition :=
      ⟨⟨"b", none, Location.start.after before⟩, .unspecified, none, []⟩
    (∀ c ∈ blanks, Text.isBlank c = true) ∧ DeclaredType.WellFormed type ∧
      DeclaredType.Follows after ∧
        (ofDefinition (before ++ blanks ++ type ++ after) definition).type = String.ofList type := by
  intro before blanks type after definition
  have blank : ∀ c ∈ blanks, Text.isBlank c = true := by decide
  have formed : DeclaredType.WellFormed type := by decide +kernel
  have follows : DeclaredType.Follows ("\n  ".toList ++ ("NOT".toList ++ " NULL)".toList)) :=
    .option (by decide) (by decide) (by decide) (by decide) (by decide)
  exact ⟨blank, formed, follows, type_verbatim rfl blank formed follows⟩

end TableCatalog.Column
