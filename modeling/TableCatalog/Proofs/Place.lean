import TableCatalog.Token.Cursor

/-!
# Places inside a text

A place that reading a text leads to finds the way back: the text divides there into
what has been read and what has not.
-/

namespace TableCatalog.Location

/-- A run without a line feed stays on its line. -/
theorem line_after {run : List Char} (flat : '\n' ∉ run) (place : Location) :
    (place.after run).line = place.line := by
  induction run generalizing place with
  | nil => rfl
  | cons c run ih =>
    simp only [List.mem_cons, not_or] at flat
    rw [after_cons, ih flat.2]
    simp [next, Ne.symm flat.1]

/-- Reading never goes back a line. -/
theorem line_le_after (place : Location) (run : List Char) :
    place.line ≤ (place.after run).line := by
  induction run generalizing place with
  | nil => exact Nat.le_refl _
  | cons c run ih =>
    have here : place.line ≤ (place.next c).line := by
      unfold next
      split
      · exact Nat.le_succ _
      · exact Nat.le_refl _
    exact Nat.le_trans here (ih (place.next c))

/-- A place marks where `rest` begins in a text: after the lines before it and the
characters of its own line. -/
def Marks (text rest : List Char) (place : Location) : Prop :=
  ∃ line run, place = ⟨line + 1, run.length + 1⟩ ∧ '\n' ∉ run ∧
    dropLines line text = some (run ++ rest)

/-- The first place marks the whole text. -/
theorem marks_start (text : List Char) : Marks text text start :=
  ⟨0, [], rfl, List.not_mem_nil, by simp [dropLines]⟩

/-- The characters in front of a text are dropped one by one. -/
theorem dropChars_append (run : List Char) (count : Nat) (rest : List Char) :
    dropChars (count + run.length) (run ++ rest) = dropChars count rest := by
  induction run with
  | nil => rfl
  | cons c run ih => exact ih

/-- A line ends at its first line feed. -/
theorem dropLines_one_append {run : List Char} (flat : '\n' ∉ run) (rest : List Char) :
    dropLines 1 (run ++ '\n' :: rest) = some rest := by
  induction run with
  | nil => simp [dropLines]
  | cons c run ih =>
    have differs : (c == '\n') = false := by
      simpa using fun same : c = '\n' => flat (same ▸ List.mem_cons_self)
    have tail := ih fun inside => flat (List.mem_cons_of_mem c inside)
    simpa [dropLines, differs] using tail

/-- Lines are dropped one after another. -/
theorem dropLines_add (first second : Nat) (text : List Char) :
    dropLines (first + second) text = (dropLines first text).bind (dropLines second) := by
  induction text generalizing first with
  | nil =>
    cases first with
    | zero => simp [dropLines]
    | succ n =>
      rw [show n + 1 + second = n + second + 1 by omega]
      rfl
  | cons c rest ih =>
    cases first with
    | zero => simp [dropLines]
    | succ n =>
      rw [show n + 1 + second = n + second + 1 by omega, dropLines, dropLines]
      split
      · exact ih n
      · simpa [show n + 1 + second = n + second + 1 by omega] using ih (n + 1)

/-- Reading a character moves the mark past it. -/
theorem Marks.next {text rest : List Char} {place : Location} {c : Char}
    (marks : Marks text (c :: rest) place) : Marks text rest (place.next c) := by
  obtain ⟨line, run, rfl, flat, found⟩ := marks
  by_cases feed : c = '\n'
  · subst feed
    refine ⟨line + 1, [], rfl, List.not_mem_nil, ?_⟩
    rw [dropLines_add, found]
    exact dropLines_one_append flat rest
  · refine ⟨line, run ++ [c], ?_, ?_, ?_⟩
    · simp [Location.next, feed]
    · simpa [flat] using fun same : '\n' = c => feed same.symm
    · simpa using found

/-- Reading a run of characters moves the mark past it. -/
theorem Marks.after {text run rest : List Char} {place : Location}
    (marks : Marks text (run ++ rest) place) : Marks text rest (place.after run) := by
  induction run generalizing place with
  | nil => exact marks
  | cons c run ih => exact ih marks.next

/-- The text after a place is what the place marks. -/
theorem Marks.rest? {text rest : List Char} {place : Location} (marks : Marks text rest place) :
    place.rest? text = some rest := by
  obtain ⟨line, run, rfl, -, found⟩ := marks
  have dropped : dropChars run.length (run ++ rest) = some rest := by
    simpa [dropChars] using dropChars_append run 0 rest
  simp [Location.rest?, found, dropped]

/-- What stands after the place that reading a run leads to. -/
theorem rest?_after (run rest : List Char) :
    (start.after run).rest? (run ++ rest) = some rest :=
  (Marks.after (marks_start (run ++ rest))).rest?

/-- The text before the place that reading a run leads to is that run. -/
theorem before?_after (run rest : List Char) :
    (start.after run).before? (run ++ rest) = some run := by
  rw [before?, rest?_after]
  simp

section Dividing

variable {count : Nat} {text rest : List Char} {place : Location}

/-- What stands behind a number of line feeds stands there whatever it is. -/
theorem exists_before_dropLines (found : dropLines count text = some rest) :
    ∃ front, text = front ++ rest ∧ ∀ other, dropLines count (front ++ other) = some other := by
  induction text generalizing count with
  | nil =>
    cases count with
    | zero => exact ⟨[], by simpa [dropLines] using found, by simp [dropLines]⟩
    | succ count => cases found
  | cons c text ih =>
    cases count with
    | zero => exact ⟨[], by simpa [dropLines] using found, by simp [dropLines]⟩
    | succ count =>
      rw [dropLines] at found
      by_cases feed : c = '\n'
      · obtain ⟨front, rfl, replaced⟩ := ih (by simpa [feed] using found)
        exact ⟨c :: front, rfl, fun other => by simp [dropLines, feed, replaced]⟩
      · obtain ⟨front, rfl, replaced⟩ := ih (by simpa [feed] using found)
        exact ⟨c :: front, rfl, fun other => by simp [dropLines, feed, replaced]⟩

/-- What stands behind a number of characters stands there whatever it is. -/
theorem exists_before_dropChars (found : dropChars count text = some rest) :
    ∃ front, text = front ++ rest ∧ ∀ other, dropChars count (front ++ other) = some other := by
  induction text generalizing count with
  | nil =>
    cases count with
    | zero => exact ⟨[], by simpa [dropChars] using found, fun _ => rfl⟩
    | succ count => cases found
  | cons c text ih =>
    cases count with
    | zero => exact ⟨[], by simpa [dropChars] using found, fun _ => rfl⟩
    | succ count =>
      obtain ⟨front, rfl, replaced⟩ := ih found
      exact ⟨c :: front, rfl, replaced⟩

/-- A place is found by what stands before it alone. -/
theorem exists_before (found : place.rest? text = some rest) :
    ∃ front, text = front ++ rest ∧ ∀ other, place.rest? (front ++ other) = some other := by
  obtain ⟨_ | line, _ | column⟩ := place
  · cases found
  · cases found
  · cases found
  · obtain ⟨middle, lines, chars⟩ := Option.bind_eq_some_iff.1 found
    obtain ⟨before, rfl, behindLines⟩ := exists_before_dropLines lines
    obtain ⟨run, rfl, behindChars⟩ := exists_before_dropChars chars
    refine ⟨before ++ run, by simp, fun other => ?_⟩
    simp [rest?, behindLines, behindChars]

end Dividing

end TableCatalog.Location
