import TableCatalog.Proofs.Offset
import TableCatalog.Table.Extraction

/-!
# Columns behind the end of their line

Columns are counted from the first character of a line through the rest of the text. So a place
leads to the text that ends exactly there as long as its column stays in its line; a column behind
the end of the line runs into the lines that follow, and only the end of the text stops it.
-/

namespace TableCatalog.Location

/-- The text from the first character of a line on, if the text has so many lines. -/
def fromLine? (text : List Char) : Nat → Option (List Char)
  | 0 => Option.none
  | line + 1 => dropLines line text

/-- A place whose column is one of its line, or the one that follows the line. -/
def InLine (text : List Char) (place : Location) : Prop :=
  ∃ behind ∈ fromLine? text place.line, 0 < place.column ∧
    place.column ≤ (behind.takeWhile (· != '\n')).length + 1

instance (text : List Char) (place : Location) : Decidable (place.InLine text) :=
  inferInstanceAs (Decidable (∃ behind ∈ fromLine? text place.line, _ ∧ _))

/-- A place whose column is no further behind the first one of its line than the end of the
text is. -/
def InText (text : List Char) (place : Location) : Prop :=
  ∃ behind ∈ fromLine? text place.line, 0 < place.column ∧ place.column ≤ behind.length + 1

/-- The place behind a text: its line by the line feeds of the text, its column by the characters
behind the last of them. -/
def endOf (text : List Char) : Location :=
  ⟨text.count '\n' + 1, (lastLine text).length + 1⟩

variable {text rest : List Char} {place : Location} {count offset : Nat}

section Lines

/-- Dropping lines drops their line feeds. -/
theorem count_of_dropLines (found : dropLines count text = some rest) :
    text.count '\n' = count + rest.count '\n' := by
  induction text generalizing count with
  | nil =>
    cases count with
    | zero => simp_all [dropLines]
    | succ count => cases found
  | cons c text ih =>
    cases count with
    | zero => simp_all [dropLines]
    | succ count =>
      rw [dropLines] at found
      by_cases feed : c = '\n'
      · subst feed
        have later := ih (by simpa using found)
        rw [List.count_cons_self, later]
        omega
      · have later := ih (by simpa [feed] using found)
        rw [List.count_cons_of_ne feed, later]

/-- In front of a line stand the lines before it. -/
theorem exists_lines (found : dropLines count text = some rest) :
    ∃ lines, text = lines ++ rest ∧ lines.count '\n' = count ∧ lastLine lines = [] := by
  obtain ⟨lines, rfl, -⟩ := exists_before_dropLines found
  have feeds : lines.count '\n' = count := by
    have all := count_of_dropLines found
    rw [List.count_append] at all
    omega
  have same := dropLines_count lines rest
  rw [feeds, found] at same
  exact ⟨lines, rfl, feeds, by simpa using Option.some.inj same⟩

theorem dropChars_eq (count : Nat) (text : List Char) :
    dropChars count text = if count ≤ text.length then some (text.drop count) else Option.none := by
  induction text generalizing count with
  | nil => cases count <;> simp [dropChars]
  | cons c text ih => cases count <;> simp [dropChars, ih]

theorem lastLine_append_flat {run : List Char} (flat : '\n' ∉ run) (text : List Char) :
    lastLine (text ++ run) = lastLine text ++ run := by
  induction run using List.reverseRecOn with
  | nil => simp
  | append_singleton run c ih =>
    have printed : c ≠ '\n' := fun same => flat (by simp [same])
    have flat' : '\n' ∉ run := fun inside => flat (List.mem_append_left _ inside)
    rw [← List.append_assoc, lastLine_concat printed, ih flat', List.append_assoc]

theorem takeWhile_append_flat {run : List Char} (flat : '\n' ∉ run) (rest : List Char) :
    (run ++ rest).takeWhile (· != '\n') = run ++ rest.takeWhile (· != '\n') := by
  refine List.takeWhile_append_of_pos fun c member => ?_
  simpa using fun same : c = '\n' => flat (same ▸ member)

/-- A run goes no further than its line exactly if it has no line feed. -/
theorem length_le_takeWhile_iff (run rest : List Char) :
    run.length ≤ ((run ++ rest).takeWhile (· != '\n')).length ↔ '\n' ∉ run := by
  constructor
  · intro short inside
    obtain ⟨front, back, rfl, flat⟩ := List.eq_append_cons_of_mem inside
    have ended : ('\n' :: back ++ rest).takeWhile (· != '\n') = [] := rfl
    rw [List.append_assoc, takeWhile_append_flat flat, ended, List.append_nil, List.length_append,
      List.length_cons] at short
    omega
  · intro flat
    rw [takeWhile_append_flat flat, List.length_append]
    omega

end Lines

section Places

/-- The place behind a text is the one that reading it leads to. -/
theorem byteOffset?_endOf (front rest : List Char) :
    (endOf front).byteOffset? (front ++ rest) = some (String.ofList front).utf8ByteSize := by
  have reached : start.after front = endOf front := start_after front
  rw [byteOffset?_eq, ← reached, before?_after, Option.map_some]

/-- A place stands behind the lines before it and a run of characters, which may hold line feeds. -/
theorem exists_of_rest? (found : place.rest? text = some rest) :
    ∃ lines run, text = lines ++ (run ++ rest) ∧ lastLine lines = [] ∧
      fromLine? text place.line = some (run ++ rest) ∧
      place = ⟨lines.count '\n' + 1, run.length + 1⟩ := by
  obtain ⟨_ | line, _ | column⟩ := place
  · cases found
  · cases found
  · cases found
  · obtain ⟨middle, lines, chars⟩ := Option.bind_eq_some_iff.1 found
    obtain ⟨before, rfl, feeds, ended⟩ := exists_lines lines
    rw [dropChars_eq] at chars
    split at chars
    case isTrue enough =>
      obtain rfl := Option.some.inj chars
      refine ⟨before, middle.take column, ?_, ended, ?_, ?_⟩
      · rw [List.take_append_drop]
      · rw [List.take_append_drop]
        exact lines
      · simp [feeds, enough]
    case isFalse => cases chars

/-- A place finds a text exactly if it is no further than the end of all of it. -/
theorem isSome_byteOffset?_iff (text : List Char) (place : Location) :
    (place.byteOffset? text).isSome = true ↔ place.InText text := by
  obtain ⟨_ | line, _ | column⟩ := place
  · simp [byteOffset?, rest?, InText, fromLine?]
  · simp [byteOffset?, rest?, InText, fromLine?]
  · simp [byteOffset?, rest?, InText]
  · cases lines : dropLines line text with
    | none => simp [byteOffset?, rest?, InText, fromLine?, lines]
    | some behind =>
      by_cases enough : column ≤ behind.length <;>
        simp [byteOffset?, rest?, InText, fromLine?, lines, dropChars_eq, enough]

/-- Texts that begin a text are the same if they take the same bytes. -/
theorem eq_of_utf8ByteSize_eq {first second : List Char} (here : first <+: text)
    (there : second <+: text)
    (same : (String.ofList first).utf8ByteSize = (String.ofList second).utf8ByteSize) :
    first = second := by
  rw [← byteLength_eq, ← byteLength_eq] at same
  exact (prefix_of_byteLength_le here there same.le).eq_of_length_le
    (prefix_of_byteLength_le there here same.ge).length_le

/-- The bytes before a place are those of a text that ends exactly there if the column of the place
is in its line, and of one that ends elsewhere if it is not. -/
theorem exists_front (found : place.byteOffset? text = some offset) :
    ∃ front rest, text = front ++ rest ∧ (String.ofList front).utf8ByteSize = offset ∧
      (place = endOf front ↔ place.InLine text) := by
  obtain ⟨rest, located, -⟩ := Option.map_eq_some_iff.1 found
  obtain ⟨lines, run, shape, ended, line, rfl⟩ := exists_of_rest? located
  have size : (String.ofList (lines ++ run)).utf8ByteSize = offset := by
    have before : Location.before? text ⟨lines.count '\n' + 1, run.length + 1⟩ =
        some (lines ++ run) := by
      rw [before?, located, Option.map_some, shape, ← List.append_assoc, List.length_append,
        Nat.add_sub_cancel, List.take_left]
    rw [byteOffset?_eq, before] at found
    exact Option.some.inj found
  refine ⟨lines ++ run, rest, by rw [shape, List.append_assoc], size, ?_⟩
  have inLine : InLine text ⟨lines.count '\n' + 1, run.length + 1⟩ ↔ '\n' ∉ run := by
    rw [← length_le_takeWhile_iff run rest]
    simp [InLine, line]
  rw [inLine]
  constructor
  · intro exactly
    have feeds := congrArg Location.line exactly
    simp only [endOf, List.count_append] at feeds
    exact List.count_eq_zero.1 (by omega)
  · intro flat
    rw [endOf, lastLine_append_flat flat, ended, List.count_append, List.count_eq_zero.2 flat]
    rfl

end Places

/-- A place has an offset exactly if its column does not reach over the end of the text. The bytes
before it are those of a text that ends exactly there if, and only if, the column is in its line;
and of all places whose columns are in their lines that one alone has the offset. -/
theorem byteOffset?_exact_iff (text : List Char) (place : Location) :
    ((place.byteOffset? text).isSome = true ↔ place.InText text) ∧
      ∀ offset, place.byteOffset? text = some offset →
        ∃ front rest, text = front ++ rest ∧ (String.ofList front).utf8ByteSize = offset ∧
          (place = endOf front ↔ place.InLine text) ∧
          ∀ other : Location, other.InLine text →
            (other.byteOffset? text = some offset ↔ other = endOf front) := by
  refine ⟨isSome_byteOffset?_iff text place, fun offset found => ?_⟩
  obtain ⟨front, rest, rfl, size, exactly⟩ := exists_front found
  refine ⟨front, rest, rfl, size, exactly, fun other inLine => ⟨fun found' => ?_, ?_⟩⟩
  · obtain ⟨front', rest', shape, size', exactly'⟩ := exists_front found'
    have same : front' = front :=
      eq_of_utf8ByteSize_eq ⟨rest', shape.symm⟩ (List.prefix_append front rest)
        (size'.trans size.symm)
    rw [← same]
    exact exactly'.2 inLine
  · rintro rfl
    rw [byteOffset?_endOf, size]

end TableCatalog.Location

namespace TableCatalog.Column

open Location

/-- A place behind the end of the first line leads into the second one, to where a place of that
line leads too, and a column whose name ends there has a type of the second line. -/
theorem type_of_next_line :
    let script := "a\n INT".toList
    let definition : ColumnDefinition := ⟨⟨"a", none, ⟨1, 3⟩⟩, .plain "TEXT", none, []⟩
    ¬definition.name.past.InLine script ∧
      definition.name.past.byteOffset? script = some 2 ∧
      definition.name.past ≠ endOf "a\n".toList ∧
      (endOf "a\n".toList).byteOffset? script = some 2 ∧
      (ofDefinition script definition).type = "INT" := by
  decide +kernel

end TableCatalog.Column
