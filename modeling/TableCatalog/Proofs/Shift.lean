import TableCatalog.Proofs.Offset
import TableCatalog.Proofs.Tables

/-!
# A script behind another text

Text in front of a script moves its places: those in the first line go to the last line of the
text, behind its characters, and all others down by its line feeds. Behind a place that is moved
so stands what stood behind it before, and so what is reported of a column does not depend on
where its definition stands.
-/

namespace TableCatalog

namespace Location

variable {run : List Char}

/-- A place in a text, in front of which another one is put. What is no place stays none. -/
def shift (front : List Char) (place : Location) : Location :=
  match place with
  | ⟨0, _⟩ | ⟨_, 0⟩ => place
  | ⟨1, column⟩ => ⟨1 + front.count '\n', column + (lastLine front).length⟩
  | ⟨line, column⟩ => ⟨line + front.count '\n', column⟩

/-- The first line feed of a text is not in front of it. -/
theorem dropLines_append_flat (flat : '\n' ∉ run) (count : Nat) (text : List Char) :
    dropLines (count + 1) (run ++ text) = dropLines (count + 1) text := by
  induction run with
  | nil => rfl
  | cons c run ih =>
    simp only [List.mem_cons, not_or] at flat
    obtain ⟨printed, flat⟩ := flat
    rw [List.cons_append, dropLines, if_neg (by simpa using Ne.symm printed), ih flat]

/-- Behind a place that is moved stands what stood behind it. -/
theorem rest?_shift (front text : List Char) (place : Location) :
    (place.shift front).rest? (front ++ text) = place.rest? text := by
  obtain ⟨line, column⟩ := place
  match line, column with
  | 0, _ => rfl
  | line + 1, 0 => cases line <;> rfl
  | 1, column + 1 =>
    have moved : shift front ⟨1, column + 1⟩ =
        ⟨front.count '\n' + 1, column + (lastLine front).length + 1⟩ := by
      simp only [shift, Location.mk.injEq]
      omega
    rw [moved, rest?, dropLines_count, Option.bind_some, dropChars_append]
    simp [rest?, dropLines]
  | line + 2, column + 1 =>
    have moved : shift front ⟨line + 2, column + 1⟩ =
        ⟨front.count '\n' + (line + 1) + 1, column + 1⟩ := by
      simp only [shift, Location.mk.injEq, and_true]
      omega
    rw [moved, rest?, dropLines_add, dropLines_count, Option.bind_some,
      dropLines_append_flat (flat_lastLine front), rest?]

end Location

namespace Column

/-- A column is reported alike in a script and behind any text in front of it. Outside the script
its place finds no type, and the spelling of the type is reported. -/
theorem ofDefinition_shift (front script : List Char) (definition : ColumnDefinition) :
    ofDefinition (front ++ script) (definition.relocate (Location.shift front)) =
        ofDefinition script definition ∧
      (definition.name.past.rest? script = none →
        (ofDefinition script definition).type = definition.type.render) := by
  constructor
  · have same (place : Location) :
        (place.shift front).rest? (front ++ script) = (id place).rest? script :=
      Location.rest?_shift front script place
    exact ofDefinition_relocate same definition
  · intro outside
    simp [ofDefinition, ofParts, declaredType?, outside]

/-- A place behind the end of its line counts into the next one, and one behind the end of the
script is outside. -/
theorem ofDefinition_shift_outside :
    let front := "-- \u00e9\n/* \u3000 */ ".toList
    let script := "CREATE TABLE a (b INT\n)".toList
    let definition : ColumnDefinition :=
      ⟨⟨"b", none, ⟨1, 25⟩⟩, .exact "DECIMAL" (some 10) (some 2), none, []⟩
    Location.shift front ⟨1, 25⟩ = ⟨2, 33⟩ ∧ definition.name.past.rest? script = none ∧
      ofDefinition (front ++ script) (definition.relocate (Location.shift front)) =
        ofDefinition script definition ∧
      (ofDefinition script definition).type = "DECIMAL(10,2)" := by
  intro front script definition
  have outside : definition.name.past.rest? script = none := by decide
  obtain ⟨same, spelled⟩ := ofDefinition_shift front script definition
  exact ⟨by decide, outside, same, (spelled outside).trans (by decide +kernel)⟩

end Column

end TableCatalog
