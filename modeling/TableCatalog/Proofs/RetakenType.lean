import TableCatalog.Proofs.DelimitedType
import TableCatalog.Proofs.TrimmedType

/-!
# Types that are scanned again

What the scan takes from a text is all that it takes from it again: cut off behind the type, the
text shows every pass what it showed before, so that brackets, quotes and words end where they
did. This holds wherever the scan has stopped, also at a comment inside brackets or at the end of
the text inside quotes.
-/

namespace TableCatalog.DeclaredType

/-- No blank stands in front of a type. -/
theorem trimStart_ofText (text : List Char) : Text.trimStart (ofText text) = ofText text := by
  cases type : ofText text with
  | nil => rfl
  | cons c rest => exact trimStart_of_visible (isBlank_head_ofText text c (by simp [type])) rest

/-- The scan takes all of a type. -/
theorem ofText_ofText (text : List Char) : ofText (ofText text) = ofText text := by
  cases closed : (unquoted? (ofText text)).isSome with
  | true =>
    obtain ⟨depth, blanks, left, passes, -, -⟩ := exists_passes_scan 0 (Text.trimStart text)
    have alone : Passes 0 (ofText text) (ofText text) depth [] := by
      have whole : Passes 0 (Text.trimStart text) (ofText text) depth ([] ++ (blanks ++ left)) :=
        passes
      simpa only [List.append_nil] using whole.cut
    calc
      ofText (ofText text) = scan 0 (ofText text) := by rw [ofText, trimStart_ofText]
      _ = ofText text := alone.scan_eq Stops.ended.scan_eq_nil (isSpace_getLast_scan closed)
  | false =>
    -- in quotes that do not end the type is all of the text, and so the text is scanned anew
    calc
      ofText (ofText text) = scan 0 (ofText text) := by rw [ofText, trimStart_ofText]
      _ = scan 0 (Text.trimStart text) := by rw [ofText_of_open closed]
      _ = ofText text := rfl

end TableCatalog.DeclaredType

namespace TableCatalog.Column

open DeclaredType

variable {script : List Char} {place : Location} {type : String} {definition : ColumnDefinition}

/-- A declared type is what the scan takes from the text behind the name, if it takes anything. -/
theorem declaredType?_eq_some_iff : declaredType? script place = some type ↔
    ∃ rest, place.rest? script = some rest ∧ ofText rest = type.toList ∧ type.toList ≠ [] := by
  unfold declaredType?
  cases place.rest? script with
  | none => simp
  | some rest =>
    simp only [Option.some.injEq, exists_eq_left']
    cases taken : ofText rest with
    | nil =>
      simp only [reduceCtorEq, false_iff, not_and, not_not]
      exact Eq.symm
    | cons c more =>
      rw [Option.some.injEq]
      constructor
      · rintro rfl
        simp
      · rintro ⟨same, -⟩
        rw [same, String.ofList_toList]

/-- A type that is taken from a script is declared by itself alone. -/
theorem declaredType?_start (taken : declaredType? script place = some type) :
    declaredType? type.toList Location.start = some type := by
  obtain ⟨rest, -, same, filled⟩ := declaredType?_eq_some_iff.1 taken
  refine declaredType?_eq_some_iff.2 ⟨type.toList, Location.rest?_after [] type.toList, ?_, filled⟩
  rw [← same, ofText_ofText]

/-- A column whose type is taken from a script is reported alike where the type is all of the
script and the name ends in front of it. -/
theorem ofDefinition_retaken (taken : declaredType? script definition.name.past = some type) :
    let again := ofDefinition type.toList (definition.relocate fun _ => Location.start)
    again.type = type ∧ again = ofDefinition script definition := by
  intro again
  have retaken : declaredType? type.toList Location.start = some type := declaredType?_start taken
  have same : again = ofDefinition script definition := by
    simp only [again, ofDefinition, ofParts, ColumnDefinition.relocate, Identifier.relocate,
      retaken, taken]
    rfl
  exact ⟨by simp [same, ofDefinition, ofParts, taken], same⟩

/-- A type that a comment cuts inside its brackets, and one in a quote that does not end, with a
comment and blanks in the quote. -/
theorem ofDefinition_retaken_open :
    let definition : ColumnDefinition :=
      ⟨⟨"b", some '"', ⟨2, 4⟩⟩, .unspecified, none, [⟨none, .comment "c"⟩]⟩
    let alone := definition.relocate fun _ => Location.start
    let cut := "CREATE TABLE a (\n\"b\"\u00a0map<'it''s', CHARACTER -- d>\nSET NOT NULL)".toList
    let quoting := "CREATE TABLE a (\n\"b\"\tENUM('c', \"d -- \n NOT NULL) \u3000 ".toList
    let type := "map<'it''s', CHARACTER"
    let rest := "ENUM('c', \"d -- \n NOT NULL) \u3000 "
    (declaredType? cut definition.name.past = some type ∧
        (ofDefinition type.toList alone).type = type ∧
        ofDefinition type.toList alone = ofDefinition cut definition) ∧
      declaredType? quoting definition.name.past = some rest ∧
        (ofDefinition rest.toList alone).type = rest ∧
        ofDefinition rest.toList alone = ofDefinition quoting definition := by
  intro definition alone cut quoting type rest
  have first : declaredType? cut definition.name.past = some type := by decide +kernel
  have second : declaredType? quoting definition.name.past = some rest := by decide +kernel
  exact ⟨⟨first, ofDefinition_retaken first⟩, second, ofDefinition_retaken second⟩

end TableCatalog.Column
