import TableCatalog.Proofs.TypeReach

/-!
# Blanks at the ends of a type

A type begins behind all blanks in front of it, whatever blanks they are. At its end the scan
leaves out only the four blanks that it knows: any other blank is text to it, and in quotes that
do not end every blank is.
-/

namespace TableCatalog.DeclaredType

variable {depth depth' : Nat} {text rest piece : List Char}

/-- A blank that the scan does not know. -/
def isForeignBlank (c : Char) : Bool :=
  Text.isBlank c && !isSpace c

section Ends

/-- A pass over more than a blank ends with none, if it is not caught in a quote. -/
theorem Pass.isSpace_getLast (pass : Pass depth text piece depth' rest)
    (solid : piece.all isSpace = false) (closed : (unquoted? piece).isSome = true) :
    ∀ c ∈ piece.getLast?, isSpace c = false := by
  intro c last
  refine Bool.eq_false_iff.2 fun space => ?_
  rw [(pass.getLast?_kinds closed c last).1 space] at solid
  cases solid

/-- What the scan gives ends with none of the blanks that it knows, if no quote is open there. -/
theorem isSpace_getLast_scan (closed : (unquoted? (scan depth text)).isSome = true) :
    ∀ c ∈ (scan depth text).getLast?, isSpace c = false := by
  induction size : text.length using Nat.strongRecOn generalizing depth text with
  | ind _ ih =>
    rcases stops_or_pass depth text with stops | ⟨piece, depth₁, middle, pass⟩
    · simp [stops.scan_eq_nil]
    obtain ⟨_, blanks, left, passes, -, -⟩ := exists_passes_scan depth₁ middle
    have shorter := size ▸ pass.length_lt
    rw [pass.scan_eq, attach] at closed ⊢
    split at closed
    · rename_i nothing
      rw [if_pos nothing]
      simp
    · rename_i filled
      rw [if_neg filled]
      rw [← passes.append_eq] at pass
      obtain ⟨first, later⟩ := pass.closed_of_append closed
      have last := ih _ shorter later rfl
      cases more : scan depth₁ middle with
      | nil =>
        rw [List.append_nil]
        exact pass.isSpace_getLast (by simpa [more] using filled) first
      | cons d run =>
        rw [more] at last
        simpa [List.getLast?_append] using last

/-- In quotes that do not end a type goes on to the end of the text. -/
theorem ofText_of_open (opened : (unquoted? (ofText text)).isSome = false) :
    ofText text = Text.trimStart text := by
  obtain ⟨depth, blanks, left, passes, -, -⟩ := exists_passes_scan 0 (Text.trimStart text)
  have nothing : blanks ++ left = [] := by
    by_contra goesOn
    have closed : (unquoted? (ofText text)).isSome = true := passes.closed_of_ne_nil goesOn
    exact absurd closed (by simp [opened])
  have whole : ofText text ++ (blanks ++ left) = Text.trimStart text := passes.append_eq
  rwa [nothing, List.append_nil] at whole

/-- No blank of any kind begins a type. -/
theorem isBlank_head_ofText (text : List Char) :
    ∀ c ∈ (ofText text).head?, Text.isBlank c = false := by
  intro c first
  obtain ⟨run, shape⟩ := List.head?_eq_some_iff.1 first
  obtain ⟨more, begins⟩ := ofText_begins text
  rw [shape] at begins
  exact Text.isBlank_head_trimStart begins.symm

end Ends

end TableCatalog.DeclaredType

namespace TableCatalog.Column

open DeclaredType

variable {script rest : List Char} {definition : ColumnDefinition}

/-- A type that is taken from a script does not begin with a blank. It does not end with one
exactly if it ends with none that the scan does not know or, in quotes that do not end, if the
script does not. -/
theorem type_trimmed_iff (located : definition.name.past.rest? script = some rest)
    (taken : ofText rest ≠ []) :
    let type := (ofDefinition script definition).type.toList
    (∀ c ∈ type.head?, Text.isBlank c = false) ∧
      ((∀ c ∈ type.getLast?, Text.isBlank c = false) ↔
        if (unquoted? type).isSome then ∀ c ∈ type.getLast?, isForeignBlank c = false
        else ∀ c ∈ script.getLast?, Text.isBlank c = false) := by
  intro type
  have shown : type = ofText rest := by
    simp only [type, type_of_located located taken, String.toList_ofList]
  rw [shown]
  refine ⟨isBlank_head_ofText rest, ?_⟩
  split
  · rename_i closed
    have known := isSpace_getLast_scan closed
    refine forall₂_congr fun c last => ?_
    simp [isForeignBlank, known c last]
  · rename_i opened
    have whole := ofText_of_open (Bool.not_eq_true _ ▸ opened)
    have suffix : ofText rest <:+ script := by
      rw [whole]
      exact (Text.trimStart_suffix rest).trans (Location.rest?_suffix located)
    obtain ⟨front, ends⟩ := suffix
    rw [← ends, List.getLast?_append_of_ne_nil _ taken]

/-- A type with a blank inside that the scan does not know, between blanks of several kinds. -/
theorem type_trimmed_iff_enum :
    let script := "CREATE TABLE a (b\u3000\n ENUM('c ')\u000b[2] \t, d INT)".toList
    let definition : ColumnDefinition := ⟨⟨"b", none, ⟨1, 18⟩⟩, .unspecified, none, []⟩
    let rest := "\u3000\n ENUM('c ')\u000b[2] \t, d INT)".toList
    let type := (ofDefinition script definition).type.toList
    definition.name.past.rest? script = some rest ∧ ofText rest ≠ [] ∧
      (∀ c ∈ type.head?, Text.isBlank c = false) ∧
      ((∀ c ∈ type.getLast?, Text.isBlank c = false) ↔
        if (unquoted? type).isSome then ∀ c ∈ type.getLast?, isForeignBlank c = false
        else ∀ c ∈ script.getLast?, Text.isBlank c = false) := by
  intro script definition rest
  have located : definition.name.past.rest? script = some rest := by decide +kernel
  have taken : ofText rest ≠ [] := by decide +kernel
  exact ⟨located, taken, type_trimmed_iff located taken⟩

/-- A blank behind a type is reported as a part of it if the scan does not know it. -/
theorem type_keeps_blank :
    let script := "CREATE TABLE a (b INT\u3000)"
    let definition : ColumnDefinition := ⟨⟨"b", none, ⟨1, 18⟩⟩, .unspecified, none, []⟩
    (Catalog.firstTable script .hive).map (·.columns.map (·.type)) = .ok ["INT\u3000"] ∧
      definition.name.past.rest? script.toList = some " INT\u3000)".toList ∧
      ofText " INT\u3000)".toList ≠ [] ∧
      (ofDefinition script.toList definition).type = "INT\u3000" ∧
      ¬∀ c ∈ (ofDefinition script.toList definition).type.toList.getLast?,
        Text.isBlank c = false := by
  decide +kernel

end TableCatalog.Column
