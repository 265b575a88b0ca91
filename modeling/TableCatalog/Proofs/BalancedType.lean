import TableCatalog.Catalog
import TableCatalog.Proofs.Nesting
import TableCatalog.Proofs.OneStatement
import TableCatalog.Proofs.Tables

/-!
# Balanced types

The passes of the scan count the brackets of a type, and so the type is balanced where the scan
stops with no bracket open. It stops elsewhere only before a comment, which it looks for inside
brackets as well.
-/

namespace TableCatalog.DeclaredType

variable {c quote : Char} {depth depth' : Nat} {text rest left piece run more : List Char}

section Stopping

/-- What stands behind the type at the head of a text and the blanks that follow it. -/
def behind (text : List Char) : List Char :=
  ((Text.trimStart text).drop (ofText text).length).dropWhile isSpace

/-- Whether a text begins with a comment. -/
def beginsComment : List Char → Bool
  | [] => false
  | c :: rest => opensComment c rest

/-- Whether more brackets of a text are opened than closed. -/
def leavesBracketOpen (text : List Char) : Bool :=
  (unquoted? text).any fun outside => outside.countP isClosing < outside.countP isOpening

theorem Tally.leavesBracketOpen_iff {outside : List Char} (tally : Tally run 0 depth left outside) :
    leavesBracketOpen run = true ↔ depth ≠ 0 := by
  have settled := tally.settled
  simp only [leavesBracketOpen, tally.unquoted?_eq, Option.any_some, decide_eq_true_eq]
  omega

/-- The scan stops at no blank. -/
theorem Stops.dropWhile_eq (stops : Stops depth left) : left.dropWhile isSpace = left := by
  cases stops with
  | ended => rfl
  | closing closes =>
    rcases eq_of_isClosing closes with rfl | rfl | rfl <;> rfl
  | separator ends =>
    rcases eq_of_isSeparator ends with rfl | rfl <;> rfl
  | comment opens =>
    rcases eq_of_opensComment opens with rfl | rfl <;> rfl
  | option part =>
    rw [List.dropWhile_cons_of_neg]
    simp [(kinds_of_isWordPart part).1]

/-- What stands behind the type is where the scan stops. -/
theorem behind_eq {blanks : List Char} (whole : ofText text ++ (blanks ++ left) = Text.trimStart text)
    (spaces : ∀ c ∈ blanks, isSpace c = true) (stops : Stops depth left) : behind text = left := by
  rw [behind, ← whole, List.drop_left, List.dropWhile_append_of_pos spaces]
  exact stops.dropWhile_eq

/-- What is declared at the head of a text stands there behind its blanks. -/
theorem ofText_begins (text : List Char) : ofText text <+: Text.trimStart text := by
  obtain ⟨depth, blanks, left, passes, -, -⟩ := exists_passes_scan 0 (Text.trimStart text)
  exact ⟨_, passes.append_eq⟩

/-- Where nothing is declared at the head of a text, the text is blank or the scan stops in it. -/
theorem trimStart_eq_nil (nothing : ofText text = []) (ended : behind text = []) :
    Text.trimStart text = [] := by
  obtain ⟨depth, blanks, left, passes, spaces, stops⟩ :=
    exists_passes_scan 0 (Text.trimStart text)
  have whole : ofText text ++ (blanks ++ left) = Text.trimStart text := passes.append_eq
  obtain rfl : left = [] := (behind_eq whole spaces stops).symm.trans ended
  rw [nothing, List.nil_append, List.append_nil] at whole
  cases blanks with
  | nil => exact whole.symm
  | cons b blanks =>
    have visible := Text.isBlank_head_trimStart whole.symm
    rcases eq_of_isSpace (spaces b List.mem_cons_self) with rfl | rfl | rfl | rfl <;>
      exact absurd visible (by decide)

/-- With a bracket open the scan stops before a comment, or at the end of the text. -/
theorem Stops.beginsComment (stops : Stops depth left) (inside : depth ≠ 0) (goesOn : left ≠ []) :
    beginsComment left = true := by
  cases stops with
  | comment opens => exact opens
  | ended => exact absurd rfl goesOn
  | closing | separator | option => exact absurd rfl inside

/-- A type before the end of the text is balanced, unless a comment cuts it inside a bracket. -/
theorem balanced_ofText_iff (goesOn : behind text ≠ []) :
    Balanced (ofText text) ↔
      ¬(beginsComment (behind text) = true ∧ leavesBracketOpen (ofText text) = true) := by
  obtain ⟨depth, blanks, left, passes, spaces, stops⟩ :=
    exists_passes_scan 0 (Text.trimStart text)
  rw [behind_eq passes.append_eq spaces stops] at goesOn ⊢
  obtain ⟨outside, tally⟩ := passes.exists_tally
    (passes.closed_of_ne_nil (List.append_ne_nil_of_right_ne_nil _ goesOn))
  have open_iff : leavesBracketOpen (ofText text) = true ↔ depth ≠ 0 := tally.leavesBracketOpen_iff
  rw [open_iff]
  refine tally.balanced_iff.trans ⟨fun closed cut => cut.2 closed, fun uncut => ?_⟩
  by_contra inside
  exact uncut ⟨stops.beginsComment inside goesOn, inside⟩

end Stopping

end TableCatalog.DeclaredType

namespace TableCatalog.Column

variable {script rest : List Char} {definition : ColumnDefinition}

/-- A type that stands in the script is reported as it stands there. -/
theorem type_of_located (located : definition.name.past.rest? script = some rest)
    (taken : DeclaredType.ofText rest ≠ []) :
    (ofDefinition script definition).type = String.ofList (DeclaredType.ofText rest) := by
  cases type : DeclaredType.ofText rest with
  | nil => exact absurd type taken
  | cons c type' => simp [ofDefinition, ofParts, declaredType?, located, type]

/-- The type that is reported: what the script declares, or the spelling where it declares
nothing. -/
theorem type_eq (located : definition.name.past.rest? script = some rest) :
    (ofDefinition script definition).type =
      if DeclaredType.ofText rest = [] then definition.type.render
      else String.ofList (DeclaredType.ofText rest) := by
  by_cases nothing : DeclaredType.ofText rest = []
  · simp [ofDefinition, ofParts, declaredType?, located, nothing]
  · rw [type_of_located located nothing, if_neg nothing]

/-- The type of a column that is taken from the script and ends before it is balanced, unless a
comment cuts it inside a bracket. -/
theorem balanced_type_iff (located : definition.name.past.rest? script = some rest)
    (taken : DeclaredType.ofText rest ≠ []) (early : DeclaredType.behind rest ≠ []) :
    DeclaredType.Balanced (ofDefinition script definition).type.toList ↔
      ¬(DeclaredType.beginsComment (DeclaredType.behind rest) = true ∧
        DeclaredType.leavesBracketOpen (ofDefinition script definition).type.toList = true) := by
  rw [type_of_located located taken, String.toList_ofList]
  exact DeclaredType.balanced_ofText_iff early

/-- A type over several lines, with brackets in quotes and a comment behind its own brackets. -/
theorem balanced_nested_type :
    let script := "CREATE TABLE a (b\n  MAP<VARCHAR(2), ENUM('c)',\n  'd<')> -- e)\n  NOT NULL)".toList
    let definition : ColumnDefinition := ⟨⟨"b", none, ⟨1, 18⟩⟩, .unspecified, none, []⟩
    ∃ rest, definition.name.past.rest? script = some rest ∧
      DeclaredType.ofText rest ≠ [] ∧ DeclaredType.behind rest ≠ [] ∧
        (DeclaredType.Balanced (ofDefinition script definition).type.toList ↔
          ¬(DeclaredType.beginsComment (DeclaredType.behind rest) = true ∧
            DeclaredType.leavesBracketOpen (ofDefinition script definition).type.toList = true)) := by
  intro script definition
  have located : definition.name.past.rest? script =
      some "\n  MAP<VARCHAR(2), ENUM('c)',\n  'd<')> -- e)\n  NOT NULL)".toList := by
    decide +kernel
  have taken : DeclaredType.ofText
      "\n  MAP<VARCHAR(2), ENUM('c)',\n  'd<')> -- e)\n  NOT NULL)".toList ≠ [] := by
    decide +kernel
  have early : DeclaredType.behind
      "\n  MAP<VARCHAR(2), ENUM('c)',\n  'd<')> -- e)\n  NOT NULL)".toList ≠ [] := by
    decide +kernel
  exact ⟨_, located, taken, early, balanced_type_iff located taken early⟩

/-- A comment between the values of an enumeration ends the type inside its bracket. -/
theorem comment_cuts_bracket :
    let script := "CREATE TABLE a (b ENUM('c', -- d\n'e'))"
    ∃ definition others rest, ∃ column ∈ definition.columns,
      Script.ofText Database.mysql.grammar script.toList =
          .ok (.createTable definition :: others) ∧
        column.name.past.rest? script.toList = some rest ∧
        DeclaredType.ofText rest ≠ [] ∧ DeclaredType.behind rest ≠ [] ∧
        (ofDefinition script.toList column).type = "ENUM('c'," ∧
        ¬DeclaredType.Balanced (ofDefinition script.toList column).type.toList := by
  intro script
  have reads : (Script.ofText Database.mysql.grammar script.toList).toOption.any
      (fun statements => (statements.head?.bind Statement.definition?).any fun definition =>
        definition.columns.any fun column => column.name.past == ⟨1, 18⟩) = true := by
    decide +kernel
  obtain ⟨statements, read, shape⟩ := exists_ok_of_any reads
  obtain ⟨definition, defined, shape⟩ := (Option.any_eq_true _ _).1 shape
  obtain ⟨statement, first, defined⟩ := Option.bind_eq_some_iff.1 defined
  obtain rfl := Statement.definition?_eq_some.1 defined
  obtain ⟨others, rfl⟩ := List.head?_eq_some_iff.1 first
  obtain ⟨column, member, place⟩ := List.any_eq_true.1 shape
  have place : column.name.past = ⟨1, 18⟩ := by simpa using place
  have located : column.name.past.rest? script.toList = some " ENUM('c', -- d\n'e'))".toList := by
    rw [place]
    decide +kernel
  have type : DeclaredType.ofText " ENUM('c', -- d\n'e'))".toList = "ENUM('c',".toList := by
    decide +kernel
  have early : DeclaredType.behind " ENUM('c', -- d\n'e'))".toList ≠ [] := by
    decide +kernel
  have taken : DeclaredType.ofText " ENUM('c', -- d\n'e'))".toList ≠ [] := by
    rw [type]
    decide
  have reported : (ofDefinition script.toList column).type = "ENUM('c'," := by
    rw [type_of_located located taken, type]
    rfl
  refine ⟨definition, others, _, column, member, read, located, taken, early, reported, ?_⟩
  rw [reported]
  decide +kernel

end TableCatalog.Column
