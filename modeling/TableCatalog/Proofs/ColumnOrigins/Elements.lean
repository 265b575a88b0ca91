import TableCatalog.Proofs.ColumnOrigins.Gives
import TableCatalog.Proofs.DeclaredColumns

/-!
# The columns of a definition

A column among the elements of a table has been read from the tokens of the input, and a
separator or the parenthesis that closes the list follows it, in every way that a table may be
defined.
-/

namespace TableCatalog

namespace ColumnDefinition

open ParserInput (SameTokens)

variable {inner : Phrases} {source input : ParserInput} {start finish : ParserState}
  {column : ColumnDefinition}

/-- That a column is read from the tokens of an input, a token following its type. -/
def ReadFrom (source : ParserInput) (column : ColumnDefinition) : Prop :=
  ∃ input position found, SameTokens input source ∧ ReadIn input column position ∧
    input.lexemes[position]? = some found

/-- What is seen next stands in the input. -/
theorem exists_lexeme_of_ahead {position : Nat} {lexeme : Lexeme}
    (seen : input.ahead? 0 position = some lexeme) :
    ∃ found, input.lexemes[position]? = some found := by
  rw [ParserInput.ahead?] at seen
  split at seen
  · cases seen
  · obtain ⟨found, follows, -⟩ := Option.map_eq_some_iff.1 seen
    exact ⟨found, follows⟩

/-- A column that a separator or a closing parenthesis follows is read from the tokens. -/
theorem readFrom_of_run (same : SameTokens input source)
    (read : (parser inner).run input start = .done column finish)
    (ends : (input.ahead? 0 finish.position).any (fun found =>
      found.placed.token == .comma || found.placed.token == .closeParen) = true) :
    ReadFrom source column := by
  have whole := read
  rw [parser_eq] at whole
  obtain ⟨name, named, nameRead, whole⟩ := Parser.bind_eq_done.1 whole
  obtain ⟨type, middle, typeRead, -⟩ := Parser.bind_eq_done.1 whole
  have goesOn : ∃ lexeme, input.ahead? 0 middle.position = some lexeme := by
    by_cases last : finish.position = middle.position
    · obtain ⟨lexeme, seen, -⟩ := (Option.any_eq_true _ _).1 ends
      exact ⟨lexeme, last ▸ seen⟩
    · have listed := mem_optionKeys inner nameRead typeRead read last
      cases seen : input.ahead? 0 middle.position with
      | none =>
        exact absurd (by simpa [Parser.keyAt, seen] using listed)
          (empty_not_mem_optionKeys input.grammar)
      | some lexeme => exact ⟨lexeme, rfl⟩
  obtain ⟨lexeme, seen⟩ := goesOn
  obtain ⟨found, follows⟩ := exists_lexeme_of_ahead seen
  exact ⟨input, middle.position, found, same, .intro nameRead typeRead read ends, follows⟩

end ColumnDefinition

namespace TableDefinition

open ColumnDefinition (ReadFrom)
open TableCatalog.Parser (Gives)

variable {inner : Phrases} {source input : ParserInput} {start after : ParserState}

/-- An element is a column that has been read, or no column. -/
theorem column_of_element {elements : Elements}
    (read : (elementsOf.element inner).run input start = .done elements after) :
    elements.columns = [] ∨ ∃ column start,
      elements.columns = [column] ∧
        (ColumnDefinition.parser inner).run input start = .done column after := by
  obtain ⟨constraint, middle, -, read⟩ := Parser.bind_eq_done.1 read
  cases constraint with
  | some constraint =>
    obtain ⟨rfl, -⟩ := Parsed.done.inj read
    exact .inl rfl
  | none =>
    obtain ⟨token, place, -, read⟩ := Parser.bind_eq_done.1 read
    split at read
    · obtain ⟨column, finish, column', read⟩ := Parser.bind_eq_done.1 read
      obtain ⟨rfl, rfl⟩ := Parsed.done.inj read
      exact .inr ⟨column, place, rfl, column'⟩
    · cases read

/-- The column of an element that a separator or a closing parenthesis follows is read from the
tokens. -/
theorem readFrom_of_element {elements : Elements} (same : ParserInput.SameTokens input source)
    (read : (elementsOf.element inner).run input start = .done elements after)
    (ends : (input.ahead? 0 after.position).any (fun found =>
      found.placed.token == .comma || found.placed.token == .closeParen) = true) :
    ∀ column ∈ elements.columns, ReadFrom source column := by
  intro column inside
  rcases column_of_element read with nothing | ⟨single, place, only, columnRead⟩
  · simp [nothing] at inside
  · obtain rfl : column = single := by simpa [only] using inside
    exact ColumnDefinition.readFrom_of_run same columnRead ends

/-- A separator or the closing parenthesis follows each of the elements. -/
theorem gives_elementsOf (fuel : Nat) :
    Gives source (fun elements : Elements => ∀ column ∈ elements.columns, ReadFrom source column)
      (elementsOf inner fuel) := by
  induction fuel with
  | zero => exact .pure (by simp)
  | succ fuel ih =>
    intro input same start elements after read
    rw [elementsOf] at read
    obtain ⟨first, middle, firstRead, read⟩ := Parser.bind_eq_done.1 read
    obtain ⟨comma, behind, commaRead, read⟩ := Parser.bind_eq_done.1 read
    obtain ⟨closes, finish, closesRead, read⟩ := Parser.bind_eq_done.1 read
    split at read
    · cases read
    · rename_i marks
      have either : comma = true ∨ closes = true := by
        cases comma <;> cases closes <;> simp at marks ⊢
      have here := readFrom_of_element same firstRead
        (Parser.ahead_of_marks commaRead closesRead either)
      obtain ⟨grammar, place, -, read⟩ := Parser.bind_eq_done.1 read
      split at read
      · obtain ⟨-, place', -, read⟩ := Parser.bind_eq_done.1 read
        obtain ⟨rfl, -⟩ := Parsed.done.inj read
        exact here
      · obtain ⟨rest, place', restRead, read⟩ := Parser.bind_eq_done.1 read
        obtain ⟨rfl, -⟩ := Parsed.done.inj read
        intro column inside
        rcases List.mem_append.1 inside with inside | inside
        · exact here column inside
        · exact ih input same place rest place' restRead column inside

/-- That all columns of what has been read are read from the tokens of an input. -/
def ColumnsFrom (source : ParserInput) (definition : TableDefinition) : Prop :=
  ∀ column ∈ definition.columns, ReadFrom source column

/-- The columns among the elements of a table are read from the source. -/
theorem gives_elements :
    Gives source (fun elements : Elements => ∀ column ∈ elements.columns, ReadFrom source column)
      (elements inner) := by
  unfold elements
  refine .behind fun opens => ?_
  split
  · refine .behind fun closes => ?_
    split
    · exact .pure (by simp)
    · exact .behind fun fuel => gives_elementsOf fuel
  · exact .pure (by simp)

/-- So are the columns of a table in most grammars. -/
theorem gives_general (head : String) : Gives source (ColumnsFrom source) (general inner head) := by
  unfold general
  repeat with_reducible first
    | refine gives_elements.bind fun elements read => ?_
    | refine .behind fun _ => ?_
  exact .pure read

/-- So are those of an external table. -/
theorem gives_external (head : String) : Gives source (ColumnsFrom source) (external inner head) := by
  unfold external
  repeat with_reducible first
    | refine gives_elements.bind fun elements read => ?_
    | refine .behind fun _ => ?_
  exact .pure read

/-- Clauses of a Snowflake table leave its columns as they are. -/
theorem gives_snowflakeParts (fuel : Nat) (parts : SnowflakeParts)
    (read : ∀ column ∈ parts.elements.columns, ReadFrom source column) :
    Gives source (fun parts : SnowflakeParts => ∀ column ∈ parts.elements.columns,
      ReadFrom source column) (snowflakeParts inner fuel parts) := by
  induction fuel generalizing parts with
  | zero => exact .pure read
  | succ fuel ih =>
    unfold snowflakeParts
    refine .behind fun token => ?_
    split
    · split
      · exact .fail
      · exact .behind fun _ => .pure read
    · exact .behind fun _ => gives_elements.bind fun elements read => ih _ read
    · exact .behind fun query => .pure read
    · exact .behind fun name => .pure read
    · exact .behind fun name => .pure read
    · refine .behind fun clauses => ?_
      split
      · exact ih _ read
      · exact .expectedAt
    · exact .expectedAt

/-- So are those of a table in Snowflake. -/
theorem gives_snowflake (head : String) : Gives source (ColumnsFrom source) (snowflake inner head) := by
  unfold snowflake
  iterate 3 refine .behind fun _ => ?_
  exact (gives_snowflakeParts _ _ (by simp)).bind fun parts read => .pure read

end TableDefinition

end TableCatalog
