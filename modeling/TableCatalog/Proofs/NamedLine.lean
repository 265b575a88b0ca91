import TableCatalog.Catalog
import TableCatalog.Proofs.Fault
import TableCatalog.Proofs.LineMark

/-!
# The line of a malformed text

A malformed text is told of with the first number that its message shows behind the label of a
line. Where the message ends with a place, that is the line of the place unless what stands before
the place, the spelling of a token for one, shows a number in the same way.
-/

namespace TableCatalog

namespace Text

/-- A text that shows a digit behind the label of a line, with nothing but blanks between them. -/
def ShowsLine (text : List Char) : Prop :=
  ∃ front blanks digit back, text = front ++ (lineLabel ++ (blanks ++ digit :: back)) ∧
    (∀ c ∈ blanks, isBlank c = true) ∧ isDecimal digit = true

variable {text : List Char}

/-- A label at the head of a text gives digits exactly if blanks alone stand before a digit. -/
theorem digitsAfterLabel_ne_nil_iff : digitsAfterLabel text ≠ [] ↔
    ∃ blanks digit back, text = lineLabel ++ (blanks ++ digit :: back) ∧
      (∀ c ∈ blanks, isBlank c = true) ∧ isDecimal digit = true := by
  constructor
  · intro filled
    obtain ⟨behind, rfl⟩ := exists_label filled
    rw [digitsAfterLabel_label, trimStart] at filled
    cases shape : behind.dropWhile isBlank with
    | nil => simp [shape] at filled
    | cons digit back =>
      refine ⟨behind.takeWhile isBlank, digit, back, ?_, fun c => List.mem_takeWhile_imp, ?_⟩
      · rw [← shape, List.takeWhile_append_dropWhile]
      · by_contra other
        simp [shape, other] at filled
  · rintro ⟨blanks, digit, back, rfl, blank, decimal⟩
    have visible : isBlank digit = false := by
      by_contra white
      simp [Lexer.isDecimal_blank (by simpa using white)] at decimal
    have trimmed : trimStart (blanks ++ digit :: back) = digit :: back := by
      rw [trimStart, List.dropWhile_append_of_pos blank, List.dropWhile_cons_of_neg (by simp [visible])]
    rw [digitsAfterLabel_label, trimmed]
    simp [decimal]

/-- Digits are marked in a text exactly if it shows a line. -/
theorem markedDigits_ne_nil_iff (text : List Char) : markedDigits text ≠ [] ↔ ShowsLine text := by
  induction text with
  | nil => simp [markedDigits, ShowsLine, lineLabel]
  | cons c text ih =>
    have either : markedDigits (c :: text) ≠ [] ↔
        digitsAfterLabel (c :: text) ≠ [] ∨ markedDigits text ≠ [] := by
      rw [markedDigits]
      cases digitsAfterLabel (c :: text) <;> simp
    rw [either, digitsAfterLabel_ne_nil_iff, ih]
    constructor
    · rintro (⟨blanks, digit, back, shape, marks⟩ | ⟨front, blanks, digit, back, rfl, marks⟩)
      · exact ⟨[], blanks, digit, back, shape, marks⟩
      · exact ⟨c :: front, blanks, digit, back, rfl, marks⟩
    · rintro ⟨_ | ⟨d, front⟩, blanks, digit, back, shape, marks⟩
      · exact .inl ⟨blanks, digit, back, shape, marks⟩
      · exact .inr ⟨front, blanks, digit, back, (List.cons.inj shape).2, marks⟩

end Text

namespace Catalog

variable {script front message : String} {database : Database} {line told column : Nat}

/-- The error that a malformed text is told of with. -/
theorem exists_error_of_malformed
    (failed : firstTable script database = .error (.malformed line message)) :
    ∃ error : ParseError, Script.ofText database.grammar script.toList = .error error ∧
      message = error.message ∧ line = (Text.markedLine? message.toList).getD 1 := by
  unfold firstTable at failed
  split at failed
  · cases failed
  split at failed
  case h_1 error rejected =>
    obtain ⟨rfl, rfl⟩ := Failure.malformed.inj (Except.error.inj failed)
    exact ⟨error, rejected, rfl, rfl⟩
  case h_2 => cases failed
  case h_3 statement _ _ =>
    unfold Table.ofStatement at failed
    cases statement <;> cases failed

/-- A malformed text of which the message ends with a place is told of with the line of that place
exactly if what stands before the place shows no line, or that same one. -/
theorem firstTable_line_iff
    (failed : firstTable script database = .error (.malformed line message))
    (ends : message = front ++ s!" at Line: {told}, Column: {column}")
    (fits : told < UInt64.size) :
    line = told ↔
      (Text.ShowsLine front.toList → (Text.markedLine? front.toList).getD 1 = told) := by
  obtain ⟨error, -, -, rfl⟩ := exists_error_of_malformed failed
  rw [ends, String.toList_append, Text.markedLine?_told, ← Text.markedDigits_ne_nil_iff]
  by_cases unmarked : Text.markedDigits front.toList = []
  · simp [unmarked, fits]
  · simp [unmarked]

/-- A constant that shows a label without a number, on the second line of a text. -/
theorem firstTable_line_iff_labelled :
    let script := "CREATE TABLE a (\nb INT 'Line: c')"
    let front := "sql parser error: Expected: ',' or ')' after column definition, found: 'Line: c'"
    ∃ line message, firstTable script .generic = .error (.malformed line message) ∧
      message = front ++ s!" at Line: {2}, Column: {7}" ∧ 2 < UInt64.size ∧
      ¬Text.ShowsLine front.toList ∧
      (line = 2 ↔
        (Text.ShowsLine front.toList → (Text.markedLine? front.toList).getD 1 = 2)) := by
  intro script front
  have failed : firstTable script .generic =
      .error (.malformed 2 (front ++ s!" at Line: {2}, Column: {7}")) := by
    decide +kernel
  have unmarked : Text.markedDigits front.toList = [] := by decide +kernel
  have silent : ¬Text.ShowsLine front.toList := by
    rwa [← Text.markedDigits_ne_nil_iff, not_not]
  exact ⟨2, _, failed, rfl, by decide, silent, firstTable_line_iff failed rfl (by decide)⟩

/-- A constant that shows a number behind the label of a line is told of with that number. -/
theorem line_of_token :
    let script := "CREATE TABLE a (b INT 'Line: 9')"
    let front := "sql parser error: Expected: ',' or ')' after column definition, found: 'Line: 9'"
    firstTable script .generic =
      .error (.malformed 9 (front ++ s!" at Line: {1}, Column: {23}")) := by
  decide +kernel

end Catalog

end TableCatalog
