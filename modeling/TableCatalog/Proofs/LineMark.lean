import Mathlib.Data.List.Basic
import TableCatalog.Failure

/-!
# The line of a failure

A message that tells of a place ends with it. Where nothing before that looks like a line that
is told, the line of the place is the one that the failure names.
-/

namespace TableCatalog

namespace Text

variable {text : List Char}

/-- A label at the head of a text gives the digits behind it. -/
theorem digitsAfterLabel_label (behind : List Char) :
    digitsAfterLabel (lineLabel ++ behind) = (trimStart behind).takeWhile isDecimal := by
  simp [digitsAfterLabel]

/-- Nothing else gives digits. -/
theorem exists_label (marked : digitsAfterLabel text ≠ []) :
    ∃ behind, text = lineLabel ++ behind := by
  by_contra open'
  have unlabelled : ¬lineLabel <+: text := fun ⟨behind, shape⟩ => open' ⟨behind, shape.symm⟩
  exact marked (by simp [digitsAfterLabel, unlabelled])

/-- What follows a text when a message goes on with a place completes no label and gives no
digits to one. -/
theorem digitsAfterLabel_append (unmarked : digitsAfterLabel text = []) (more : List Char) :
    digitsAfterLabel (text ++ ' ' :: 'a' :: more) = [] := by
  by_cases labelled : lineLabel <+: text
  · obtain ⟨behind, rfl⟩ := labelled
    have digits : (trimStart behind).takeWhile isDecimal = [] := by
      rwa [digitsAfterLabel_label] at unmarked
    have later : (trimStart (behind ++ ' ' :: 'a' :: more)).takeWhile isDecimal = [] := by
      unfold trimStart at digits ⊢
      rw [List.dropWhile_append]
      cases shape : behind.dropWhile isBlank with
      | nil => rfl
      | cons c kept =>
        rw [shape] at digits
        have other : isDecimal c = false := by
          simpa [List.takeWhile_cons] using digits
        simp [other]
    rwa [List.append_assoc, digitsAfterLabel_label]
  · have open' : ¬lineLabel <+: text ++ ' ' :: 'a' :: more := by
      intro standing
      rcases List.prefix_or_prefix_of_prefix standing (List.prefix_append text _) with
        labelled' | ⟨missing, whole⟩
      · exact labelled labelled'
      -- The label would have to go on with the blank that follows the text.
      · cases missing with
        | nil => exact labelled ⟨[], by simpa using whole.symm⟩
        | cons c missing =>
          have completes : c :: missing <+: ' ' :: 'a' :: more := by
            rwa [← whole, List.prefix_append_right_inj] at standing
          obtain rfl : c = ' ' := (List.cons_prefix_cons.1 completes).1
          have inside : ' ' ∈ lineLabel := whole ▸ by simp
          exact absurd inside (by decide)
    simp [digitsAfterLabel, open']

/-- Digits that a label has are not prolonged by what follows when a message goes on. -/
theorem digitsAfterLabel_append_of_ne_nil (marked : digitsAfterLabel text ≠ []) (more : List Char) :
    digitsAfterLabel (text ++ ' ' :: more) = digitsAfterLabel text := by
  obtain ⟨behind, rfl⟩ := exists_label marked
  have here := digitsAfterLabel_label behind
  have later := digitsAfterLabel_label (behind ++ ' ' :: more)
  rw [← List.append_assoc] at later
  have visible : trimStart behind ≠ [] := by
    intro blank
    exact marked (by rw [here, blank, List.takeWhile_nil])
  have kept : trimStart (behind ++ ' ' :: more) = trimStart behind ++ ' ' :: more := by
    unfold trimStart at visible ⊢
    rw [List.dropWhile_append, if_neg (by simpa using visible)]
  rw [later, kept, here, List.takeWhile_append]
  split
  case isTrue whole =>
    rw [(List.takeWhile_prefix isDecimal).eq_of_length whole]
    simp [show isDecimal ' ' = false from rfl]
  case isFalse => rfl

/-- When a message goes on with a place, the line that is marked in it is the one marked before
that, or else the one of the place. -/
theorem markedDigits_append (text more : List Char) :
    markedDigits (text ++ ' ' :: 'a' :: more) =
      if markedDigits text = [] then markedDigits (' ' :: 'a' :: more) else markedDigits text := by
  induction text with
  | nil => rfl
  | cons c text ih =>
    rw [List.cons_append, markedDigits, markedDigits, ← List.cons_append]
    cases here : digitsAfterLabel (c :: text) with
    | nil =>
      rw [digitsAfterLabel_append here]
      exact ih
    | cons d digits =>
      rw [digitsAfterLabel_append_of_ne_nil (by simp [here]), here]
      simp

/-- A number that is written in decimal digits is read back if it fits. -/
theorem lineNumber?_toDigits (line : Nat) :
    lineNumber? (Nat.toDigits 10 line) = if line < UInt64.size then some line else none := by
  have filled : (Nat.toDigits 10 line).isEmpty = false := by
    simp [List.isEmpty_eq_false_iff, Nat.toDigits_ne_nil]
  have digits : (Nat.toDigits 10 line).all Char.isDigit = true :=
    List.all_eq_true.2 fun c member => Nat.isDigit_of_mem_toDigits (by decide) (by decide) member
  have value : decimalValue (Nat.toDigits 10 line) = line := by
    have read : Nat.ofDigitChars 10 (Nat.toDigits 10 line) 0 = line :=
      Nat.ofDigitChars_ten_toDigits
    simpa [decimalValue, Nat.ofDigitChars, Nat.mul_comm] using read
  simp [lineNumber?, filled, digits, value]

theorem isDecimal_of_isDigit {c : Char} (digit : c.isDigit = true) :
    isDecimal c = true ∧ isBlank c = false := by
  have bounds : 48 ≤ c.toNat ∧ c.toNat ≤ 57 := by
    simpa [Char.isDigit, UInt32.le_iff_toNat_le] using digit
  constructor
  · rw [isDecimal, if_pos (by omega)]
    exact digit
  · simp [isBlank]
    omega

/-- Digits behind a label end where another character stands. -/
theorem digitsAfterLabel_digits {digits : List Char} (filled : digits ≠ [])
    (all : ∀ c ∈ digits, c.isDigit = true) {stop : Char} (other : isDecimal stop = false)
    (more : List Char) :
    digitsAfterLabel (lineLabel ++ ' ' :: (digits ++ stop :: more)) = digits := by
  obtain ⟨first, others, rfl⟩ := List.exists_cons_of_ne_nil filled
  have decimal : ∀ c ∈ first :: others, isDecimal c = true :=
    fun c member => (isDecimal_of_isDigit (all c member)).1
  have visible := (isDecimal_of_isDigit (all first List.mem_cons_self)).2
  have trimmed : trimStart (' ' :: (first :: others ++ stop :: more)) =
      first :: others ++ stop :: more := by
    simp [trimStart, visible, show isBlank ' ' = true from rfl]
  rw [digitsAfterLabel_label, trimmed, List.takeWhile_append_of_pos decimal]
  simp [other]

/-- A label at the head of a text is the leftmost one. -/
theorem markedDigits_of_label {digits : List Char} (labelled : digitsAfterLabel text = digits)
    (filled : digits ≠ []) : markedDigits text = digits := by
  cases text with
  | nil => exact absurd labelled.symm filled
  | cons c rest =>
    rw [markedDigits, labelled]
    cases digits with
    | nil => exact absurd rfl filled
    | cons d digits => rfl

/-- What does not begin with the first letter of a label is passed over. -/
theorem markedDigits_cons {c : Char} (other : c ≠ 'L') (rest : List Char) :
    markedDigits (c :: rest) = markedDigits rest := by
  have unlabelled : ¬lineLabel <+: c :: rest := fun standing =>
    other (List.cons_prefix_cons.1 standing).1.symm
  simp [markedDigits, digitsAfterLabel, unlabelled]

/-- The words that tell a place name its line. -/
theorem exists_told (line column : Nat) :
    ∃ more, (s!" at Line: {line}, Column: {column}").toList = ' ' :: 'a' :: more ∧
      markedDigits (' ' :: 'a' :: more) = Nat.toDigits 10 line := by
  have shape : (s!" at Line: {line}, Column: {column}").toList = ' ' :: 'a' :: 't' :: ' ' ::
      (lineLabel ++ ' ' :: (Nat.toDigits 10 line ++ ',' :: (" Column: ".toList ++
        Nat.toDigits 10 column))) := by
    simp [lineLabel]
    rfl
  have filled : Nat.toDigits 10 line ≠ [] := Nat.toDigits_ne_nil
  have found := digitsAfterLabel_digits filled
    (fun c member => Nat.isDigit_of_mem_toDigits (by decide) (by decide) member)
    (show isDecimal ',' = false from rfl) (" Column: ".toList ++ Nat.toDigits 10 column)
  refine ⟨_, shape, ?_⟩
  rw [markedDigits_cons (by decide), markedDigits_cons (by decide), markedDigits_cons (by decide),
    markedDigits_cons (by decide)]
  exact markedDigits_of_label found filled

/-- A text that ends with a place names the line that is marked before that; where none is marked
there, it names the one of the place, if that fits. -/
theorem markedLine?_told (text : List Char) (line column : Nat) :
    markedLine? (text ++ (s!" at Line: {line}, Column: {column}").toList) =
      if markedDigits text = [] then (if line < UInt64.size then some line else none)
      else markedLine? text := by
  obtain ⟨more, ending, digits⟩ := exists_told line column
  rw [markedLine?, markedLine?, ending, markedDigits_append, digits]
  split
  · exact lineNumber?_toDigits line
  · rfl

end Text

/-- Whether the line that a message names is that of the place at its end: nothing before that
looks like a line, there is a place, and its line fits. -/
def ParseError.TellsLine (error : ParseError) : Prop :=
  Text.markedDigits error.wording.toList = [] ∧ error.place.line ≠ 0 ∧
    error.place.line < UInt64.size

instance (error : ParseError) : Decidable error.TellsLine :=
  inferInstanceAs (Decidable (_ ∧ _))

namespace Failure

/-- The line that a failure names is that of the place of the error, if the message tells it, and
else whatever number the wording marks, or the first line. -/
theorem ofError_eq (error : ParseError) :
    ofError error = malformed (if error.TellsLine then error.place.line
      else (Text.markedLine? error.wording.toList).getD 1) error.message := by
  by_cases told : error.place.line = 0
  · have same : error.message = error.wording := by
      simp [ParseError.message, Location.ending, told]
    simp [ofError, same, ParseError.TellsLine, told]
  · have whole : error.message.toList = error.wording.toList ++
        (s!" at Line: {error.place.line}, Column: {error.place.column}").toList := by
      rw [ParseError.message, String.toList_append, Location.ending, if_neg told]
    rw [ofError, whole, Text.markedLine?_told]
    by_cases unmarked : Text.markedDigits error.wording.toList = []
    · by_cases fits : error.place.line < UInt64.size <;>
        simp [ParseError.TellsLine, unmarked, told, fits, Text.markedLine?, Text.lineNumber?]
    · simp [ParseError.TellsLine, unmarked]

end Failure

end TableCatalog
