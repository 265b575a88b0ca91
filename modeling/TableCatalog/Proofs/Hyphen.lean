import TableCatalog.Proofs.Lexing
import TableCatalog.Proofs.Place

/-!
# Hyphens

Of all that begins a token only the operators give a hyphen, and no operator has a line feed in
it. So a hyphen ends on the line on which it begins.
-/

namespace TableCatalog.Lexer

variable {grammar : Grammar} {cursor after : Cursor} {text : String} {plain long : StringStyle}
  {close c : Char} {escapes : Bool} {rest : List Char}

/-- A text constant is no symbol. -/
theorem stringConstant_ne_symbol {opening : Location} :
    stringConstant plain close escapes opening cursor ≠ .ok (.symbol text, after) := by
  simp [stringConstant, closed_eq_ok]

/-- A constant between three marks is no symbol, nor is an empty one between two. -/
theorem tripleConstant_ne_symbol :
    tripleConstant plain long close escapes cursor ≠ .ok (.symbol text, after) := by
  unfold tripleConstant
  split <;> simp [closed_eq_ok]

theorem constant_ne_symbol :
    constant grammar plain long close escapes cursor ≠ .ok (.symbol text, after) := by
  unfold constant
  split
  · exact tripleConstant_ne_symbol
  · exact stringConstant_ne_symbol

/-- What stands between quotes for words is a word, whatever it spells. -/
theorem quotedWord_ne_symbol : quotedWord c cursor ≠ .ok (.symbol text, after) := by
  simp [quotedWord, closed_eq_ok]

/-- What stands in brackets and quotes is a word or a fault. -/
theorem nestedWord_ne_symbol : nestedWord c cursor ≠ .ok (.symbol text, after) := by
  unfold nestedWord
  dsimp only
  split
  · simp
  · split
    · simp
    · split <;> simp

theorem word_ne_symbol {count : Nat} : word grammar count cursor ≠ .ok (.symbol text, after) := by
  simp [word]

/-- Behind digits a number ends, or a word goes on. -/
theorem numberEnd_ne_symbol {digits : List Char} :
    numberEnd grammar digits cursor ≠ .ok (.symbol text, after) := by
  unfold numberEnd
  dsimp only
  split
  · simp
  · split <;> simp

/-- A dollar sign begins a text or a placeholder. -/
theorem dollar_ne_symbol : dollar grammar cursor ≠ .ok (.symbol text, after) := by
  unfold dollar
  dsimp only
  split
  · simp [closed_eq_ok]
  · split <;> simp [closed_eq_ok]

/-- A letter begins a word, or marks the constant behind it. -/
theorem letter_ne_symbol : letter grammar c rest cursor ≠ .ok (.symbol text, after) := by
  unfold letter
  dsimp only
  split
  case h_1 | h_2 =>
    split
    · exact constant_ne_symbol
    · exact word_ne_symbol
  case h_3 | h_4 =>
    split
    · exact tripleConstant_ne_symbol
    · exact word_ne_symbol
  case h_5 | h_6 => exact stringConstant_ne_symbol
  case h_7 => simp [closed_eq_ok]
  case h_8 =>
    split
    · simp [bind_eq_ok]
    · exact word_ne_symbol
  case h_9 => exact word_ne_symbol

/-- A comment begins with two hyphens but is a gap. -/
theorem lineComment_ne_symbol {count : Nat} :
    lineComment grammar count cursor ≠ .ok (.symbol text, after) := by
  simp [lineComment]

theorem blockComment_ne_symbol : blockComment grammar cursor ≠ .ok (.symbol text, after) := by
  simp [blockComment, closed_eq_ok]

/-- Of the symbols a number gives the period only. -/
theorem number_ne_hyphen : number grammar cursor ≠ .ok (.symbol "-", after) := by
  unfold number
  dsimp only
  split
  · simp
  · split
    · simp
    · exact numberEnd_ne_symbol

/-- A cursor that passes no line feed stays on its line. -/
theorem line_skip {count : Nat} (flat : '\n' ∉ cursor.rest.take count) :
    (cursor.skip count).place.line = cursor.place.line :=
  Location.line_after flat cursor.place

/-- The operator that is found stands where it was looked for. -/
theorem take_of_operatorAt? {table : List (List Char × String)} {spelling : List Char}
    (found : operatorAt? table cursor.rest = some (spelling, text)) :
    cursor.rest.take spelling.length = spelling := by
  have standing := ((operatorAt?_longest table cursor.rest).1 _ found).2
  exact (List.prefix_iff_eq_take.1 standing).symm

/-- The operator that is found is an entry of its table. -/
theorem mem_of_operatorAt? {table : List (List Char × String)} {entry : List Char × String}
    (found : operatorAt? table rest = some entry) : entry ∈ table := by
  unfold operatorAt? at found
  induction table using List.reverseRecOn with
  | nil => simp at found
  | append_singleton table last ih =>
    simp only [List.foldl_append, List.foldl_cons, List.foldl_nil] at found
    split at found
    · obtain rfl : last = entry := Option.some.inj found
      simp
    · exact List.mem_append_left [last] (ih found)

/-- A hyphen that an operator gives ends on the line on which it begins. -/
theorem line_operator (found : operator grammar cursor = .ok (.symbol "-", after)) :
    after.place.line = cursor.place.line := by
  unfold operator at found
  split at found
  -- An operator that others prolong: neither its spelling nor what prolongs it has a line feed.
  case h_1 spelling text prolonged =>
    obtain ⟨-, rfl⟩ := Prod.mk.inj (Except.ok.inj found)
    have printed := openOperators_printed _ (mem_of_operatorAt? prolonged)
    have tail : '\n' ∉ (cursor.skip spelling.length).rest.takeWhile grammar.continuesOperator :=
      fun member => by simpa [continuesOperator_feed] using List.mem_takeWhile_imp member
    calc ((cursor.skip spelling.length).place.after _).line
        = (cursor.skip spelling.length).place.line := Location.line_after tail _
      _ = cursor.place.line := line_skip (by rwa [take_of_operatorAt? prolonged])
  case h_2 =>
    split at found
    case h_1 spelling text whole =>
      obtain ⟨-, rfl⟩ := Prod.mk.inj (Except.ok.inj found)
      have printed := closedOperators_printed _ (mem_of_operatorAt? whole)
      exact line_skip (by rwa [take_of_operatorAt? whole])
    case h_2 =>
      obtain ⟨hyphen, rfl⟩ := Prod.mk.inj (Except.ok.inj found)
      have single : cursor.rest.take 1 = ['-'] := by
        have text := Token.symbol.inj hyphen
        simpa using congrArg String.toList text
      exact line_skip (by simp [single])

/-- A hyphen never begins with `#`; where `#` gives an operator, the line is kept all the same. -/
theorem line_hash (found : hash grammar cursor = .ok (.symbol "-", after)) :
    after.place.line = cursor.place.line := by
  unfold hash at found
  split at found
  · simp at found
  · exact line_operator found
  · exact line_operator found
  · split at found
    · exact absurd found word_ne_symbol
    · exact line_operator found
  · exact line_operator found

/-- The same for `@`. -/
theorem line_atSign (found : atSign grammar cursor = .ok (.symbol "-", after)) :
    after.place.line = cursor.place.line := by
  unfold atSign at found
  split at found
  · exact line_operator found
  · exact line_operator found
  · simp at found
  · simp at found
  · split at found
    · exact absurd found word_ne_symbol
    · simp at found
  · split at found
    · simp at found
    · exact absurd found word_ne_symbol
  · simp at found

theorem questionMark_ne_hyphen : questionMark grammar cursor ≠ .ok (.symbol "-", after) := by
  unfold questionMark
  split
  · split <;> simp
  · simp

/-- Of the signs only what is read as an operator gives a hyphen. -/
theorem line_sign (found : sign grammar c cursor = .ok (.symbol "-", after)) :
    after.place.line = cursor.place.line := by
  unfold sign at found
  split at found
  · split at found
    · exact absurd found lineComment_ne_symbol
    · exact line_hash found
  split at found
  · exact line_atSign found
  split at found
  · exact absurd found questionMark_ne_hyphen
  split at found
  · exact absurd found word_ne_symbol
  split at found
  · exact absurd found dollar_ne_symbol
  split at found
  · simp at found
  · exact line_operator found

/-- What a mark quotes is no symbol, so that a hyphen comes from a sign. -/
theorem line_mark (found : mark grammar c cursor = .ok (.symbol "-", after)) :
    after.place.line = cursor.place.line := by
  unfold mark at found
  split at found
  · exact absurd found constant_ne_symbol
  split at found
  · exact absurd found quotedWord_ne_symbol
  split at found
  · exact absurd found constant_ne_symbol
  split at found
  · exact absurd found nestedWord_ne_symbol
  · exact absurd found quotedWord_ne_symbol
  · exact line_sign found

/-- A hyphen ends on the line on which it begins. -/
theorem line_hyphen (found : next grammar c rest cursor = .ok (.symbol "-", after)) :
    after.place.line = cursor.place.line := by
  unfold next at found
  split at found
  · exact absurd found letter_ne_symbol
  split at found
  · exact absurd found number_ne_hyphen
  split at found
  case h_6 => exact absurd found lineComment_ne_symbol
  case h_7 => exact absurd found blockComment_ne_symbol
  case h_8 =>
    split at found
    · exact absurd found lineComment_ne_symbol
    split at found
    · simp at found
    · exact line_operator found
  case h_9 => exact line_mark found
  all_goals simp at found

end TableCatalog.Lexer
