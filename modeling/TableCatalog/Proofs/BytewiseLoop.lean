import TableCatalog.Proofs.ByteOffset
import TableCatalog.Proofs.TypeBounds

/-!
# A loop over the bytes of a type

The scan for a type can run over the bytes of a text. It looks at single bytes, tells words and
other characters by parts of the text that it takes out from its offset on, and at last takes out
the type between two offsets. Each time a part is taken out it may stand inside a character, which
would be a failure. What the loop asks of a byte is asked of a character alike, as all marks that
it looks for are ASCII.
-/

namespace TableCatalog.DeclaredType.Bytewise

open Location (byteLength byteLength_append byteLength_eq)
open Text (bytes encode slice? OnBoundary)

/-- The offset behind quoted text, from an offset inside it. -/
def quotedEnd (bytes : List UInt8) (quote : UInt8) (index : Nat) : Nat :=
  if inside : index < bytes.length then
    if bytes[index] == quote then
      if bytes[index + 1]? == some quote then quotedEnd bytes quote (index + 2) else index + 1
    else quotedEnd bytes quote (index + 1)
  else bytes.length
  termination_by bytes.length - index

/-- Whether a comment begins with a byte, given the byte that follows it. -/
def opensComment (byte : UInt8) (following : Option UInt8) : Bool :=
  (byte == '-'.toUInt8 && following == some '-'.toUInt8) ||
    (byte == '/'.toUInt8 && following == some '*'.toUInt8)

/-- Whether a word begins an option of a column; the word behind it is looked for in the first
three bytes that are not blank. -/
def opensOption (word after : String) : Bool :=
  optionWords.contains (Text.asciiUpper word.toList) ||
    (Text.asciiUpper word.toList == "CHARACTER".toList &&
      (slice? (String.ofList (Text.trimStart after.toList)) 0 3).any fun next =>
        Text.asciiUpper next.toList == "SET".toList)

/-- What the scan keeps between two passes: the number of open brackets, the offset that it is at,
and the offset behind the last part of the type. -/
structure State where
  depth : Nat
  index : Nat
  past : Nat
  deriving DecidableEq, Repr

/-- What comes of a pass. -/
inductive Turn where
  | next (state : State)
  | done
  deriving DecidableEq, Repr

/-- The type goes up to an offset, and the scan on from there. -/
def Turn.take (depth index : Nat) : Turn :=
  .next ⟨depth, index, index⟩

/-- The pass at a word. -/
def wordTurn? (text : String) (state : State) : Option Turn := do
  let rest ← slice? text state.index text.utf8ByteSize
  let wordEnd := state.index + (String.ofList (rest.toList.takeWhile isWordPart)).utf8ByteSize
  let option ←
    if state.depth = 0 then do
      let word ← slice? text state.index wordEnd
      let after ← slice? text wordEnd text.utf8ByteSize
      pure (opensOption word after)
    else pure false
  return if option then .done else .take state.depth wordEnd

/-- The pass at a character that has no meaning of its own. -/
def otherTurn? (text : String) (state : State) : Option Turn := do
  let rest ← slice? text state.index text.utf8ByteSize
  return .take state.depth (state.index + rest.toList.head?.elim 1 Char.utf8Size)

/-- One pass; none if no byte is at the offset, or if a part of the text is taken out that does not
begin and end at characters. -/
def pass? (text : String) (state : State) : Option Turn := do
  let byte ← (bytes text)[state.index]?
  let c := Char.ofUInt8 byte
  if isSpace c then return .next { state with index := state.index + 1 }
  else if isQuote c then return .take state.depth (quotedEnd (bytes text) byte (state.index + 1))
  else if isOpening c then return .take (state.depth + 1) (state.index + 1)
  else if isClosing c then
    return if state.depth = 0 then .done else .take (state.depth - 1) (state.index + 1)
  else if isSeparator c && state.depth = 0 then return .done
  else if opensComment byte (bytes text)[state.index + 1]? then return .done
  else if isWordPart c then wordTurn? text state
  else otherTurn? text state

/-- An offset inside a character is no place for a pass. -/
example : pass? "é" ⟨0, 1, 0⟩ = none := by decide

/-- The offset behind the type; none if a pass fails, or if one does not go on behind the place
where it began, so that the scan might not end. -/
def typeEnd? (text : String) (state : State) : Option Nat :=
  if state.index < text.utf8ByteSize then
    match pass? text state with
    | some (.next next) => if state.index < next.index then typeEnd? text next else none
    | some .done => some state.past
    | none => none
  else some state.past
  termination_by text.utf8ByteSize - state.index

/-- The state at the first character that is not blank. -/
def State.start (text : String) : State :=
  let first := text.utf8ByteSize - (String.ofList (Text.trimStart text.toList)).utf8ByteSize
  ⟨0, first, first⟩

/-- The type declared at the head of a text. -/
def type? (text : String) : Option String := do
  let past ← typeEnd? text (.start text)
  slice? text (State.start text).index past

/-- The states that the scan of a text goes through. -/
inductive Reached (text : String) : State → Prop where
  | start : Reached text (.start text)
  | next {state next} (reached : Reached text state) (inside : state.index < text.utf8ByteSize)
      (pass : pass? text state = some (.next next)) : Reached text next

variable {c quote : Char} {depth depth' : Nat} {left piece rest : List Char}
  {before after skipped : List UInt8} {byte : UInt8}

section Quotes

/-- Nothing is left to look through at the end. -/
theorem quotedEnd_length (bytes : List UInt8) (byte : UInt8) :
    quotedEnd bytes byte bytes.length = bytes.length := by
  rw [quotedEnd, dif_neg (Nat.lt_irrefl _)]

/-- A byte that is not the closing quote is passed over. -/
theorem quotedEnd_other {other : UInt8} (apart : other ≠ byte) :
    quotedEnd (before ++ other :: after) byte before.length =
      quotedEnd (before ++ other :: after) byte (before.length + 1) := by
  rw [quotedEnd, dif_pos (by simp), if_neg (by simpa using apart)]

/-- At a quote it is the byte behind it that tells whether the quoted text ends. -/
theorem quotedEnd_quote (before after : List UInt8) (byte : UInt8) :
    quotedEnd (before ++ byte :: after) byte before.length =
      if after.head? = some byte then quotedEnd (before ++ byte :: after) byte (before.length + 2)
      else before.length + 1 := by
  rw [quotedEnd, dif_pos (by simp), if_pos (by simp)]
  simp [List.getElem?_append_right, List.head?_eq_getElem?]

/-- Bytes among which there is no closing quote are passed over. -/
theorem quotedEnd_skipped (apart : byte ∉ skipped) :
    quotedEnd (before ++ (skipped ++ after)) byte before.length =
      quotedEnd (before ++ (skipped ++ after)) byte (before ++ skipped).length := by
  induction skipped generalizing before with
  | nil => simp
  | cons other skipped ih =>
    obtain ⟨differs, apart⟩ := List.ne_and_not_mem_of_not_mem_cons apart
    have more := @ih (before ++ [other]) apart
    rw [List.cons_append, quotedEnd_other differs.symm]
    simpa using more

/-- Quoted text ends at the same place in the bytes as in the characters. -/
theorem quotedEnd_encode (ascii : quote.toNat < 0x80) (before : List UInt8) (text : List Char) :
    quotedEnd (before ++ encode text) quote.toUInt8 before.length =
      (before ++ encode (quoted quote text).1).length := by
  have single : encode [quote] = [quote.toUInt8] := Text.encode_cons_of_ascii ascii []
  fun_induction quoted quote text generalizing before with
  | case1 => simpa using quotedEnd_length before quote.toUInt8
  | case2 c =>
    by_cases closes : c = quote
    · rw [closes, single, quotedEnd_quote, if_neg (by simp)]
      simp
    · have apart : quote.toUInt8 ∉ encode [c] := by
        simpa using Text.toUInt8_notMem_encodeChar ascii closes
      have skipped := @quotedEnd_skipped before [] _ _ apart
      rw [List.append_nil] at skipped
      rw [skipped, quotedEnd_length]
  | case3 c d rest closes doubled inside after split ih =>
    obtain rfl : c = quote := by simpa using closes
    obtain rfl : d = c := by simpa using doubled
    have more := ih (before ++ [d.toUInt8, d.toUInt8])
    rw [Text.encode_cons_of_ascii ascii, Text.encode_cons_of_ascii ascii, quotedEnd_quote,
      if_pos (by simp)]
    simpa [split, Text.encode_cons_of_ascii ascii] using more
  | case4 c d rest closes doubled =>
    obtain rfl : c = quote := by simpa using closes
    have ends : (encode (d :: rest)).head? ≠ some c.toUInt8 := by
      rw [ne_eq, Text.head?_encode_eq_iff ascii]
      simpa using doubled
    rw [Text.encode_cons_of_ascii ascii, quotedEnd_quote, if_neg ends]
    simp [single]
  | case5 c d rest other inside after split ih =>
    have apart : quote.toUInt8 ∉ String.utf8EncodeChar c :=
      Text.toUInt8_notMem_encodeChar ascii (by simpa using other)
    have more := ih (before ++ String.utf8EncodeChar c)
    rw [Text.encode_cons, quotedEnd_skipped apart]
    simpa [split] using more

end Quotes

section Looking

theorem onlyAscii_isSpace : Text.OnlyAscii isSpace := by
  intro c space
  rcases eq_of_isSpace space with rfl | rfl | rfl | rfl <;> decide

theorem onlyAscii_isQuote : Text.OnlyAscii isQuote := by
  intro c quotes
  rcases eq_of_isQuote quotes with rfl | rfl | rfl <;> decide

theorem onlyAscii_isOpening : Text.OnlyAscii isOpening := by
  intro c opens
  rcases eq_of_isOpening opens with rfl | rfl | rfl <;> decide

theorem onlyAscii_isClosing : Text.OnlyAscii isClosing := by
  intro c closes
  rcases eq_of_isClosing closes with rfl | rfl | rfl <;> decide

theorem onlyAscii_isSeparator : Text.OnlyAscii isSeparator := by
  intro c ends
  rcases eq_of_isSeparator ends with rfl | rfl <;> decide

theorem onlyAscii_isWordPart : Text.OnlyAscii isWordPart := fun _ part =>
  Nat.lt_of_le_of_lt (toNat_of_isWordPart part).2 (by decide)

/-- A comment begins at the same places in the bytes as in the characters. -/
theorem opensComment_lead (c : Char) (rest : List Char) :
    opensComment (Text.lead c) (encode (c :: rest))[1]? = DeclaredType.opensComment c rest := by
  have pair {first second : Char} (ascii : first.toNat < 0x80) (ascii' : second.toNat < 0x80) :
      (Text.lead c == first.toUInt8 && (encode (c :: rest))[1]? == some second.toUInt8) =
        (c == first && rest.head? == some second) := by
    rw [Bool.eq_iff_iff]
    simp only [Bool.and_eq_true, beq_iff_eq, Text.lead_eq_iff ascii]
    refine and_congr_right ?_
    rintro rfl
    rw [Text.encode_cons_of_ascii ascii, List.getElem?_cons_succ, ← List.head?_eq_getElem?,
      Text.head?_encode_eq_iff ascii']
  rw [opensComment, DeclaredType.opensComment, pair (by decide) (by decide),
    pair (by decide) (by decide)]

/-- The word `SET` stands in three bytes. -/
theorem any_slice_set (text : List Char) :
    ((slice? (String.ofList text) 0 3).any fun next =>
        Text.asciiUpper next.toList == "SET".toList) =
      (Text.asciiUpper (text.take 3) == "SET".toList) := by
  have three {word : List Char} (set : Text.asciiUpper word = "SET".toList) :
      word.length = 3 ∧ byteLength word = 3 := by
    have letters : ∀ d ∈ "SET".toList, isWordPart d = true := by decide
    have size : word.length = 3 := by
      rw [← Text.length_asciiUpper, set]
      rfl
    have ascii : ∀ c ∈ word, c.toNat < 0x80 := by
      intro c inside
      have upper : c.toUpper ∈ "SET".toList := set ▸ List.mem_map_of_mem inside
      exact onlyAscii_isWordPart c (isWordPart_of_toUpper (letters _ upper))
    exact ⟨size, by rw [Text.byteLength_of_ascii ascii, size]⟩
  rw [Bool.eq_iff_iff, Option.any_eq_true, beq_iff_eq]
  constructor
  · rintro ⟨next, taken, set⟩
    obtain ⟨front, back, shape, first, -⟩ := Text.slice?_eq_some_iff.1 taken
    obtain rfl := Location.byteLength_eq_zero_iff.1 first.symm
    obtain rfl := String.ofList_injective shape
    have set := beq_iff_eq.1 set
    rw [List.nil_append, List.take_left' (three set).1, set]
  · intro set
    have taken := Text.slice?_append [] (text.take 3) (text.drop 3)
    rw [List.nil_append, List.nil_append, List.take_append_drop, (three set).2] at taken
    exact ⟨_, taken, by rw [String.toList_ofList, set]; rfl⟩

/-- Whether words open an option is the same for strings and for their characters. -/
theorem opensOption_ofList (word after : List Char) :
    opensOption (String.ofList word) (String.ofList after) =
      DeclaredType.opensOption word after := by
  have spelled (text : List Char) : (String.ofList text).toList = text := String.toList_ofList
  rw [opensOption, DeclaredType.opensOption, spelled word, spelled after, any_slice_set]

end Looking

end TableCatalog.DeclaredType.Bytewise
