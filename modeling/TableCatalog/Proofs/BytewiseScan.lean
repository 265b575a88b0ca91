import TableCatalog.Proofs.BytewiseLoop
import TableCatalog.Proofs.TypeReach

/-!
# The type scan over bytes

The loop over bytes never takes out a part inside a character: its offset is at a character behind
every pass. The scan ends, and it gives the same type as the scan over characters.
-/

namespace TableCatalog.DeclaredType.Bytewise

open Location (byteLength byteLength_append byteLength_eq)
open Text (bytes encode slice? OnBoundary)

variable {c quote : Char} {depth depth' : Nat} {left piece rest : List Char}
  {before after skipped : List UInt8} {byte : UInt8}

section Turning

variable (front : List Char) (depth past : Nat)

/-- A pass at a character, told by the character itself. -/
theorem pass?_cons (c : Char) (rest : List Char) :
    let text := String.ofList (front ++ c :: rest)
    let state : State := ⟨depth, byteLength front, past⟩
    pass? text state =
      if isSpace c then some (.next ⟨depth, byteLength front + 1, past⟩)
      else if isQuote c then
        some (.take depth (quotedEnd (bytes text) (Text.lead c) (byteLength front + 1)))
      else if isOpening c then some (.take (depth + 1) (byteLength front + 1))
      else if isClosing c then
        some (if depth = 0 then .done else .take (depth - 1) (byteLength front + 1))
      else if isSeparator c && depth = 0 then some .done
      else if DeclaredType.opensComment c rest then some .done
      else if isWordPart c then wordTurn? text state
      else otherTurn? text state := by
  intro text state
  have byte : (bytes text)[byteLength front]? = some (Text.lead c) := by
    obtain ⟨more, parts⟩ := Text.encodeChar_eq_lead_cons c
    have first := Text.getElem?_bytes front (c :: rest) 0
    rwa [Text.encode_cons, parts] at first
  have following := Text.getElem?_bytes front (c :: rest) 1
  rw [pass?, byte, following]
  simp only [Option.bind_eq_bind, Option.bind_some, opensComment_lead,
    onlyAscii_isSpace.ofUInt8_lead, onlyAscii_isQuote.ofUInt8_lead,
    onlyAscii_isOpening.ofUInt8_lead, onlyAscii_isClosing.ofUInt8_lead,
    onlyAscii_isSeparator.ofUInt8_lead, onlyAscii_isWordPart.ofUInt8_lead]
  rfl

/-- The end of quoted text in a text is behind its last character. -/
theorem quotedEnd_bytes (quotes : isQuote c = true) (rest : List Char) :
    quotedEnd (bytes (String.ofList (front ++ c :: rest))) (Text.lead c) (byteLength front + 1) =
      byteLength (front ++ c :: (quoted c rest).1) := by
  have ascii := onlyAscii_isQuote c quotes
  have size : (encode (front ++ [c])).length = byteLength front + 1 := by
    simp [Text.utf8Size_of_ascii ascii]
  have whole := quotedEnd_encode ascii (encode (front ++ [c])) rest
  rw [size] at whole
  rw [Text.bytes_ofList, Text.lead_of_ascii ascii, ← Text.length_encode]
  simpa using whole

/-- A word is taken, or it ends the type. -/
theorem wordTurn?_append (text : List Char) :
    wordTurn? (String.ofList (front ++ text)) ⟨depth, byteLength front, past⟩ =
      some (if depth = 0 ∧ DeclaredType.opensOption (text.takeWhile isWordPart)
          (text.dropWhile isWordPart) = true then .done
        else .take depth (byteLength (front ++ text.takeWhile isWordPart))) := by
  have size : (String.ofList (front ++ text)).utf8ByteSize = byteLength (front ++ text) :=
    (byteLength_eq _).symm
  have word := Text.slice?_append front (text.takeWhile isWordPart) (text.dropWhile isWordPart)
  have after := Text.slice?_end (front ++ text.takeWhile isWordPart) (text.dropWhile isWordPart)
  rw [List.append_assoc] at after
  rw [List.takeWhile_append_dropWhile] at word after
  have wordEnd : byteLength front + (String.ofList (text.takeWhile isWordPart)).utf8ByteSize =
      byteLength (front ++ text.takeWhile isWordPart) := by
    rw [← byteLength_eq, byteLength_append]
  rw [wordTurn?]
  simp only [size, Text.slice?_end, Option.bind_eq_bind, Option.bind_some, String.toList_ofList,
    wordEnd, word, after, opensOption_ofList, Option.pure_def]
  by_cases outside : depth = 0 <;> simp [outside]

/-- The turn at a word ends the scan before an option and takes the whole word otherwise. -/
theorem wordTurn?_cons (part : isWordPart c = true) (rest : List Char) :
    wordTurn? (String.ofList (front ++ c :: rest)) ⟨depth, byteLength front, past⟩ =
      some (if depth = 0 ∧ DeclaredType.opensOption (c :: rest.takeWhile isWordPart)
          (rest.dropWhile isWordPart) = true then .done
        else .take depth (byteLength (front ++ c :: rest.takeWhile isWordPart))) := by
  rw [wordTurn?_append, List.takeWhile_cons_of_pos part, List.dropWhile_cons_of_pos part]

/-- Any other character is taken whole. -/
theorem otherTurn?_append (c : Char) (rest : List Char) :
    otherTurn? (String.ofList (front ++ c :: rest)) ⟨depth, byteLength front, past⟩ =
      some (.take depth (byteLength (front ++ [c]))) := by
  have size : (String.ofList (front ++ c :: rest)).utf8ByteSize = byteLength (front ++ c :: rest) :=
    (byteLength_eq _).symm
  rw [otherTurn?, size, Text.slice?_end]
  simp

end Turning

section Running

/-- A pass takes up some bytes. -/
theorem byteLength_lt_of_pass (pass : Pass depth left piece depth' rest) (front : List Char) :
    byteLength front < byteLength (front ++ piece) := by
  rw [byteLength_eq (front ++ piece)]
  exact Text.byteLength_lt_iff.2 pass.ne_nil

/-- A pass over the characters is one over the bytes. -/
theorem pass?_of_pass (pass : Pass depth left piece depth' rest) (front : List Char) (past : Nat) :
    pass? (String.ofList (front ++ left)) ⟨depth, byteLength front, past⟩ =
      some (.next ⟨depth', byteLength (front ++ piece),
        if piece.all isSpace = true then past else byteLength (front ++ piece)⟩) := by
  cases pass with
  | blank space =>
    have single := Text.utf8Size_of_ascii (onlyAscii_isSpace _ space)
    rw [pass?_cons]
    simp [space, single]
  | quoted quotes =>
    have ended := quotedEnd_bytes front quotes
    rw [pass?_cons, ended]
    rcases eq_of_isQuote quotes with rfl | rfl | rfl <;> simp [isSpace, isQuote, Turn.take]
  | opening opens =>
    have single := Text.utf8Size_of_ascii (onlyAscii_isOpening _ opens)
    rw [pass?_cons]
    rcases eq_of_isOpening opens with rfl | rfl | rfl <;>
      simp [isSpace, isQuote, isOpening, single, Turn.take]
  | closing closes =>
    have single := Text.utf8Size_of_ascii (onlyAscii_isClosing _ closes)
    rw [pass?_cons]
    rcases eq_of_isClosing closes with rfl | rfl | rfl <;>
      simp [isSpace, isQuote, isOpening, isClosing, single, Turn.take]
  | word part plain =>
    obtain ⟨space, quotes, opens, closes, ends⟩ := kinds_of_isWordPart part
    rw [pass?_cons, wordTurn?_cons front depth past part]
    simpa [space, quotes, opens, closes, ends, opensComment_of_isWordPart part, part, Turn.take]
      using plain
  | other space quotes opens closes goesOn comment part =>
    rw [pass?_cons, otherTurn?_append]
    simpa [space, quotes, opens, closes, comment, part, Turn.take] using goesOn

/-- Where the scan over the characters stops, the one over the bytes ends. -/
theorem pass?_of_stops (stops : Stops depth (c :: rest)) (front : List Char) (past : Nat) :
    pass? (String.ofList (front ++ c :: rest)) ⟨depth, byteLength front, past⟩ = some .done := by
  rw [pass?_cons]
  cases stops with
  | closing closes =>
    rcases eq_of_isClosing closes with rfl | rfl | rfl <;>
      simp [isSpace, isQuote, isOpening, isClosing]
  | separator ends =>
    rcases eq_of_isSeparator ends with rfl | rfl <;>
      simp [isSpace, isQuote, isOpening, isClosing, isSeparator]
  | comment opens =>
    rcases eq_of_opensComment opens with rfl | rfl <;>
      simp [isSpace, isQuote, isOpening, isClosing, isSeparator, opens]
  | option part option =>
    obtain ⟨space, quotes, opens, closes, ends⟩ := kinds_of_isWordPart part
    rw [wordTurn?_cons front 0 past part]
    simp [space, quotes, opens, closes, ends, opensComment_of_isWordPart part, part, option]

/-- The scan over the bytes ends, behind what the scan over the characters gives. -/
theorem typeEnd?_eq (depth : Nat) (left front : List Char) (past : Nat) :
    typeEnd? (String.ofList (front ++ left)) ⟨depth, byteLength front, past⟩ =
      some (if scan depth left = [] then past else byteLength (front ++ scan depth left)) := by
  induction size : left.length using Nat.strongRecOn generalizing depth left front past with
  | ind _ ih =>
    rcases stops_or_pass depth left with stops | ⟨piece, depth', rest, pass⟩
    · rw [stops.scan_eq_nil, if_pos rfl, typeEnd?]
      cases left with
      | nil => rw [if_neg (mt Text.byteLength_lt_iff.1 (not_not.2 rfl))]
      | cons c rest =>
        rw [if_pos (Text.byteLength_lt_iff.2 (List.cons_ne_nil c rest)), pass?_of_stops stops]
    · have later := ih _ (size ▸ pass.length_lt) depth' rest (front ++ piece)
        (if piece.all isSpace = true then past else byteLength (front ++ piece)) rfl
      rw [List.append_assoc, pass.append_eq] at later
      have filled : left ≠ [] := by
        rintro rfl
        exact absurd pass.length_lt (Nat.not_lt_zero _)
      rw [typeEnd?, if_pos (Text.byteLength_lt_iff.2 filled), pass?_of_pass pass]
      refine (if_pos (byteLength_lt_of_pass pass front)).trans (later.trans ?_)
      rw [pass.scan_eq, attach]
      -- blanks move the end of the type only if something of it follows them
      by_cases nothing : scan depth' rest = []
      · by_cases space : piece.all isSpace = true <;> simp [nothing, space, pass.ne_nil]
      · simp [nothing, List.append_assoc]

/-- The scan starts behind the blanks. -/
theorem start_eq (text : List Char) :
    let blanks := text.takeWhile Text.isBlank
    State.start (String.ofList text) = ⟨0, byteLength blanks, byteLength blanks⟩ := by
  intro blanks
  have whole : byteLength text = byteLength blanks + byteLength (Text.trimStart text) := by
    rw [← byteLength_append, Text.trimStart, List.takeWhile_append_dropWhile]
  rw [State.start, String.toList_ofList, ← byteLength_eq, ← byteLength_eq, whole,
    Nat.add_sub_cancel]

/-- The type stands behind the blanks at the head of a text. -/
theorem exists_ofText_append (text : List Char) :
    ∃ back, text = text.takeWhile Text.isBlank ++ (ofText text ++ back) := by
  obtain ⟨_, blanks, left, passes, -⟩ := exists_passes_scan 0 (Text.trimStart text)
  refine ⟨blanks ++ left, ?_⟩
  rw [ofText, passes.append_eq, Text.trimStart, List.takeWhile_append_dropWhile]

/-- The scan over the bytes gives the type that the scan over the characters does. -/
theorem type?_eq (text : List Char) :
    type? (String.ofList text) = some (String.ofList (ofText text)) := by
  obtain ⟨back, parts⟩ := exists_ofText_append text
  have ended := typeEnd?_eq 0 (Text.trimStart text) (text.takeWhile Text.isBlank)
    (byteLength (text.takeWhile Text.isBlank))
  have taken := Text.slice?_append (text.takeWhile Text.isBlank) (ofText text) back
  have last : (if ofText text = [] then byteLength (text.takeWhile Text.isBlank)
      else byteLength (text.takeWhile Text.isBlank ++ ofText text)) =
        byteLength (text.takeWhile Text.isBlank ++ ofText text) := by
    split_ifs with nothing
    · rw [nothing, List.append_nil]
    · rfl
  rw [← ofText, last, Text.trimStart, List.takeWhile_append_dropWhile] at ended
  rw [← parts] at taken
  rw [type?, start_eq, ended]
  exact taken

end Running

section Standing

/-- That a state is at characters of a text or at its end. -/
structure State.AtCharacters (text : String) (state : State) : Prop where
  index : OnBoundary text state.index
  past : OnBoundary text state.past

/-- The scan starts at a character. -/
theorem State.atCharacters_start (text : String) : (State.start text).AtCharacters text := by
  obtain ⟨text, rfl⟩ : ∃ chars, text = String.ofList chars := ⟨_, String.ofList_toList.symm⟩
  have first := Text.onBoundary_append (text.takeWhile Text.isBlank) (Text.trimStart text)
  rw [Text.trimStart, List.takeWhile_append_dropWhile] at first
  rw [start_eq]
  exact ⟨first, first⟩

/-- Before the end of the text a pass does not fail. It ends the scan or goes on at a character
behind the one where it began. -/
theorem State.AtCharacters.pass? {text : String} {state : State} (sound : state.AtCharacters text)
    (inside : state.index < text.utf8ByteSize) :
    ∃ turn, Bytewise.pass? text state = some turn ∧
      ∀ next, turn = .next next → state.index < next.index ∧ next.AtCharacters text := by
  obtain ⟨front, left, rfl, place⟩ := Text.onBoundary_iff.1 sound.index
  obtain ⟨depth, index, past⟩ := state
  obtain rfl : index = byteLength front := place
  rcases stops_or_pass depth left with stops | ⟨piece, depth', rest, pass⟩
  · cases left with
    | nil => exact absurd rfl (Text.byteLength_lt_iff.1 inside)
    | cons c rest =>
      refine ⟨_, pass?_of_stops stops front past, fun next goesOn => ?_⟩
      cases goesOn
  · refine ⟨_, pass?_of_pass pass front past, fun next goesOn => ?_⟩
    obtain rfl : State.mk .. = next := Turn.next.inj goesOn
    have behind := Text.onBoundary_append (front ++ piece) rest
    rw [List.append_assoc, pass.append_eq] at behind
    refine ⟨byteLength_lt_of_pass pass front, behind, ?_⟩
    dsimp only
    split
    · exact sound.past
    · exact behind

/-- No state that a scan comes to is inside a character. -/
theorem Reached.atCharacters {text : String} {state : State} (reached : Reached text state) :
    state.AtCharacters text := by
  induction reached with
  | start => exact State.atCharacters_start text
  | @next state next _ inside pass ih =>
    obtain ⟨turn, taken, goesOn⟩ := ih.pass? inside
    obtain rfl : turn = .next next := Option.some.inj (taken.symm.trans pass)
    exact (goesOn next rfl).2

end Standing

/-- The scan over bytes is safe on every text. No state that it comes to is inside a character, no
pass fails, and each pass that does not end the scan goes on behind where it was. So there is a
type: whole characters from the first one on that is not blank, the same that the scan over
characters takes. -/
theorem type?_safe (text : String) :
    (∀ state, Reached text state →
      state.AtCharacters text ∧
      (state.index < text.utf8ByteSize → ∃ turn, pass? text state = some turn ∧
        ∀ next, turn = .next next → state.index < next.index ∧ next.AtCharacters text)) ∧
    ∃ type back, type? text = some type ∧
      text.toList = text.toList.takeWhile Text.isBlank ++ (type.toList ++ back) ∧
      type.toList = ofText text.toList := by
  refine ⟨fun state reached => ⟨reached.atCharacters, reached.atCharacters.pass?⟩, ?_⟩
  obtain ⟨back, parts⟩ := exists_ofText_append text.toList
  have scanned := type?_eq text.toList
  rw [String.ofList_toList] at scanned
  refine ⟨_, back, scanned, ?_, String.toList_ofList⟩
  rw [String.toList_ofList]
  exact parts

end TableCatalog.DeclaredType.Bytewise
