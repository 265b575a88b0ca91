import TableCatalog.Proofs.Fault.Cut

/-!
# Faults of constants that a letter marks

A letter alone is a word. So a constant that is laid to its quote scans up to there, and one that
is laid to what stands behind its marks does not.
-/

namespace TableCatalog.Lexer

variable {grammar : Grammar} {fault : LexicalFault} {place : Location} {close : Char}
  {escapes : Bool} {style : StringStyle}

/-- Whether a fault in a token that begins with a character is laid to the opening mark.
Comments and text between dollar signs are laid to the end of the text, constants with
Unicode escapes to where reading gave up, and raw constants and those that three marks may
open to what stands behind their opening marks. -/
def laidToOpening (grammar : Grammar) (c : Char) : Bool :=
  if c.isAlpha then
    match c.toUpper with
    | 'R' | 'U' => false
    | 'B' => !grammar.hasTripleQuotes
    | _ => true
  else if grammar.quotesWord c || c == '[' then true
  else (c == '\'' || c == '"') && !grammar.hasTripleQuotes

/-- A fault that is laid to a place before which the text scans, without a terminator. -/
def ScansCut (grammar : Grammar) (text : List Char) (place : Location) (fault : LexicalFault) :
    Prop :=
  ∃ part more tokens last, text = part ++ more ∧ fault.place = place.after part ∧
    (∀ placed ∈ tokens, placed.token ≠ Token.semicolon) ∧
    Reads grammar ⟨part, place⟩ tokens ⟨[], last⟩

/-- Nothing scans before the place where a token begins. -/
theorem scansCut_here {text : List Char} (laid : fault.place = place) :
    ScansCut grammar text place fault :=
  ⟨[], text, [], place, rfl, laid, by simp, .refl⟩

/-- A letter alone is a word. -/
theorem scansCut_letter {c : Char} {rest : List Char} (lettered : c.isAlpha = true)
    (laid : fault.place = place.next c) : ScansCut grammar (c :: rest) place fault := by
  have unmarked : marksConstant grammar c [] = false := by
    unfold marksConstant
    split <;> simp
  have found : next grammar c [] ⟨[c], place⟩ =
      .ok (.word ⟨String.ofList [c], none⟩, ⟨[], place.next c⟩) := by
    simp only [next, lettered, if_true, letter_word unmarked]
    rfl
  refine ⟨[c], rest, [_], place.next c, rfl, laid, ?_, .step found .refl⟩
  simp [Token.semicolon]

/-- A constant that fails is laid to its place, or remains cut where triple marks may open it. -/
theorem constant_error {long : StringStyle} {rest : List Char}
    (failed : constant grammar style long close escapes ⟨close :: rest, place⟩ = .error fault) :
    (grammar.hasTripleQuotes = false ∧ fault.place = place) ∨
      (grammar.hasTripleQuotes = true ∧
        RemainsCut close (constant grammar style long close escapes) rest place fault) := by
  cases triple : grammar.hasTripleQuotes with
  | false =>
    simp only [constant, triple, Bool.false_eq_true, if_false] at failed
    obtain ⟨-, rfl⟩ := closed_eq_error.1 failed
    exact .inl ⟨rfl, rfl⟩
  | true =>
    have same : constant grammar style long close escapes =
        tripleConstant style long close escapes := by
      funext cursor
      simp [constant, triple]
    rw [same] at failed ⊢
    exact .inr ⟨rfl, remainsCut_tripleConstant failed⟩

/-- Where the fault of a marked constant is laid. -/
theorem fault_letter {c : Char} {rest : List Char} (lettered : c.isAlpha = true)
    (failed : fromLetter grammar c ⟨c :: rest, place⟩ = .error fault) :
    if laidToOpening grammar c then ScansCut grammar (c :: rest) place fault
      else RemainsCut c (fromLetter grammar c) rest place fault := by
  by_cases marked : marksConstant grammar c rest = true
  · cases marked_of_marksConstant marked with
    | bytes upper allowed quote =>
      obtain ⟨plain, long, opens⟩ := fromLetter_bytes quote upper allowed
      rw [opens] at failed
      rcases constant_error failed with ⟨single, laid⟩ | ⟨triple, remains⟩
      · simpa [laidToOpening, lettered, upper, single] using scansCut_letter lettered laid
      · simpa [laidToOpening, lettered, upper, triple] using remains.behind opens
    | raw upper allowed quote =>
      obtain ⟨plain, long, opens⟩ := fromLetter_raw quote upper allowed
      rw [opens] at failed
      simpa [laidToOpening, lettered, upper] using (remainsCut_tripleConstant failed).behind opens
    | national upper =>
      obtain ⟨style, opens⟩ := fromLetter_national upper
      rw [opens] at failed
      obtain ⟨-, rfl⟩ := closed_eq_error.1 failed
      rcases upper with upper | upper <;>
        simpa [laidToOpening, lettered, upper] using scansCut_letter lettered rfl
    | escaped upper =>
      rw [fromLetter_escaped upper] at failed
      obtain ⟨-, rfl⟩ := closed_eq_error.1 failed
      simpa [laidToOpening, lettered, upper] using scansCut_here rfl
    | unicode upper allowed =>
      rw [fromLetter_unicode upper allowed] at failed
      rcases bind_eq_error.1 failed with inside | ⟨_, -, impossible⟩
      · obtain ⟨part, more, shape, laid, again⟩ := staysCut_unicode inside
        obtain ⟨other, again⟩ := again (part.length + 3)
        have remains : RemainsCut c (fromLetter grammar c) ('&' :: '\'' :: _) place fault :=
          ⟨'&' :: '\'' :: part, more, congrArg ('&' :: '\'' :: ·) shape, laid, other, by
            rw [fromLetter_unicode upper allowed]
            exact bind_eq_error.2 (.inl again)⟩
        simpa [laidToOpening, lettered, upper] using remains
      · simp at impossible
  · have unmarked : marksConstant grammar c rest = false := by simpa using marked
    have wordly : word grammar 1 ⟨c :: rest, place⟩ = .error fault := by
      rw [← letter_word unmarked]
      exact failed
    simp [word] at wordly

end TableCatalog.Lexer
