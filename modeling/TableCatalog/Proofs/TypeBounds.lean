import Mathlib.Data.List.TakeWhile
import TableCatalog.Proofs.Nesting

/-!
# What follows a type

Blanks, separators and closing brackets end the words, quotes and comments that have begun
before them. So in front of such a text the scan passes over a type as it does over the type
alone, and the type ends in one of three ways: the scan stops inside it, passes over all of it
with some brackets open behind it, or is caught in a quote.
-/

namespace TableCatalog.DeclaredType

variable {c quote : Char} {depth depth' : Nat} {text rest left piece run word after : List Char}

/-- A text that goes on with no word, quoted text or comment that stands before it, nor with the
second word of `CHARACTER SET`. -/
structure Bounds (after : List Char) : Prop where
  head : ∀ c ∈ after.head?, c ∈ [' ', '\t', '\r', '\n', ',', ';', ')', ']', '>']
  letter : ∀ c ∈ (Text.trimStart after).head?, c.toUpper ≠ 'S'

section Lookahead

/-- What the scan takes for blank is blank. -/
theorem isBlank_of_isSpace (space : isSpace c = true) : Text.isBlank c = true := by
  rcases eq_of_isSpace space with rfl | rfl | rfl | rfl <;> decide

/-- The parts of words lie between `0` and `z`. -/
theorem toNat_of_isWordPart (part : isWordPart c = true) : 0x30 ≤ c.toNat ∧ c.toNat ≤ 0x7A := by
  simp only [isWordPart, Text.isAsciiAlphanum, Bool.or_eq_true, beq_iff_eq] at part
  rcases part with rfl | letter | digit
  · decide
  · have either : (c.isUpper || c.isLower) = true := letter
    rcases (Bool.or_eq_true _ _).mp either with upper | lower
    · have range : 65 ≤ c.toNat ∧ c.toNat ≤ 90 := of_decide_eq_true upper
      omega
    · have range : (decide (c.val ≥ 'a'.val) && decide (c.val ≤ 'z'.val)) = true := lower
      obtain ⟨low, high⟩ := (Bool.and_eq_true _ _).mp range
      have low : 97 ≤ c.toNat := of_decide_eq_true low
      have high : c.toNat ≤ 122 := of_decide_eq_true high
      omega
  · have range : (decide (c.val ≥ '0'.val) && decide (c.val ≤ '9'.val)) = true := digit
    obtain ⟨low, high⟩ := (Bool.and_eq_true _ _).mp range
    have low : 48 ≤ c.toNat := of_decide_eq_true low
    have high : c.toNat ≤ 57 := of_decide_eq_true high
    omega

/-- No blank is a character of a word. -/
theorem isBlank_of_isWordPart (part : isWordPart c = true) : Text.isBlank c = false := by
  have bounds := toNat_of_isWordPart part
  simp [Text.isBlank]
  omega

theorem isWordPart_of_toUpper (part : isWordPart c.toUpper = true) : isWordPart c = true := by
  by_cases range : 'a'.val ≤ c.val ∧ c.val ≤ 'z'.val
  · have lower : c.isLower = true :=
      (Bool.and_eq_true _ _).mpr ⟨decide_eq_true range.1, decide_eq_true range.2⟩
    have letter : c.isAlpha = true := (Bool.or_eq_true _ _).mpr (.inr lower)
    simp [isWordPart, Text.isAsciiAlphanum, letter]
  · have same : c.toUpper = c := dif_neg range
    rwa [same] at part

/-- Blanks in front are trimmed. -/
theorem trimStart_append_of_blank {blanks : List Char}
    (blank : ∀ b ∈ blanks, Text.isBlank b = true) (text : List Char) :
    Text.trimStart (blanks ++ text) = Text.trimStart text :=
  List.dropWhile_append_of_pos blank

theorem trimStart_of_visible (visible : Text.isBlank c = false) (rest : List Char) :
    Text.trimStart (c :: rest) = c :: rest := by
  simp [Text.trimStart, visible]

/-- In a blank text nothing is declared. -/
theorem ofText_of_blank (invisible : Text.trimStart text = []) : ofText text = [] := by
  rw [ofText, invisible, Stops.ended.scan_eq_nil]

/-- What is declared begins behind all blanks. -/
theorem ofText_append_of_blank {blanks : List Char} (blank : ∀ b ∈ blanks, Text.isBlank b = true)
    (visible : Text.isBlank c = false) (rest : List Char) :
    ofText (blanks ++ c :: rest) = scan 0 (c :: rest) := by
  rw [ofText, trimStart_append_of_blank blank, trimStart_of_visible visible]

/-- Blanks behind a blank text make up a blank text. -/
theorem isBlank_of_append {blanks : List Char} (invisible : Text.trimStart text = [])
    (spaces : ∀ b ∈ blanks, isSpace b = true) : ∀ b ∈ text ++ blanks, Text.isBlank b = true := by
  intro b inside
  rcases List.mem_append.1 inside with inside | inside
  · exact List.dropWhile_eq_nil_iff.1 invisible b inside
  · exact isBlank_of_isSpace (spaces b inside)

/-- Blanks and a visible character behind them bound a type; without blanks a mark does. -/
theorem bounds_append {blanks : List Char} (spaces : ∀ b ∈ blanks, isSpace b = true)
    (apart : blanks = [] → c ∈ [',', ';', ')', ']', '>']) (visible : Text.isBlank c = false)
    (letter : c.toUpper ≠ 'S') (rest : List Char) : Bounds (blanks ++ c :: rest) where
  head d first := by
    cases blanks with
    | nil =>
      obtain rfl : c = d := by simpa using first
      have marks : [',', ';', ')', ']', '>'] ⊆ [' ', '\t', '\r', '\n', ',', ';', ')', ']', '>'] := by
        decide
      exact marks (apart rfl)
    | cons b blanks =>
      obtain rfl : b = d := by simpa using first
      rcases eq_of_isSpace (spaces b List.mem_cons_self) with rfl | rfl | rfl | rfl <;> decide
  letter d first := by
    rw [trimStart_append_of_blank fun b inside => isBlank_of_isSpace (spaces b inside),
      trimStart_of_visible visible] at first
    obtain rfl : c = d := by simpa using first
    exact letter

/-- A word in a type begins an option or not whatever follows the type. -/
theorem Bounds.opensOption_append (bounds : Bounds after) (word rest : List Char) :
    opensOption word (rest ++ after) = opensOption word rest := by
  have same : (Text.asciiUpper ((Text.trimStart (rest ++ after)).take 3) == "SET".toList) =
      (Text.asciiUpper ((Text.trimStart rest).take 3) == "SET".toList) := by
    cases kept : Text.trimStart rest with
    | nil =>
      have blank : ∀ b ∈ rest, Text.isBlank b = true := List.dropWhile_eq_nil_iff.1 kept
      rw [trimStart_append_of_blank blank]
      cases other : Text.trimStart after with
      | nil => rfl
      | cons d more => simp [Text.asciiUpper, bounds.letter d (by simp [other])]
    | cons d more =>
      have longer : Text.trimStart (rest ++ after) = d :: more ++ after := by
        unfold Text.trimStart at kept ⊢
        simp [List.dropWhile_append, kept]
      have letters : ∀ c ∈ after.head?, c.toUpper ≠ 'E' ∧ c.toUpper ≠ 'T' := by
        have kinds : ∀ c ∈ [' ', '\t', '\r', '\n', ',', ';', ')', ']', '>'],
            c.toUpper ≠ 'E' ∧ c.toUpper ≠ 'T' := by
          decide
        exact fun c first => kinds c (bounds.head c first)
      rw [longer]
      -- Of the three letters one at least stands in the type, and `after` begins with none of them.
      rcases more with _ | ⟨e, _ | ⟨f, more⟩⟩ <;> cases after <;> simp_all [Text.asciiUpper]
  rw [opensOption, same, opensOption]

theorem Bounds.opensComment_append (bounds : Bounds after) (c : Char) (rest : List Char) :
    opensComment c (rest ++ after) = opensComment c rest := by
  cases rest with
  | cons d rest => rfl
  | nil =>
    cases after with
    | nil => rfl
    | cons d after =>
      have other : ∀ d ∈ [' ', '\t', '\r', '\n', ',', ';', ')', ']', '>'], d ≠ '-' ∧ d ≠ '*' := by
        decide
      simp [opensComment, other d (bounds.head d rfl)]

/-- A bound goes on with no word and opens no quotes. -/
theorem Bounds.plain (bounds : Bounds after) :
    ∀ c ∈ after.head?, isWordPart c = false ∧ isQuote c = false := by
  have kinds : ∀ c ∈ [' ', '\t', '\r', '\n', ',', ';', ')', ']', '>'],
      isWordPart c = false ∧ isQuote c = false := by
    decide
  exact fun c first => kinds c (bounds.head c first)

/-- The word at the head of a text ends where what follows the text begins. -/
theorem Bounds.takeWhile_append (bounds : Bounds after) (text : List Char) :
    (text ++ after).takeWhile isWordPart = text.takeWhile isWordPart ∧
      (text ++ after).dropWhile isWordPart = text.dropWhile isWordPart ++ after := by
  have stops : after.takeWhile isWordPart = [] ∧ after.dropWhile isWordPart = after := by
    cases after with
    | nil => exact ⟨rfl, rfl⟩
    | cons c after => simp [(bounds.plain c rfl).1]
  rw [List.takeWhile_append, List.dropWhile_append, stops.1, stops.2]
  constructor
  · split
    · rename_i all
      rw [List.append_nil]
      exact ((List.takeWhile_prefix isWordPart).eq_of_length all).symm
    · rfl
  · split
    · rename_i nothing
      rw [List.isEmpty_iff.1 nothing, List.nil_append]
    · rfl

end Lookahead

section Appending

/-- Blanks before the place where the scan stops come to nothing. -/
theorem scan_blanks {blanks : List Char} (spaces : ∀ b ∈ blanks, isSpace b = true)
    (ended : scan depth rest = []) : scan depth (blanks ++ rest) = [] := by
  induction blanks with
  | nil => exact ended
  | cons b blanks ih =>
    obtain ⟨space, spaces⟩ := List.forall_mem_cons.1 spaces
    rw [List.cons_append, scan_space space, if_pos (ih spaces)]

/-- Blanks before more of a type belong to it. -/
theorem scan_blanks_append {blanks : List Char} (spaces : ∀ b ∈ blanks, isSpace b = true)
    (filled : scan depth rest ≠ []) : scan depth (blanks ++ rest) = blanks ++ scan depth rest := by
  induction blanks with
  | nil => rfl
  | cons b blanks ih =>
    obtain ⟨space, spaces⟩ := List.forall_mem_cons.1 spaces
    rw [List.cons_append, scan_space space, ih spaces, if_neg (by simp [filled]), List.cons_append]

/-- A pass over more than a blank belongs to the type. -/
theorem Pass.scan_ne_nil (pass : Pass depth text piece depth' rest)
    (solid : piece.all isSpace = false) : scan depth text ≠ [] := by
  rw [pass.scan_eq, attach, if_neg (by simp [solid])]
  exact List.append_ne_nil_of_left_ne_nil pass.ne_nil _

/-- Where a word ends, the scan finds its end. -/
theorem takeWhile_word (parts : ∀ c ∈ word, isWordPart c = true)
    (ends : ∀ c ∈ after.head?, isWordPart c = false) :
    (word ++ after).takeWhile isWordPart = word ∧ (word ++ after).dropWhile isWordPart = after := by
  rw [List.takeWhile_append_of_pos parts, List.dropWhile_append_of_pos parts]
  cases after with
  | nil => simp
  | cons d after => simp [ends d rfl]

/-- A word belongs to the type if it begins no option or a bracket is open before it. -/
theorem scan_word_ne_nil (filled : word ≠ []) (parts : ∀ c ∈ word, isWordPart c = true)
    (ends : ∀ c ∈ after.head?, isWordPart c = false)
    (plain : depth = 0 → opensOption word after = false) : scan depth (word ++ after) ≠ [] := by
  obtain ⟨c, run, rfl⟩ := List.exists_cons_of_ne_nil filled
  obtain ⟨part, parts⟩ := List.forall_mem_cons.1 parts
  obtain ⟨taken, left⟩ := takeWhile_word parts ends
  have pass : Pass depth (c :: (run ++ after)) (c :: (run ++ after).takeWhile isWordPart) depth
      ((run ++ after).dropWhile isWordPart) :=
    .word part (by rwa [taken, left])
  exact pass.scan_ne_nil (by simp [(kinds_of_isWordPart part).1])

/-- A word that begins an option ends the scan. -/
theorem scan_word_eq_nil (filled : word ≠ []) (parts : ∀ c ∈ word, isWordPart c = true)
    (ends : ∀ c ∈ after.head?, isWordPart c = false) (option : opensOption word after = true) :
    scan 0 (word ++ after) = [] := by
  obtain ⟨c, run, rfl⟩ := List.exists_cons_of_ne_nil filled
  obtain ⟨part, parts⟩ := List.forall_mem_cons.1 parts
  obtain ⟨taken, left⟩ := takeWhile_word parts ends
  have stops : Stops 0 (c :: (run ++ after)) := .option part (by rwa [taken, left])
  exact stops.scan_eq_nil

/-- A pass that leaves no quote open is the same in front of another text. -/
theorem Pass.append (bounds : Bounds after) (pass : Pass depth text piece depth' rest)
    (closed : (unquoted? piece).isSome = true) :
    Pass depth (text ++ after) piece depth' (rest ++ after) := by
  cases pass with
  | blank space => exact .blank space
  | @quoted c _ text quotes =>
    have ends := closed_of_unquoted? quotes closed
    have apart : ((DeclaredType.quoted c text).2 ++ after).head? ≠ some c := by
      rw [List.head?_append]
      cases behind : (DeclaredType.quoted c text).2.head? with
      | none =>
        intro again
        have plain := (bounds.plain c again).2
        exact absurd quotes (by simp [plain])
      | some d => simpa [behind] using (ends_of_closed ends).2
    have same := (quoted_of_closed ends apart).1
    rw [← List.append_assoc, quoted_append] at same
    have pass : Pass depth (c :: (text ++ after)) _ depth _ := .quoted quotes
    rwa [same] at pass
  | opening opens => exact .opening opens
  | closing closes => exact .closing closes
  | @word c _ text part plain =>
    obtain ⟨word, behind⟩ := bounds.takeWhile_append text
    have pass : Pass depth (c :: (text ++ after)) _ depth _ := .word part fun outer => ?_
    · rwa [word, behind] at pass
    · rw [word, behind, bounds.opensOption_append]
      exact plain outer
  | other space quotes opens closes goesOn comment part =>
    have plain : opensComment _ (rest ++ after) = false :=
      (bounds.opensComment_append _ rest).trans comment
    exact .other space quotes opens closes goesOn plain part

/-- Where the scan stops inside a text it stops in front of another one. -/
theorem Stops.append (bounds : Bounds after) (stops : Stops depth left) (early : left ≠ []) :
    Stops depth (left ++ after) := by
  cases stops with
  | ended => exact absurd rfl early
  | closing closes => exact .closing closes
  | separator ends => exact .separator ends
  | @comment c _ rest opens =>
    have same : opensComment c (rest ++ after) = true :=
      (bounds.opensComment_append c rest).trans opens
    exact .comment same
  | @option c rest part option =>
    obtain ⟨word, behind⟩ := bounds.takeWhile_append rest
    have stops : Stops 0 (c :: (rest ++ after)) := .option part (by
      rw [word, behind, bounds.opensOption_append]
      exact option)
    exact stops

/-- Passes up to a bound are passes before it, unless a quote stays open. -/
theorem Passes.append (bounds : Bounds after) (passes : Passes depth text run depth' left)
    (closed : (unquoted? run).isSome = true) :
    Passes depth (text ++ after) run depth' (left ++ after) := by
  induction passes with
  | refl => exact .refl
  | step pass more ih =>
    have shape := more.append_eq
    obtain ⟨first, later⟩ := (shape ▸ pass).closed_of_append closed
    exact .step (pass.append bounds first) (ih later)

/-- What the scan gives behind passes is the same in front of another text if it is so where the
passes end. -/
theorem Passes.scan_append_eq (bounds : Bounds after) (passes : Passes depth text run depth' left)
    (closed : (unquoted? run).isSome = true)
    (same : scan depth' (left ++ after) = scan depth' left) :
    scan depth (text ++ after) = scan depth text := by
  induction passes with
  | refl => exact same
  | step pass more ih =>
    have shape := more.append_eq
    obtain ⟨first, later⟩ := (shape ▸ pass).closed_of_append closed
    rw [(pass.append bounds first).scan_eq, ih later same, pass.scan_eq]

/-- What is passed over belongs to the type if more of the type follows. -/
theorem Passes.scan_eq_append (passes : Passes depth text run depth' left)
    (filled : scan depth' left ≠ []) : scan depth text = run ++ scan depth' left := by
  induction passes with
  | refl => rfl
  | step pass more ih =>
    rw [pass.scan_eq, ih filled, attach, if_neg (by simp [filled]), List.append_assoc]

/-- A pass ends with a blank only where it goes over one, and with a part of a word only where
the word ends. -/
theorem Pass.getLast?_kinds (pass : Pass depth text piece depth' rest)
    (closed : (unquoted? piece).isSome = true) :
    ∀ d ∈ piece.getLast?, (isSpace d = true → piece.all isSpace = true) ∧
      (isWordPart d = true → ∀ e ∈ rest.head?, isWordPart e = false) := by
  -- Every mark is neither.
  have mark {d : Char} (kinds : isSpace d = false ∧ isWordPart d = false) :
      (isSpace d = true → piece.all isSpace = true) ∧
        (isWordPart d = true → ∀ e ∈ rest.head?, isWordPart e = false) := by
    simp [kinds]
  intro d last
  cases pass with
  | @blank c _ _ space =>
    obtain rfl : c = d := by simpa using last
    refine ⟨fun _ => by simpa using space, fun part => ?_⟩
    rw [(kinds_of_isWordPart part).1] at space
    cases space
  | @quoted c _ text quotes =>
    have ends := (ends_of_closed (closed_of_unquoted? quotes closed)).1
    obtain rfl : c = d := by simpa [List.getLast?_cons, ends] using last
    exact mark (by rcases eq_of_isQuote quotes with rfl | rfl | rfl <;> decide)
  | @opening c _ _ opens =>
    obtain rfl : c = d := by simpa using last
    exact mark (by rcases eq_of_isOpening opens with rfl | rfl | rfl <;> decide)
  | @closing c _ _ closes =>
    obtain rfl : c = d := by simpa using last
    exact mark (by rcases eq_of_isClosing closes with rfl | rfl | rfl <;> decide)
  | @word c _ text part plain =>
    have inside := word_parts part d (List.mem_of_getLast? last)
    refine ⟨fun space => ?_, fun _ e first => ?_⟩
    · rw [(kinds_of_isWordPart inside).1] at space
      cases space
    · have stopped := List.head?_dropWhile_not isWordPart text
      rw [Option.mem_def.1 first] at stopped
      simpa using stopped
  | @other c _ _ space _ _ _ _ _ part =>
    obtain rfl : c = d := by simpa using last
    exact mark ⟨space, part⟩

end Appending

end TableCatalog.DeclaredType
