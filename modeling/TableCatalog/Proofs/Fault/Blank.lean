import TableCatalog.Proofs.Reading

/-!
# Blanks scan

Blanks are gaps, except in the grammars where some of them begin words. There are few enough of
them to look through their code points; no other reader knows any of them.
-/

namespace TableCatalog.Lexer

variable {place : Location}

/-- The code points of the blank characters. -/
def blankCodes : List Nat :=
  [0x09, 0x0A, 0x0B, 0x0C, 0x0D, 0x20, 0x85, 0xA0, 0x1680, 0x2000, 0x2001, 0x2002, 0x2003, 0x2004,
    0x2005, 0x2006, 0x2007, 0x2008, 0x2009, 0x200A, 0x2028, 0x2029, 0x202F, 0x205F, 0x3000]

theorem mem_blankCodes {c : Char} (blank : Text.isBlank c = true) : c.toNat ∈ blankCodes := by
  simp only [Text.isBlank, Bool.or_eq_true, Bool.and_eq_true, decide_eq_true_eq, beq_iff_eq]
    at blank
  simp only [blankCodes, List.mem_cons, List.not_mem_nil, or_false]
  omega

/-- Ranges that hold no code point of a blank hold no blank. -/
theorem inRanges_blank {ranges : Array (Nat × Nat)} {c : Char} (blank : Text.isBlank c = true)
    (apart : ∀ code ∈ blankCodes,
      ranges.toList.any (fun range => range.1 ≤ code && code ≤ range.2) = false) :
    Text.inRanges ranges c.toNat = false := by
  rw [Text.inRanges, ← Array.any_toList]
  exact apart _ (mem_blankCodes blank)

/-- No blank is a letter. -/
theorem isLetter_blank {c : Char} (blank : Text.isBlank c = true) : Text.isLetter c = false := by
  have ascii : ∀ code ∈ blankCodes, (Char.ofNat code).isAlpha = false := by decide +kernel
  unfold Text.isLetter
  split
  · simpa [Char.ofNat_toNat] using ascii _ (mem_blankCodes blank)
  · exact inRanges_blank blank (by decide +kernel)

/-- No blank is a digit. -/
theorem isDecimal_blank {c : Char} (blank : Text.isBlank c = true) : Text.isDecimal c = false := by
  have ascii : ∀ code ∈ blankCodes, (Char.ofNat code).isDigit = false := by decide +kernel
  unfold Text.isDecimal
  split
  · simpa [Char.ofNat_toNat] using ascii _ (mem_blankCodes blank)
  · exact inRanges_blank blank (by decide +kernel)

/-- A character that no reader of marks tells apart from a blank. -/
def Unmarked (c : Char) : Prop :=
  c.isAlpha = false ∧ (c.isDigit || c == '.') = false ∧
    c ∉ ['-', '/', '\'', '"', '[', '#', '@', '?', '$', '_', '\x60']

theorem unmarked_blank {c : Char} (blank : Text.isBlank c = true) : Unmarked c := by
  have all : ∀ code ∈ blankCodes, Unmarked (Char.ofNat code) := by
    unfold Unmarked
    decide +kernel
  have found := all c.toNat (mem_blankCodes blank)
  rwa [Char.ofNat_toNat] at found

/-- A blank is a gap, except in the grammars where it may begin a word. -/
theorem next_blank (grammar : Grammar) {c : Char} (blank : Text.isBlank c = true)
    (rest : List Char) (place : Location) :
    (∃ gap run after, rest = run ++ after.rest ∧
        next grammar c rest ⟨c :: rest, place⟩ = .ok (.gap gap, after)) ∨
      grammar.startsWord c = true ∧
        next grammar c rest ⟨c :: rest, place⟩ = word grammar 1 ⟨c :: rest, place⟩ := by
  obtain ⟨unlettered, unnumbered, marks⟩ := unmarked_blank blank
  by_cases separate : c ∈ [' ', '\t', '\n', '\r']
  · left
    simp only [List.mem_cons, List.not_mem_nil, or_false] at separate
    rcases separate with rfl | rfl | rfl | rfl
    case' inl | inr.inl | inr.inr.inl => exact ⟨_, [], _, rfl, rfl⟩
    by_cases feed : ∃ tail, rest = '\n' :: tail
    · obtain ⟨tail, rfl⟩ := feed
      exact ⟨_, ['\n'], _, rfl, rfl⟩
    · refine ⟨.newline, [], ⟨rest, place.next '\r'⟩, rfl, ?_⟩
      cases rest with
      | nil => rfl
      | cons d rest =>
        have differs : d ≠ '\n' := fun same => feed ⟨rest, by rw [same]⟩
        simp [next, differs]
  · simp only [List.mem_cons, List.not_mem_nil, or_false, not_or] at marks
    have single : isPair c rest = false := by simp [isPair, marks]
    have unnested : nestedQuote? grammar (c :: rest) = none :=
      nestedQuote?_other (by simp [marks]) rest
    have quotes : grammar.quotesWord c = false := by
      cases grammar <;> simp [Grammar.quotesWord, marks]
    have signs : next grammar c rest ⟨c :: rest, place⟩ = sign grammar c ⟨c :: rest, place⟩ := by
      rw [next_mark unlettered unnumbered separate single]
      simp [mark, marks, quotes, unnested]
    rw [signs]
    by_cases starts : grammar.startsWord c = true
    · exact .inr ⟨starts, by simp [sign, marks, starts]⟩
    · exact .inl ⟨.space, [], ⟨rest, place.next c⟩, rfl, by simp [sign, marks, starts, blank]⟩

/-- A terminator is visible. -/
theorem isBlank_of_semicolon {c : Char} {rest : List Char} {after : Cursor}
    (found : next grammar c rest ⟨c :: rest, place⟩ = .ok (.semicolon, after)) :
    Text.isBlank c = false := by
  by_contra blank
  rcases next_blank grammar (by simpa using blank) rest place with
      ⟨gap, run, after, -, gapped⟩ | ⟨-, worded⟩
  · simp [gapped, Token.semicolon] at found
  · simp [worded, word, Token.semicolon] at found

/-- Blanks scan, and give gaps only. -/
theorem reads_blanks {blanks : List Char} (blank : ∀ c ∈ blanks, Text.isBlank c = true)
    (place : Location) :
    ∃ tokens finish, Reads .redshift ⟨blanks, place⟩ tokens ⟨[], finish⟩ ∧
      ∀ placed ∈ tokens, placed.token ≠ Token.semicolon := by
  induction size : blanks.length using Nat.strongRecOn generalizing blanks place with
  | ind n ih =>
    cases blanks with
    | nil => exact ⟨[], place, .refl, by simp⟩
    | cons c rest =>
      have white := blank c List.mem_cons_self
      have starts : Grammar.startsWord .redshift c = false := by
        have marks := (unmarked_blank white).2.2
        simp only [List.mem_cons, List.not_mem_nil, or_false, not_or] at marks
        simp [Grammar.startsWord, isLetter_blank white, marks]
      obtain ⟨gap, run, after, shape, found⟩ :=
        (next_blank .redshift white rest place).resolve_right (by simp [starts])
      have later : ∀ d ∈ after.rest, Text.isBlank d = true := fun d inside =>
        blank d (List.mem_cons_of_mem c (shape ▸ List.mem_append_right run inside))
      have shorter : after.rest.length < n := by
        rw [← size, shape]
        simp only [List.length_cons, List.length_append]
        omega
      obtain ⟨tokens, finish, reads, plain⟩ := ih _ shorter later after.place rfl
      refine ⟨_, finish, .step found reads, ?_⟩
      simpa [Token.semicolon] using plain

end TableCatalog.Lexer
