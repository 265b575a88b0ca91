import TableCatalog.Proofs.BalancedType
import TableCatalog.Proofs.TypeBounds

/-!
# What follows a type

The scan of a type stops, or it runs through the text, or quotes are open at its end. Only in the
last two cases what follows the text has a part in the type. And where a type is open at a place,
it stays open behind any of its passes.
-/

namespace TableCatalog.DeclaredType

variable {c quote : Char} {depth depth' : Nat} {text rest left piece run word after : List Char}

section Reaching

/-- How the scan gets on with a text: it stops inside, goes through it with some brackets open
behind it, or finds a quote open at its end. -/
inductive Reach (depth : Nat) (text : List Char) : Prop where
  | stopped {run : List Char} {depth' : Nat} {left : List Char} (passes : Passes depth text run depth' left)
      (stops : Stops depth' left) (early : left ≠ [])
  | through {depth' : Nat} (passes : Passes depth text text depth' [])
      (closed : (unquoted? text).isSome = true)
  | quoting {front : List Char} {depth' : Nat} {quote : Char} {inside : List Char}
      (passes : Passes depth text front depth' (quote :: inside))
      (quotes : isQuote quote = true) (opened : quoteOpen quote inside = true)

/-- Every text has a reach, by one pass after another. -/
theorem reach (depth : Nat) (text : List Char) : Reach depth text := by
  induction size : text.length using Nat.strongRecOn generalizing depth text with
  | ind _ ih =>
    rcases stops_or_pass depth text with stops | ⟨piece, depth₁, rest, pass⟩
    · by_cases nothing : text = []
      · subst nothing
        exact .through .refl (by simp [unquoted?_nil])
      · exact .stopped .refl stops nothing
    rcases pass.closed_or with closed | ⟨quote, inside, rfl, quotes, opened, -⟩
    · cases ih _ (size ▸ pass.length_lt) depth₁ rest rfl with
      | stopped passes stops early => exact .stopped (.step pass passes) stops early
      | through passes later =>
        obtain ⟨outside, tally⟩ := pass.exists_tally closed
        have whole : Passes depth text (piece ++ rest) _ [] := .step pass passes
        have ends : (unquoted? (piece ++ rest)).isSome = true := by
          rw [tally.unquoted rest fun c first => first]
          simpa using later
        rw [pass.append_eq] at whole ends
        exact .through whole ends
      | quoting passes quotes opened => exact .quoting (.step pass passes) quotes opened
    · exact .quoting .refl quotes opened

/-- What is passed over before the scan comes to nothing is the type and blanks behind it. -/
theorem Passes.exists_blanks (passes : Passes depth text run depth' left)
    (ended : scan depth' left = []) :
    ∃ blanks, run = scan depth text ++ blanks ∧ ∀ c ∈ blanks, isSpace c = true := by
  induction passes with
  | refl => exact ⟨[], by simp [ended], by simp⟩
  | @step _ _ piece _ _ run _ _ pass more ih =>
    obtain ⟨blanks, rfl, spaces⟩ := ih ended
    rw [pass.scan_eq, attach]
    split
    · rename_i nothing
      refine ⟨piece ++ blanks, by simp [nothing.2], ?_⟩
      simpa [or_imp, forall_and] using ⟨by simpa using nothing.1, spaces⟩
    · exact ⟨blanks, by simp, spaces⟩

/-- Behind a pass the text ends before its type does if the type began in front of the pass. -/
theorem Pass.isOpen_eq (pass : Pass depth text piece depth' rest)
    (closed : (unquoted? piece).isSome = true) : isOpen depth text = isOpen depth' rest := by
  cases pass with
  | blank space => rw [isOpen, if_pos space]
  | quoted quotes =>
    have ends := closed_of_unquoted? quotes closed
    rcases eq_of_isQuote quotes with rfl | rfl | rfl <;> simp [isOpen, isSpace, isQuote, ends]
  | opening opens =>
    rcases eq_of_isOpening opens with rfl | rfl | rfl <;>
      simp [isOpen, isSpace, isQuote, isOpening]
  | closing closes =>
    rcases eq_of_isClosing closes with rfl | rfl | rfl <;>
      simp [isOpen, isSpace, isQuote, isOpening, isClosing]
  | word part plain =>
    obtain ⟨space, quotes, opens, closes, ends⟩ := kinds_of_isWordPart part
    rw [isOpen]
    simp only [space, quotes, opens, closes, ends, opensComment_of_isWordPart part, part,
      Bool.false_and, Bool.false_eq_true, if_false, if_true]
    rw [if_neg (by simpa using plain)]
  | other space quotes opens closes goesOn comment part =>
    rw [isOpen]
    simp only [space, quotes, opens, closes, comment, part, Bool.false_eq_true, if_false]
    rw [if_neg (by simpa using goesOn)]

/-- Whether a text stays open is told behind any of its passes. -/
theorem Passes.isOpen_eq (passes : Passes depth text run depth' left)
    (closed : (unquoted? run).isSome = true) : isOpen depth text = isOpen depth' left := by
  induction passes with
  | refl => rfl
  | step pass more ih =>
    have shape := more.append_eq
    obtain ⟨first, later⟩ := (shape ▸ pass).closed_of_append closed
    rw [pass.isOpen_eq first, ih later]

/-- A scan that stops early leaves nothing open. -/
theorem Stops.isOpen_eq (stops : Stops depth left) (early : left ≠ []) :
    isOpen depth left = false := by
  cases stops with
  | ended => exact absurd rfl early
  | closing closes =>
    rcases eq_of_isClosing closes with rfl | rfl | rfl <;>
      simp [isOpen, isSpace, isQuote, isOpening, isClosing]
  | separator ends =>
    rcases eq_of_isSeparator ends with rfl | rfl <;>
      simp [isOpen, isSpace, isQuote, isOpening, isClosing, isSeparator]
  | comment opens =>
    rcases eq_of_opensComment opens with rfl | rfl <;>
      simp [isOpen, isSpace, isQuote, isOpening, isClosing, isSeparator, opens]
  | option part option =>
    obtain ⟨space, quotes, opens, closes, ends⟩ := kinds_of_isWordPart part
    simp [isOpen, space, quotes, opens, closes, ends, opensComment_of_isWordPart part, part, option]

end Reaching

section Following

theorem trimStart_append_of_visible (visible : Text.trimStart text ≠ []) (after : List Char) :
    Text.trimStart (text ++ after) = Text.trimStart text ++ after := by
  unfold Text.trimStart at visible ⊢
  rw [List.dropWhile_append, if_neg (by simpa using visible)]

/-- Quoted text that does not end goes on in what follows it. -/
theorem quoted_append_of_open (opened : quoteOpen quote text = true) (after : List Char) :
    quoted quote (text ++ after) = (text ++ (quoted quote after).1, (quoted quote after).2) := by
  fun_induction quoteOpen quote text with
  | case1 => rfl
  | case2 c =>
    have other : (c == quote) = false := by simpa using opened
    cases after <;> simp [quoted, other]
  | case3 c d rest same twice ih => simp [quoted, same, twice, ih opened]
  | case4 => cases opened
  | case5 c d rest other ih =>
    have later := ih opened
    rw [List.cons_append] at later
    simp [quoted, other, later]

theorem exists_quoted_cons (quote c : Char) (rest : List Char) :
    ∃ more, (quoted quote (c :: rest)).1 = c :: more := by
  cases rest with
  | nil => exact ⟨[], rfl⟩
  | cons d rest =>
    rw [quoted]
    split
    · split <;> exact ⟨_, rfl⟩
    · exact ⟨_, rfl⟩

/-- Where the scan stops inside a text, it stops in front of another one. -/
theorem Passes.ofText_append_of_stops (passes : Passes 0 (Text.trimStart text) run depth left)
    (stops : Stops depth left) (early : left ≠ []) :
    behind text = left ∧ ∀ after, Bounds after → ofText (text ++ after) = ofText text := by
  have closed := passes.closed_of_ne_nil early
  have visible : Text.trimStart text ≠ [] := by
    rw [← passes.append_eq]
    exact List.append_ne_nil_of_right_ne_nil _ early
  obtain ⟨blanks, rfl, spaces⟩ := passes.exists_blanks stops.scan_eq_nil
  refine ⟨behind_eq (by simpa [ofText] using passes.append_eq) spaces stops, fun after bounds => ?_⟩
  have same : scan depth (left ++ after) = scan depth left := by
    rw [(stops.append bounds early).scan_eq_nil, stops.scan_eq_nil]
  rw [ofText, trimStart_append_of_visible visible, passes.scan_append_eq bounds closed same]
  rfl

/-- Where the scan goes through a text, it goes on in what follows. -/
theorem Passes.ofText_append_of_through
    (passes : Passes 0 (Text.trimStart text) (Text.trimStart text) depth [])
    (closed : (unquoted? (Text.trimStart text)).isSome = true)
    (visible : Text.trimStart text ≠ []) :
    behind text = [] ∧ ∀ after, Bounds after → ofText (text ++ after) =
      if scan depth after = [] then ofText text else Text.trimStart text ++ scan depth after := by
  obtain ⟨blanks, shape, spaces⟩ := passes.exists_blanks Stops.ended.scan_eq_nil
  refine ⟨behind_eq (by simpa [ofText] using shape.symm) spaces (Stops.ended : Stops depth []),
    fun after bounds => ?_⟩
  rw [ofText, trimStart_append_of_visible visible]
  split
  · rename_i nothing
    exact passes.scan_append_eq bounds closed (by simp [nothing, scan])
  · rename_i filled
    exact (passes.append bounds closed).scan_eq_append filled

/-- Where the scan finds a quote open at the end of a text, the quoted text goes on. -/
theorem Passes.ofText_append_of_quoting {front inside : List Char}
    (passes : Passes 0 (Text.trimStart text) front depth (quote :: inside))
    (quotes : isQuote quote = true) (opened : quoteOpen quote inside = true) :
    behind text = [] ∧ unquoted? (Text.trimStart text) = none ∧ ∀ after, Bounds after →
      ∃ more, ofText (text ++ after) = Text.trimStart text ++ ((quoted quote after).1 ++ more) := by
  have solid : isSpace quote = false := by
    rcases eq_of_isQuote quotes with rfl | rfl | rfl <;> decide
  have visible : Text.trimStart text ≠ [] := by
    rw [← passes.append_eq]
    simp
  have caught (after : List Char) : scan depth (quote :: (inside ++ after)) =
      quote :: (inside ++ ((quoted quote after).1 ++ scan depth (quoted quote after).2)) := by
    rw [scan, if_neg (by simp [solid]), if_pos quotes, quoted_append_of_open opened]
    simp
  have closed := passes.closed_of_ne_nil (by simp)
  obtain ⟨outside, tally⟩ := passes.exists_tally closed
  refine ⟨?_, ?_, fun after bounds => ⟨scan depth (quoted quote after).2, ?_⟩⟩
  · have alone : scan depth (quote :: inside) = quote :: inside := by
      have last := caught []
      rwa [List.append_nil, quoted, scan, List.append_nil, List.append_nil] at last
    have whole : ofText text = Text.trimStart text := by
      rw [ofText, passes.scan_eq_append (by simp [alone]), alone, passes.append_eq]
    simp [behind, whole]
  · rw [← passes.append_eq, tally.unquoted _ (by simp), unquoted?, if_pos quotes, if_pos opened]
    rfl
  · have whole := (passes.append bounds closed).scan_eq_append
      (by rw [List.cons_append, caught]; simp)
    rw [ofText, trimStart_append_of_visible visible, whole, List.cons_append, caught,
      ← passes.append_eq]
    simp

/-- What is declared at the head of a text that goes on: the type ends inside the text, or goes
through it and on behind it if the scan comes to something there. -/
theorem ofText_append (visible : Text.trimStart text ≠ []) (whole : isOpenAt text = false)
    (bounds : Bounds after) :
    ofText (text ++ after) =
      if behind text ≠ [] ∨ scan 0 after = [] then ofText text
      else Text.trimStart text ++ scan 0 after := by
  cases reach 0 (Text.trimStart text) with
  | stopped passes stops early =>
    obtain ⟨follows, same⟩ := passes.ofText_append_of_stops stops early
    rw [if_pos (.inl (follows ▸ early)), same after bounds]
  | @through depth passes closed =>
    have level : isOpen 0 (Text.trimStart text) = isOpen depth [] := passes.isOpen_eq closed
    obtain rfl : depth = 0 := by
      simpa [isOpenAt, whole, isOpen] using level.symm.trans whole
    obtain ⟨ended, taken⟩ := passes.ofText_append_of_through closed visible
    simp [taken after bounds, ended]
  | @quoting front depth quote inside passes quotes opened =>
    have level : isOpen 0 (Text.trimStart text) = isOpen depth (quote :: inside) :=
      passes.isOpen_eq (passes.closed_of_ne_nil (by simp))
    have caught : isOpen depth (quote :: inside) = true := by
      rcases eq_of_isQuote quotes with rfl | rfl | rfl <;> simp [isOpen, isSpace, isQuote, opened]
    exact absurd (level.trans caught) (by simpa [isOpenAt] using whole)

/-- What is declared at the head of a text that ends before its type does goes on behind it. -/
theorem exists_ofText_append_of_open (opened : isOpenAt text = true) (bounds : Bounds (c :: after))
    (begins : ∀ depth ≠ 0, ∃ more, scan depth (c :: after) = c :: more) :
    ∃ more, ofText (text ++ c :: after) = Text.trimStart text ++ c :: more := by
  have visible : Text.trimStart text ≠ [] := by
    intro nothing
    simp [isOpenAt, nothing, isOpen] at opened
  cases reach 0 (Text.trimStart text) with
  | @stopped run depth left passes stops early =>
    have level : isOpen 0 (Text.trimStart text) = isOpen depth left :=
      passes.isOpen_eq (passes.closed_of_ne_nil early)
    exact absurd (opened.symm.trans level) (by simp [stops.isOpen_eq early])
  | @through depth passes closed =>
    have level : isOpen 0 (Text.trimStart text) = isOpen depth [] := passes.isOpen_eq closed
    have inside : depth ≠ 0 := by simpa [isOpen] using level.symm.trans opened
    obtain ⟨more, filled⟩ := begins depth inside
    obtain ⟨-, taken⟩ := passes.ofText_append_of_through closed visible
    exact ⟨more, by simp [taken _ bounds, filled]⟩
  | @quoting front depth quote inside passes quotes opened =>
    obtain ⟨-, -, taken⟩ := passes.ofText_append_of_quoting quotes opened
    obtain ⟨more, whole⟩ := taken _ bounds
    obtain ⟨begun, first⟩ := exists_quoted_cons quote c after
    exact ⟨begun ++ more, by rw [whole, first]; simp⟩

end Following

end TableCatalog.DeclaredType
