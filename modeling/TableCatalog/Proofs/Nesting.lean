import Mathlib.Data.List.Infix
import TableCatalog.Proofs.TypePasses

/-!
# Brackets of a type

Outside its quoted text a type has brackets, which any other brackets may close. The passes of
the scan count them: each pass adds what it takes up to the count, and quoted text counts for
nothing.
-/

namespace TableCatalog.DeclaredType

variable {c quote : Char} {depth depth' : Nat} {text rest left piece run more : List Char}

section Quotes

/-- Quoted text that ends is the same whatever follows, if it is no further quote. -/
theorem quoted_of_closed (closed : quoteOpen quote text = false)
    (apart : more.head? ≠ some quote) :
    quoted quote ((quoted quote text).1 ++ more) = ((quoted quote text).1, more) ∧
      quoteOpen quote ((quoted quote text).1 ++ more) = false := by
  fun_induction quoted quote text with
  | case1 => simp [quoteOpen] at closed
  | case2 c =>
    obtain rfl : c = quote := by simpa [quoteOpen] using closed
    cases more with
    | nil => simp [quoted, quoteOpen]
    | cons d more => simp_all [quoted, quoteOpen]
  | case3 c d rest same twice inside after shape ih =>
    simp only [quoteOpen, same, twice, if_true] at closed
    simp_all [quoted, quoteOpen]
  | case4 c d rest same single =>
    cases more with
    | nil => simp_all [quoted, quoteOpen]
    | cons e more => simp_all [quoted, quoteOpen]
  | case5 c d rest other inside after shape ih =>
    simp only [quoteOpen, other, Bool.false_eq_true, if_false] at closed
    have later := ih closed
    have begins : inside ≠ [] := by simpa [shape] using quoted_cons_ne_nil quote d rest
    obtain ⟨e, inside, rfl⟩ := List.exists_cons_of_ne_nil begins
    simp_all [quoted, quoteOpen]

/-- Quoted text ends with its quote, and what follows it begins with no further one. -/
theorem ends_of_closed (closed : quoteOpen quote text = false) :
    (quoted quote text).1.getLast? = some quote ∧ (quoted quote text).2.head? ≠ some quote := by
  fun_induction quoted quote text with
  | case1 => simp [quoteOpen] at closed
  | case2 c =>
    obtain rfl : c = quote := by simpa [quoteOpen] using closed
    simp
  | case3 c d rest same twice inside after shape ih =>
    simp only [quoteOpen, same, twice, if_true] at closed
    simp_all [List.getLast?_cons]
  | case4 c d rest same single => simp_all
  | case5 c d rest other inside after shape ih =>
    simp only [quoteOpen, other, Bool.false_eq_true, if_false] at closed
    simp_all [List.getLast?_cons]

/-- The text outside all quoted text; none if a quote stays open. -/
def unquoted? : List Char → Option (List Char)
  | [] => some []
  | c :: rest =>
    if isQuote c then if quoteOpen c rest then none else unquoted? (quoted c rest).2
    else (unquoted? rest).map (c :: ·)
  termination_by text => text.length
  decreasing_by
    all_goals
      have quotedLength := length_quoted_snd_le c rest
      simp only [List.length_cons]
      omega

/-- The quote that begins a text ends if all of its quotes do. -/
theorem closed_of_unquoted? (quotes : isQuote c = true)
    (closed : (unquoted? (c :: (quoted c text).1)).isSome = true) : quoteOpen c text = false := by
  refine Bool.eq_false_iff.2 fun opened => ?_
  obtain ⟨whole, -⟩ := quoted_of_open opened []
  rw [whole, unquoted?, if_pos quotes, if_pos opened] at closed
  cases closed

theorem unquoted?_nil : unquoted? [] = some [] := by
  rw [unquoted?]

/-- Quoted text is left out. -/
theorem unquoted?_quoted (quotes : isQuote c = true) (closed : quoteOpen c text = false)
    (apart : more.head? ≠ some c) :
    unquoted? (c :: ((quoted c text).1 ++ more)) = unquoted? more := by
  obtain ⟨whole, ends⟩ := quoted_of_closed closed apart
  rw [unquoted?, if_pos quotes, ends, whole]
  rfl

/-- Text without a quote stays. -/
theorem unquoted?_append (plain : ∀ c ∈ piece, isQuote c = false) (more : List Char) :
    unquoted? (piece ++ more) = (unquoted? more).map (piece ++ ·) := by
  induction piece with
  | nil => simp
  | cons c piece ih =>
    obtain ⟨first, later⟩ := List.forall_mem_cons.1 plain
    rw [List.cons_append, unquoted?, if_neg (by simp [first]), ih later, Option.map_map]
    rfl

theorem isSome_unquoted? (plain : ∀ c ∈ text, isQuote c = false) :
    (unquoted? text).isSome = true := by
  have whole := unquoted?_append plain []
  rw [List.append_nil, unquoted?_nil] at whole
  simp [whole]

end Quotes

section Brackets

/-- Brackets that nest: as many are closed as are opened, and up to no point more of them. -/
structure Nested (text : List Char) : Prop where
  settled : text.countP isClosing = text.countP isOpening
  sane : ∀ front, front <+: text → front.countP isClosing ≤ front.countP isOpening

/-- A text whose quotes end and whose brackets outside of them nest. -/
def Balanced (text : List Char) : Prop :=
  ∃ outside, unquoted? text = some outside ∧ Nested outside

instance (text : List Char) : Decidable (Nested text) :=
  decidable_of_iff
    (text.countP isClosing = text.countP isOpening ∧
      ∀ front ∈ text.inits, front.countP isClosing ≤ front.countP isOpening)
    ⟨fun nests => ⟨nests.1, fun front part => nests.2 front ((List.mem_inits front text).2 part)⟩,
      fun nests => ⟨nests.settled, fun front part =>
        nests.sane front ((List.mem_inits front text).1 part)⟩⟩

instance (text : List Char) : Decidable (Balanced text) :=
  decidable_of_iff (∃ outside ∈ unquoted? text, Nested outside) Iff.rfl

/-- What the passes over a text say of its brackets: which text stands outside quotes, whatever
follows in place of `left`, how the open brackets before and behind it come together, and that
no more of them are closed than were open. -/
structure Tally (run : List Char) (depth depth' : Nat) (left outside : List Char) : Prop where
  unquoted : ∀ more, (∀ c ∈ more.head?, left.head? = some c) →
    unquoted? (run ++ more) = (unquoted? more).map (outside ++ ·)
  settled : outside.countP isOpening + depth = outside.countP isClosing + depth'
  sane : ∀ front, front <+: outside → front.countP isClosing ≤ front.countP isOpening + depth

/-- A character of its own is passed over with the count of brackets that it leaves. -/
theorem tally_singleton (plain : isQuote c = false)
    (settled : [c].countP isOpening + depth = [c].countP isClosing + depth')
    (sane : [c].countP isClosing ≤ [c].countP isOpening + depth) :
    Tally [c] depth depth' left [c] where
  unquoted more _ := unquoted?_append (by simpa using plain) more
  settled := settled
  sane front part := by
    rcases List.prefix_cons_iff.1 part with rfl | ⟨front, rfl, nothing⟩
    · simp
    · rwa [List.prefix_nil.1 nothing]

/-- Words and other text without quotes and brackets count for nothing. -/
theorem tally_plain (plain : ∀ c ∈ run, isQuote c = false ∧ isOpening c = false ∧ isClosing c = false) :
    Tally run depth depth left run where
  unquoted more _ := unquoted?_append (fun c inside => (plain c inside).1) more
  settled := by
    rw [List.countP_eq_zero.2 fun c inside => by simp [(plain c inside).2.1],
      List.countP_eq_zero.2 fun c inside => by simp [(plain c inside).2.2]]
  sane front part := by
    rw [List.countP_eq_zero.2 fun c inside => by simp [(plain c (part.subset inside)).2.2]]
    exact Nat.zero_le _

theorem word_parts (part : isWordPart c = true) :
    ∀ d ∈ c :: text.takeWhile isWordPart, isWordPart d = true := by
  intro d inside
  rcases List.mem_cons.1 inside with rfl | later
  · exact part
  · exact List.all_eq_true.1 List.all_takeWhile d later

theorem word_plain (part : isWordPart c = true) :
    ∀ d ∈ c :: text.takeWhile isWordPart,
      isQuote d = false ∧ isOpening d = false ∧ isClosing d = false := by
  intro d inside
  obtain ⟨-, quotes, opens, closes, -⟩ := kinds_of_isWordPart (word_parts part d inside)
  exact ⟨quotes, opens, closes⟩

/-- A pass leaves no quote open, or it is caught in one up to the end of the text. -/
theorem Pass.closed_or (pass : Pass depth text piece depth' rest) :
    (unquoted? piece).isSome = true ∨
      ∃ quote inside, text = quote :: inside ∧ isQuote quote = true ∧
        quoteOpen quote inside = true ∧ rest = [] := by
  cases pass with
  | blank space =>
    refine .inl (isSome_unquoted? ?_)
    rcases eq_of_isSpace space with rfl | rfl | rfl | rfl <;> decide
  | @quoted c _ text quotes =>
    cases ends : quoteOpen c text with
    | true => exact .inr ⟨c, text, rfl, quotes, ends, by rw [(quoted_of_open ends []).1]⟩
    | false =>
      have alone : unquoted? (c :: ((DeclaredType.quoted c text).1 ++ [])) = unquoted? [] :=
        unquoted?_quoted quotes ends (by simp)
      rw [List.append_nil] at alone
      exact .inl (by rw [alone, unquoted?_nil]; rfl)
  | opening opens =>
    refine .inl (isSome_unquoted? ?_)
    rcases eq_of_isOpening opens with rfl | rfl | rfl <;> decide
  | closing closes =>
    refine .inl (isSome_unquoted? ?_)
    rcases eq_of_isClosing closes with rfl | rfl | rfl <;> decide
  | word part plain => exact .inl (isSome_unquoted? fun d inside => (word_plain part d inside).1)
  | other space quotes => exact .inl (isSome_unquoted? (by simpa using quotes))

/-- A pass that something follows leaves no quote open. -/
theorem Pass.closed_of_ne_nil (pass : Pass depth text piece depth' rest) (follows : rest ≠ []) :
    (unquoted? piece).isSome = true := by
  rcases pass.closed_or with closed | ⟨quote, inside, -, -, -, nothing⟩
  · exact closed
  · exact absurd nothing follows

/-- A pass that leaves no quote open counts the brackets that it takes. -/
theorem Pass.exists_tally (pass : Pass depth text piece depth' rest)
    (closed : (unquoted? piece).isSome = true) :
    ∃ outside, Tally piece depth depth' rest outside := by
  cases pass with
  | blank space =>
    refine ⟨_, tally_plain ?_⟩
    rcases eq_of_isSpace space with rfl | rfl | rfl | rfl <;> decide
  | @quoted c _ text quotes =>
    have ends := closed_of_unquoted? quotes closed
    obtain ⟨-, apart⟩ := ends_of_closed ends
    refine ⟨[], ⟨fun more same => ?_, by simp, by simp⟩⟩
    have further : more.head? ≠ some c := fun again => apart (same c again)
    rw [List.cons_append, unquoted?_quoted quotes ends further]
    simp
  | opening opens =>
    refine ⟨_, tally_singleton ?_ ?_ ?_⟩ <;>
      rcases eq_of_isOpening opens with rfl | rfl | rfl <;>
      simp [isQuote, isOpening, isClosing, Nat.add_comm]
  | closing closes =>
    refine ⟨_, tally_singleton ?_ ?_ ?_⟩ <;>
      rcases eq_of_isClosing closes with rfl | rfl | rfl <;>
      simp [isQuote, isOpening, isClosing, Nat.add_comm]
  | @word c _ text part plain =>
    exact ⟨_, tally_plain (word_plain part)⟩
  | other space quotes opens closes goesOn comment part =>
    exact ⟨_, tally_plain (by simp [quotes, opens, closes])⟩

/-- A run of passes that leaves no quote open is a pass that leaves none and such a run. -/
theorem Pass.closed_of_append {run : List Char} (pass : Pass depth text piece depth' (run ++ left))
    (closed : (unquoted? (piece ++ run)).isSome = true) :
    (unquoted? piece).isSome = true ∧ (unquoted? run).isSome = true := by
  by_cases last : run ++ left = []
  · obtain ⟨rfl, -⟩ := List.append_eq_nil_iff.1 last
    exact ⟨by simpa using closed, by simp [unquoted?_nil]⟩
  · have first := pass.closed_of_ne_nil last
    obtain ⟨outside, tally⟩ := pass.exists_tally first
    refine ⟨first, ?_⟩
    have apart : ∀ c ∈ run.head?, (run ++ left).head? = some c := by
      cases run <;> simp
    simpa [tally.unquoted run apart] using closed

/-- Two texts one after the other are counted one after the other. -/
theorem Tally.append {second outside outside' : List Char} {depth'' : Nat}
    (first : Tally piece depth depth' (second ++ left) outside)
    (later : Tally second depth' depth'' left outside') :
    Tally (piece ++ second) depth depth'' left (outside ++ outside') where
  unquoted more same := by
    have apart : ∀ c ∈ (second ++ more).head?, (second ++ left).head? = some c := by
      cases second with
      | nil => exact same
      | cons d second => simp
    rw [List.append_assoc, first.unquoted _ apart, later.unquoted more same, Option.map_map]
    simp [Function.comp_def]
  settled := by
    have here := first.settled
    have there := later.settled
    simp only [List.countP_append]
    omega
  sane front part := by
    rcases List.prefix_or_prefix_of_prefix part (List.prefix_append outside outside') with
      inside | ⟨rest, rfl⟩
    · exact first.sane front inside
    · have here := first.settled
      have there := later.sane rest ((List.prefix_append_right_inj outside).1 part)
      simp only [List.countP_append]
      omega

/-- The passes over a text that leave no quote open count all its brackets. -/
theorem Passes.exists_tally (passes : Passes depth text run depth' left)
    (closed : (unquoted? run).isSome = true) :
    ∃ outside, Tally run depth depth' left outside := by
  induction passes with
  | refl => exact ⟨[], tally_plain (by simp)⟩
  | step pass more ih =>
    rw [← more.append_eq] at pass
    obtain ⟨first, later⟩ := pass.closed_of_append closed
    obtain ⟨outside, tally⟩ := pass.exists_tally first
    obtain ⟨outside', tally'⟩ := ih later
    exact ⟨_, tally.append tally'⟩

/-- Passes that something follows leave no quote open. -/
theorem Passes.closed_of_ne_nil (passes : Passes depth text run depth' left) (follows : left ≠ []) :
    (unquoted? run).isSome = true := by
  induction passes with
  | refl => simp [unquoted?_nil]
  | @step _ _ piece _ middle run _ left pass more ih =>
    have middle := more.append_eq
    have first := pass.closed_of_ne_nil (middle ▸ List.append_ne_nil_of_right_ne_nil _ follows)
    obtain ⟨outside, tally⟩ := pass.exists_tally first
    rw [tally.unquoted run (by rw [← middle]; cases run <;> simp)]
    simpa using ih follows

theorem Tally.unquoted?_eq {outside : List Char} (tally : Tally run depth depth' left outside) :
    unquoted? run = some outside := by
  have alone := tally.unquoted [] (by simp)
  simpa [unquoted?_nil] using alone

/-- What is passed over is balanced if no bracket is open behind it. -/
theorem Tally.balanced_iff {outside : List Char} (tally : Tally run 0 depth left outside) :
    Balanced run ↔ depth = 0 := by
  have whole := tally.unquoted?_eq
  have settled := tally.settled
  constructor
  · rintro ⟨other, same, nested⟩
    obtain rfl := Option.some.inj (whole.symm.trans same)
    have even := nested.settled
    omega
  · rintro rfl
    exact ⟨outside, whole, by omega, fun front part => by simpa using tally.sane front part⟩

end Brackets

end TableCatalog.DeclaredType
