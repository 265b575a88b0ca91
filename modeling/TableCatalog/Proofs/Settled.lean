import Mathlib.Data.List.TakeWhile
import TableCatalog.Token.Quoted

/-!
# Readers that depend on what they read alone

A reader that has found its value keeps finding it wherever the same characters stand,
whatever follows them of what did before. `Settled` says so of one outcome; how such outcomes
are put together follows from what a reader does first.
-/

namespace TableCatalog

namespace Cursor

@[simp]
theorem skip_one_cons (c : Char) (rest : List Char) (place : Location) :
    (Cursor.mk (c :: rest) place).skip 1 = ⟨rest, place.next c⟩ := rfl

@[simp]
theorem skip_two_cons (c d : Char) (rest : List Char) (place : Location) :
    (Cursor.mk (c :: d :: rest) place).skip 2 = ⟨rest, (place.next c).next d⟩ := rfl

@[simp]
theorem skip_three_cons (c d e : Char) (rest : List Char) (place : Location) :
    (Cursor.mk (c :: d :: e :: rest) place).skip 3 =
      ⟨rest, ((place.next c).next d).next e⟩ := rfl

/-- Skipping a run that the unread text begins with. -/
theorem skip_append {run rest : List Char} {count : Nat} (place : Location)
    (size : run.length = count) :
    (Cursor.mk (run ++ rest) place).skip count = ⟨rest, place.after run⟩ := by
  simp [skip, past, ← size]

/-- A span ends where the first character outside the class stands. -/
theorem span_run {run rest : List Char} {test : Char → Bool} (place : Location)
    (inside : ∀ c ∈ run, test c = true) (stops : ∀ c, rest.head? = some c → test c = false) :
    (Cursor.mk (run ++ rest) place).span test = (run, ⟨rest, place.after run⟩) := by
  have taken : (run ++ rest).takeWhile test = run := by
    rw [List.takeWhile_append_of_pos inside]
    cases rest with
    | nil => simp
    | cons c rest => simp [stops c rfl]
  have left : (run ++ rest).dropWhile test = rest := by
    rw [List.dropWhile_append_of_pos inside]
    cases rest with
    | nil => simp
    | cons c rest => simp [stops c rfl]
  simp [span, past, taken, left]

end Cursor

namespace Lexer

/-- Whether `kept` may stand where `follows` stood: a part of it from its beginning or, for
readers that a line feed stops, all of it with a terminator on the next line. -/
def Continues (line : Bool) (follows kept : List Char) : Prop :=
  kept <+: follows ∨ (line = true ∧ follows ++ ['\n', ';'] <+: kept)

variable {line : Bool} {follows kept : List Char}

theorem Continues.refl (line : Bool) (follows : List Char) : Continues line follows follows :=
  .inl (List.prefix_refl follows)

theorem Continues.nil (line : Bool) (follows : List Char) : Continues line follows [] :=
  .inl List.nil_prefix

/-- What may stand somewhere may stand there after the same run. -/
theorem Continues.append (continues : Continues line follows kept) (run : List Char) :
    Continues line (run ++ follows) (run ++ kept) := by
  rcases continues with part | ⟨allowed, whole⟩
  · exact .inl ((List.prefix_append_right_inj run).2 part)
  · exact .inr ⟨allowed, by simpa using whole⟩

/-- The character that comes next is the one that came next before, or a line feed. -/
theorem Continues.head? (continues : Continues line follows kept) {c : Char}
    (first : kept.head? = some c) : follows.head? = some c ∨ (line = true ∧ c = '\n') := by
  rcases continues with ⟨rest, rfl⟩ | ⟨allowed, rest, rfl⟩
  · cases kept with
    | nil => simp at first
    | cons d kept => exact .inl first
  · cases follows with
    | nil => exact .inr ⟨allowed, by simpa using first.symm⟩
    | cons d follows => exact .inl first

/-- A printed character that comes next came next before. -/
theorem Continues.printed_head? (continues : Continues line follows kept) {c : Char}
    (printed : c ≠ '\n') (first : kept.head? = some c) : follows.head? = some c := by
  rcases continues.head? first with same | ⟨-, ended⟩
  · exact same
  · exact absurd ended printed

/-- So does what stands behind it. -/
theorem Continues.of_cons {c : Char} (continues : Continues line follows (c :: kept))
    (printed : c ≠ '\n') : ∃ tail, follows = c :: tail ∧ Continues line tail kept := by
  rcases continues with ⟨rest, rfl⟩ | ⟨allowed, rest, shape⟩
  · exact ⟨kept ++ rest, rfl, .inl (List.prefix_append kept rest)⟩
  · cases follows with
    | nil =>
      obtain ⟨ended, -⟩ : '\n' = c ∧ _ := by simpa using shape
      exact absurd ended.symm printed
    | cons d follows =>
      obtain ⟨rfl, same⟩ := List.cons.inj shape
      exact ⟨follows, rfl, .inr ⟨allowed, rest, same⟩⟩

/-- A printed text that comes next came next before. -/
theorem Continues.prefix_of (continues : Continues line follows kept) {text : List Char}
    (printed : '\n' ∉ text) (standing : text <+: kept) : text <+: follows := by
  induction text generalizing follows kept with
  | nil => exact List.nil_prefix
  | cons c text ih =>
    obtain ⟨rest, rfl⟩ := standing
    obtain ⟨tail, rfl, inner⟩ := continues.of_cons fun same => printed (same ▸ List.mem_cons_self)
    have goesOn := ih inner (fun inside => printed (List.mem_cons_of_mem c inside))
      (List.prefix_append text rest)
    exact (List.cons_prefix_cons).2 ⟨rfl, goesOn⟩

/-- A mark that did not come next does not come next. -/
theorem Continues.head?_ne (continues : Continues line follows kept) {c : Char}
    (printed : c ≠ '\n') (differs : follows.head? ≠ some c) : kept.head? ≠ some c :=
  fun first => differs (continues.printed_head? printed first)

/-- A class of characters that stopped before what followed stops before what follows. -/
theorem Continues.stops (continues : Continues line follows kept) {test : Char → Bool}
    (outside : line = true → test '\n' = false)
    (stopped : ∀ c, follows.head? = some c → test c = false) :
    ∀ c, kept.head? = some c → test c = false := by
  intro c first
  rcases continues.head? first with same | ⟨allowed, rfl⟩
  · exact stopped c same
  · exact outside allowed

/-- A text begins with a run of bounded length of a class of characters; it is found again
before whatever may follow it. -/
theorem exists_bounded_run (test : Char → Bool) (outside : line = true → test '\n' = false)
    (count : Nat) (rest : List Char) :
    ∃ run tail, rest = run ++ tail ∧
      ∀ kept, Continues line tail kept → ((run ++ kept).take count).takeWhile test = run := by
  induction count generalizing rest with
  | zero => exact ⟨[], rest, rfl, fun kept _ => by simp⟩
  | succ count ih =>
    by_cases stopped : ∀ c, rest.head? = some c → test c = false
    · refine ⟨[], rest, rfl, fun kept continues => ?_⟩
      have stops := continues.stops outside stopped
      cases kept with
      | nil => rfl
      | cons c kept => simp [stops c rfl]
    · obtain ⟨c, leads⟩ := Classical.not_forall.1 stopped
      obtain ⟨first, inside⟩ := Classical.not_imp.1 leads
      obtain ⟨rest, rfl⟩ := List.head?_eq_some_iff.1 first
      obtain ⟨run, tail, rfl, found⟩ := ih rest
      have inside : test c = true := by simpa using inside
      exact ⟨c :: run, tail, rfl, fun kept continues => by simp [inside, found kept continues]⟩

/-- A text begins with the longest run of a class of characters. -/
theorem exists_run (test : Char → Bool) (text : List Char) :
    ∃ run tail, text = run ++ tail ∧ (∀ c ∈ run, test c = true) ∧
      ∀ c, tail.head? = some c → test c = false := by
  refine ⟨text.takeWhile test, text.dropWhile test, List.takeWhile_append_dropWhile.symm,
    fun c inside => List.mem_takeWhile_imp inside, fun c first => ?_⟩
  have stopped := List.head?_dropWhile_not test text
  simpa [first] using stopped

/-- That run is found again before whatever may follow it. -/
theorem exists_span (test : Char → Bool) (outside : line = true → test '\n' = false)
    (text : List Char) :
    ∃ run tail, text = run ++ tail ∧ ∀ kept place, Continues line tail kept →
      (Cursor.mk (run ++ kept) place).span test = (run, ⟨kept, place.after run⟩) := by
  obtain ⟨run, tail, shape, inside, stopped⟩ := exists_run test text
  exact ⟨run, tail, shape, fun kept place continues =>
    Cursor.span_run place inside (continues.stops outside stopped)⟩

/-- Two readers one after the other succeed if both do. -/
theorem bind_eq_ok {ε α β : Type} {first : Except ε α} {second : α → Except ε β} {result : β} :
    (first >>= second) = .ok result ↔ ∃ value, first = .ok value ∧ second value = .ok result := by
  cases first with
  | error fault => simp [bind, Except.bind]
  | ok value => simp [bind, Except.bind]

/-- An outcome that stands: the reader goes over a run of characters, and wherever the run
stands before a text that may follow it, the reader gives the same and leaves that text. -/
def Settled {α : Type} (line : Bool) (gives : Cursor → α × Cursor → Prop) (cursor : Cursor)
    (value : α) (after : Cursor) : Prop :=
  ∃ run, cursor.rest = run ++ after.rest ∧
    ∀ kept place, Continues line after.rest kept →
      gives ⟨run ++ kept, place⟩ (value, ⟨kept, place.after run⟩)

variable {α β : Type} {gives : Cursor → α × Cursor → Prop} {inner : Cursor → β × Cursor → Prop}
  {value : α} {found : β} {after : Cursor} {place : Location}

/-- An outcome stands if what is read first leads to one that does. -/
theorem Settled.lead {run rest : List Char}
    (settled : Settled line inner ⟨rest, place.after run⟩ found after)
    (lifts : ∀ rest place after, inner ⟨rest, place.after run⟩ (found, after) →
      gives ⟨run ++ rest, place⟩ (value, after)) :
    Settled line gives ⟨run ++ rest, place⟩ value after := by
  obtain ⟨tail, shape, stands⟩ := settled
  have whole : rest = tail ++ after.rest := shape
  refine ⟨run ++ tail, by simp [whole], fun kept place continues => ?_⟩
  rw [List.append_assoc, Location.after_append]
  exact lifts _ _ _ (stands kept (place.after run) continues)

/-- `Settled.lead` for a single character. -/
theorem Settled.cons {c : Char} {rest : List Char}
    (settled : Settled line inner ⟨rest, place.next c⟩ found after)
    (lifts : ∀ rest place after, inner ⟨rest, place.next c⟩ (found, after) →
      gives ⟨c :: rest, place⟩ (value, after)) :
    Settled line gives ⟨c :: rest, place⟩ value after := by
  change Settled line gives ⟨[c] ++ rest, place⟩ value after
  exact Settled.lead settled lifts

/-- `Settled.lead` for two characters. -/
theorem Settled.cons₂ {c d : Char} {rest : List Char}
    (settled : Settled line inner ⟨rest, (place.next c).next d⟩ found after)
    (lifts : ∀ rest place after, inner ⟨rest, (place.next c).next d⟩ (found, after) →
      gives ⟨c :: d :: rest, place⟩ (value, after)) :
    Settled line gives ⟨c :: d :: rest, place⟩ value after := by
  change Settled line gives ⟨[c, d] ++ rest, place⟩ value after
  exact Settled.lead settled lifts

/-- A reader that stops after a character it does not look beyond. -/
theorem Settled.char {c : Char} {rest : List Char}
    (stands : ∀ kept place, Continues line rest kept →
      gives ⟨c :: kept, place⟩ (value, ⟨kept, place.next c⟩)) :
    Settled line gives ⟨c :: rest, place⟩ value ⟨rest, place.next c⟩ :=
  ⟨[c], rfl, stands⟩

/-! ### Readers that take steps

Such a reader gives its result in any number of steps that goes over the text. -/

variable {ρ : Type} {wrap : α × Cursor → ρ} {reads reads' : Nat → Cursor → ρ} {c d : Char}
  {rest : List Char}

/-- `Settled.cons` for one step over the character. -/
theorem Settled.step
    (settled : Settled line (fun cursor result => ∀ fuel, cursor.rest.length ≤ fuel →
      reads' fuel cursor = wrap result) ⟨rest, place.next c⟩ value after)
    (steps : ∀ fuel rest place result, reads' fuel ⟨rest, place.next c⟩ = wrap result →
      reads (fuel + 1) ⟨c :: rest, place⟩ = wrap result) :
    Settled line (fun cursor result => ∀ fuel, cursor.rest.length ≤ fuel →
      reads fuel cursor = wrap result) ⟨c :: rest, place⟩ value after := by
  refine settled.cons fun rest place after inside fuel enough => ?_
  cases fuel with
  | zero => simp at enough
  | succ fuel => exact steps fuel rest place _ (inside fuel (by simpa using enough))

/-- `Settled.cons₂` for one step over the two characters. -/
theorem Settled.step₂
    (settled : Settled line (fun cursor result => ∀ fuel, cursor.rest.length ≤ fuel →
      reads' fuel cursor = wrap result) ⟨rest, (place.next c).next d⟩ value after)
    (steps : ∀ fuel rest place result, reads' fuel ⟨rest, (place.next c).next d⟩ = wrap result →
      reads (fuel + 1) ⟨c :: d :: rest, place⟩ = wrap result) :
    Settled line (fun cursor result => ∀ fuel, cursor.rest.length ≤ fuel →
      reads fuel cursor = wrap result) ⟨c :: d :: rest, place⟩ value after := by
  refine settled.cons₂ fun rest place after inside fuel enough => ?_
  cases fuel with
  | zero => simp at enough
  | succ fuel =>
    exact steps fuel rest place _ (inside fuel (by simp only [List.length_cons] at enough ⊢; omega))

/-- `Settled.char` for one step. -/
theorem Settled.lastStep
    (stands : ∀ fuel kept place, Continues line rest kept →
      reads (fuel + 1) ⟨c :: kept, place⟩ = wrap (value, ⟨kept, place.next c⟩)) :
    Settled line (fun cursor result => ∀ fuel, cursor.rest.length ≤ fuel →
      reads fuel cursor = wrap result) ⟨c :: rest, place⟩ value ⟨rest, place.next c⟩ := by
  refine Settled.char fun kept place continues fuel enough => ?_
  cases fuel with
  | zero => simp at enough
  | succ fuel => exact stands fuel kept place continues

end Lexer

end TableCatalog
