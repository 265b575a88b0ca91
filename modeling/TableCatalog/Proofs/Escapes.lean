import TableCatalog.Proofs.Quoted

/-!
# Escaped constants are read for themselves

A constant with backslash sequences or Unicode escapes depends on the text up to its closing
quote alone. An escape is read from its own characters: none of its digits is a line feed, and
where digits are missing the constant is not read at all.
-/

namespace TableCatalog.Quoted

open Lexer

variable (line : Bool) {rest content : List Char} {place : Location} {read : List Char}
  {after : Cursor}

theorem hexDigit?_feed : (hexDigit? '\n').isSome = false := by decide

theorem isOctalDigit_feed : isOctalDigit '\n' = false := by decide

/-- A Unicode escape needs all of its digits. -/
theorem unicodeEscape_short {count : Nat} {rest : List Char} (short : rest.length < count) :
    unicodeEscape count rest = none := by
  have taken : rest.take count = rest := List.take_of_length_le (by omega)
  simp [unicodeEscape, taken, short]

/-- A Unicode escape is read from its digits alone. -/
theorem unicodeEscape_append {count : Nat} {run : List Char} (size : run.length = count)
    (kept : List Char) :
    unicodeEscape count (run ++ kept) =
      (unicodeEscape count run).map fun found => (found.1, kept) := by
  have taken : (run ++ kept).take count = run := List.take_left' size
  have left : (run ++ kept).drop count = kept := List.drop_left' size
  have whole : run.take count = run := List.take_of_length_le (by omega)
  simp only [unicodeEscape, taken, left, whole]
  split
  all_goals
    split
    · rfl
    · simp only [Option.bind_eq_bind, Option.map_bind, Function.comp_def, Option.map_some]

/-- A numbered escape stands after its last digit. -/
theorem unicodeEscape_settled {count : Nat} {rest rest' : List Char} {c : Char}
    (found : unicodeEscape count rest = some (c, rest')) :
    ∃ run, rest = run ++ rest' ∧ ∀ kept, unicodeEscape count (run ++ kept) = some (c, kept) := by
  by_cases short : rest.length < count
  · simp [unicodeEscape_short short] at found
  · have size : (rest.take count).length = count := by simp; omega
    have shape := List.take_append_drop count rest
    rw [← shape, unicodeEscape_append size] at found
    obtain ⟨⟨d, left⟩, digits, same⟩ := Option.map_eq_some_iff.1 found
    obtain ⟨rfl, rfl⟩ := by simpa using same
    refine ⟨rest.take count, shape.symm, fun kept => ?_⟩
    rw [unicodeEscape_append size, digits]
    rfl

/-- A sequence after a backslash stands; a numbered one may end before a character that is
no digit. -/
theorem escapeSequence_settled {rest rest' : List Char} {d : Char}
    (found : escapeSequence rest = some (d, rest')) :
    ∃ run, rest = run ++ rest' ∧ ∀ kept, Continues line rest' kept →
      escapeSequence (run ++ kept) = some (d, kept) := by
  cases rest with
  | nil => simp [escapeSequence] at found
  | cons c rest =>
    simp only [escapeSequence] at found
    obtain ⟨inner, visible⟩ := Option.filter_eq_some_iff.1 found
    split at inner
    case h_6 =>
      obtain ⟨run, rfl, stands⟩ := unicodeEscape_settled inner
      exact ⟨'u' :: run, rfl, fun kept _ => by simp_all [escapeSequence]⟩
    case h_7 =>
      obtain ⟨run, rfl, stands⟩ := unicodeEscape_settled inner
      exact ⟨'U' :: run, rfl, fun kept _ => by simp_all [escapeSequence]⟩
    case h_8 =>
      obtain ⟨run, tail, rfl, stands⟩ :=
        exists_bounded_run (fun e => (hexDigit? e).isSome) (fun _ : line = true => hexDigit?_feed)
          2 rest
      rw [stands tail (Continues.refl line tail)] at inner
      cases run with
      | nil =>
        obtain ⟨rfl, rfl⟩ := by simpa using inner
        refine ⟨['x'], rfl, fun kept continues => ?_⟩
        have same := stands kept continues
        simp_all [escapeSequence]
      | cons e run =>
        obtain ⟨f, value, same⟩ := Option.map_eq_some_iff.1 inner
        obtain ⟨rfl, rfl⟩ := by simpa using same
        refine ⟨'x' :: e :: run, rfl, fun kept continues => ?_⟩
        have same := stands kept continues
        simp only [List.cons_append] at same
        simp_all [escapeSequence]
    case h_9 =>
      split at inner
      · rename_i octal
        obtain ⟨run, tail, rfl, stands⟩ :=
          exists_bounded_run isOctalDigit (fun _ : line = true => isOctalDigit_feed) 2 rest
        rw [stands tail (Continues.refl line tail)] at inner
        obtain ⟨f, value, same⟩ := Option.map_eq_some_iff.1 inner
        obtain ⟨rfl, rfl⟩ := by simpa using same
        refine ⟨c :: run, rfl, fun kept continues => ?_⟩
        have same := stands kept continues
        simp_all [escapeSequence]
      · obtain ⟨rfl, rfl⟩ := by simpa using inner
        exact ⟨[c], rfl, fun kept _ => by simp_all [escapeSequence]⟩
    all_goals
      obtain ⟨rfl, rfl⟩ := by simpa using inner
      exact ⟨[_], rfl, fun kept _ => by simp [escapeSequence]⟩

variable {rest content read : List Char} {place : Location} {cursor after : Cursor}

/-- A single quote closes a constant with backslash sequences. -/
theorem sequences_close {fuel : Nat} (single : rest.head? ≠ some '\'') :
    sequences (fuel + 1) ⟨'\'' :: rest, place⟩ read =
      some (read.reverse, ⟨rest, place.next '\''⟩) := by
  cases rest with
  | nil => simp [sequences]
  | cons d rest =>
    have differs : d ≠ '\'' := by simpa using single
    simp [sequences, differs]

/-- A constant with backslash sequences stands up to its closing mark, in any number of
steps that goes over its characters. -/
theorem settled_sequences {fuel : Nat}
    (found : sequences fuel cursor read = some (content, after)) :
    Settled line
      (fun cursor result => ∀ fuel, cursor.rest.length ≤ fuel →
        sequences fuel cursor read = some result) cursor content after := by
  fun_induction sequences fuel cursor read with
  | case1 => simp at found
  | case2 => simp at found
  | case3 fuel cursor read rest shape ih =>
    obtain ⟨_, place⟩ := cursor
    subst shape
    refine (ih found).step₂ fun fuel rest place result inside => ?_
    simpa [sequences] using inside
  | case4 fuel cursor read rest single shape =>
    obtain ⟨_, place⟩ := cursor
    subst shape
    obtain ⟨rfl, rfl⟩ := by simpa using found
    have single : rest.head? ≠ some '\'' := fun first => by
      obtain ⟨tail, rfl⟩ := List.head?_eq_some_iff.1 first
      exact single tail rfl
    refine Settled.lastStep fun fuel kept place continues => ?_
    exact sequences_close (continues.head?_ne (by decide) single)
  | case5 => simp at found
  | case6 fuel cursor read rest shape d tail escape ih =>
    obtain ⟨_, place⟩ := cursor
    subst shape
    obtain ⟨run, rfl, stands⟩ := escapeSequence_settled line escape
    have skipped (kept : List Char) (place : Location) :
        (Cursor.mk ('\\' :: (run ++ kept)) place).skip (1 + run.length) =
          ⟨kept, place.after ('\\' :: run)⟩ := by
      rw [← List.cons_append]
      exact Cursor.skip_append place (by simp; omega)
    have size : (run ++ tail).length - tail.length = run.length := by simp
    rw [size, skipped] at ih found
    obtain ⟨more, shape, inside⟩ := ih found
    have shape : tail = more ++ after.rest := shape
    refine ⟨'\\' :: run ++ more, by simp [shape], fun kept place continues fuel enough => ?_⟩
    cases fuel with
    | zero => simp at enough
    | succ fuel =>
      have escape := stands (more ++ kept) (shape ▸ continues.append more)
      have content := inside kept (place.after ('\\' :: run)) continues fuel
        (by simp at enough ⊢; omega)
      rw [Location.after_append, List.append_assoc, ← content, ← skipped (more ++ kept) place]
      simp [sequences, escape]
  | case7 fuel cursor read c rest twice quote escape shape ih =>
    obtain ⟨_, place⟩ := cursor
    subst shape
    refine (ih found).step fun fuel rest place result inside => ?_
    simp_all [sequences]

/-- Digits after a Unicode escape stand, as their number is given. -/
theorem settled_unicodeDigits {count value : Nat} {c : Char}
    (found : unicodeDigits count value cursor = .ok (c, after)) :
    Settled line (fun cursor result => unicodeDigits count value cursor = .ok result)
      cursor c after := by
  induction count generalizing value cursor with
  | zero =>
    rw [unicodeDigits] at found
    split at found
    · rename_i scalar
      obtain ⟨rfl, rfl⟩ := by simpa using found
      refine ⟨[], rfl, fun kept place _ => ?_⟩
      simp [unicodeDigits, scalar, Location.after_nil]
    · simp at found
  | succ count ih =>
    obtain ⟨rest, place⟩ := cursor
    cases rest with
    | nil => simp [unicodeDigits] at found
    | cons d rest =>
      cases digit : hexDigit? d with
      | none => simp [unicodeDigits, digit] at found
      | some value' =>
        have found : unicodeDigits count (value * 16 + value') ⟨rest, place.next d⟩ =
            .ok (c, after) := by simpa [unicodeDigits, digit] using found
        refine Settled.cons (ih found) fun rest place after inside => ?_
        simpa [unicodeDigits, digit] using inside

/-- A single quote closes a constant with Unicode escapes. -/
theorem unicode_close {fuel : Nat} (single : rest.head? ≠ some '\'') :
    unicode (fuel + 1) ⟨'\'' :: rest, place⟩ read =
      .ok (read.reverse, ⟨rest, place.next '\''⟩) := by
  cases rest with
  | nil => simp [unicode]
  | cons d rest =>
    have differs : d ≠ '\'' := by simpa using single
    simp [unicode, differs]

/-- An escape whose digits can be read has the short form, as no mark of another form is a
digit. -/
theorem unicode_short {fuel : Nat} {result : List Char × Cursor}
    (found : (unicodeDigits 4 0 ⟨rest, place.next '\\'⟩ >>=
      fun found => unicode fuel found.2 (found.1 :: read)) = .ok result) :
    unicode (fuel + 1) ⟨'\\' :: rest, place⟩ read = .ok result := by
  obtain ⟨⟨c, inner⟩, digits, -⟩ := bind_eq_ok.1 found
  cases rest with
  | nil => simp [unicodeDigits] at digits
  | cons d rest =>
    have printed : d ≠ '\\' ∧ d ≠ '+' := by
      constructor <;> rintro rfl <;> simp [unicodeDigits, hexDigit?] at digits
    simpa [unicode, printed] using found

/-- An escape and what goes on after it stand together. -/
theorem settled_escape {count : Nat} {c : Char} {inner : Cursor}
    (digits : unicodeDigits count 0 cursor = .ok (c, inner))
    (more : Settled line
      (fun cursor result => ∀ fuel, cursor.rest.length ≤ fuel →
        unicode fuel cursor (c :: read) = .ok result) inner content after) :
    Settled line
      (fun cursor result => ∀ fuel, cursor.rest.length ≤ fuel →
        (unicodeDigits count 0 cursor >>= fun found => unicode fuel found.2 (found.1 :: read)) =
          .ok result) cursor content after := by
  obtain ⟨run, shape, stands⟩ := settled_unicodeDigits line digits
  obtain ⟨tail, shape', goesOn⟩ := more
  refine ⟨run ++ tail, by simp [shape, shape'], fun kept place continues fuel enough => ?_⟩
  have first := stands (tail ++ kept) place (shape' ▸ continues.append tail)
  have second := goesOn kept (place.after run) continues fuel (by simp at enough ⊢; omega)
  rw [Location.after_append, List.append_assoc]
  exact bind_eq_ok.2 ⟨_, first, second⟩

/-- A constant with Unicode escapes stands up to its closing mark, in any number of steps
that goes over its characters. -/
theorem settled_unicode {fuel : Nat} (found : unicode fuel cursor read = .ok (content, after)) :
    Settled line
      (fun cursor result => ∀ fuel, cursor.rest.length ≤ fuel →
        unicode fuel cursor read = .ok result) cursor content after := by
  fun_induction unicode fuel cursor read with
  | case1 => simp at found
  | case2 => simp at found
  | case3 fuel cursor read rest shape ih =>
    obtain ⟨_, place⟩ := cursor
    subst shape
    refine (ih found).step₂ fun fuel rest place result inside => ?_
    simpa [unicode] using inside
  | case4 fuel cursor read rest single shape =>
    obtain ⟨_, place⟩ := cursor
    subst shape
    obtain ⟨rfl, rfl⟩ := by simpa using found
    have single : rest.head? ≠ some '\'' := fun first => by
      obtain ⟨tail, rfl⟩ := List.head?_eq_some_iff.1 first
      exact single tail rfl
    refine Settled.lastStep fun fuel kept place continues => ?_
    exact unicode_close (continues.head?_ne (by decide) single)
  | case5 fuel cursor read rest shape ih =>
    obtain ⟨_, place⟩ := cursor
    subst shape
    refine (ih found).step₂ fun fuel rest place result inside => ?_
    simpa [unicode] using inside
  | case6 fuel cursor read rest shape ih =>
    obtain ⟨_, place⟩ := cursor
    subst shape
    obtain ⟨⟨d, inner⟩, digits, found⟩ := bind_eq_ok.1 found
    have escape := settled_escape line digits (ih d inner found)
    refine escape.step₂ fun fuel rest place result inside => ?_
    simpa [unicode] using inside
  | case7 fuel cursor read rest twice long shape ih =>
    obtain ⟨_, place⟩ := cursor
    subst shape
    obtain ⟨⟨d, inner⟩, digits, found⟩ := bind_eq_ok.1 found
    have escape := settled_escape line digits (ih d inner found)
    exact escape.step fun fuel rest place result inside => unicode_short inside
  | case8 fuel cursor read c rest twice quote pair long escape shape ih =>
    obtain ⟨_, place⟩ := cursor
    subst shape
    refine (ih found).step fun fuel rest place result inside => ?_
    simp_all [unicode]

end TableCatalog.Quoted
