import Mathlib.Data.List.Basic
import TableCatalog.Proofs.Lexing.Stands

/-!
# The exponent of a number

An exponent is a letter, a sign or none and a digit at least. Whether one stands behind a
number is told from three characters, and none of them is a line feed.
-/

namespace TableCatalog.Lexer

variable (line : Bool) {after : Cursor}

/-- An exponent stands where a digit does, after a sign or none. -/
theorem exponent_isSome_iff {e : Char} {more : List Char} :
    (exponent (e :: more)).isSome = true ↔
      ∃ sign d, (sign = [] ∨ sign = ['+'] ∨ sign = ['-']) ∧ d.isDigit = true ∧
        sign ++ [d] <+: more := by
  constructor
  · intro found
    obtain ⟨sign, tail, rfl, signed⟩ := exists_bounded_run (fun c => c == '+' || c == '-')
      (fun _ : true = true => by decide) 1 more
    have here := signed tail (Continues.refl true tail)
    cases digits : tail.takeWhile Char.isDigit with
    | nil => simp [exponent, here, digits] at found
    | cons d rest =>
      have inside := List.takeWhile_prefix Char.isDigit (l := tail)
      rw [digits] at inside
      have isDigit : d.isDigit = true :=
        List.mem_takeWhile_imp (digits ▸ List.mem_cons_self : d ∈ tail.takeWhile Char.isDigit)
      refine ⟨sign, d, ?_, isDigit, ?_⟩
      · cases sign with
        | nil => exact .inl rfl
        | cons c others =>
          by_cases mark : (c == '+' || c == '-') = true
          · obtain rfl : others = [] := by simpa [mark] using here
            simpa using mark
          · simp [mark] at here
      · refine (List.prefix_append_right_inj sign).2 (List.IsPrefix.trans ?_ inside)
        exact List.cons_prefix_cons.2 ⟨rfl, List.nil_prefix⟩
  · rintro ⟨sign, d, one, isDigit, rest, rfl⟩
    have unsigned : d ≠ '+' ∧ d ≠ '-' := by
      constructor <;> rintro rfl <;> simp at isDigit
    rcases one with rfl | rfl | rfl <;> simp [exponent, isDigit, unsigned]

/-- Whether an exponent with its letter begins a text. -/
def ExponentStands (rest : List Char) : Prop :=
  hasExponentLetter rest = true ∧ (exponent rest).isSome = true

/-- Where no exponent stands, none is read. -/
theorem power_of_not_exponentStands {rest : List Char} (absent : ¬ExponentStands rest) :
    power rest = [] := by
  unfold power
  split
  · rename_i letter
    have none : exponent rest = none := by
      rw [← Option.not_isSome_iff_eq_none]
      exact fun found => absent ⟨letter, found⟩
    rw [none]
    rfl
  · rfl

variable {line} in
/-- An exponent that stands before what may follow stands before what follows. -/
theorem exponentStands_of_continues {follows kept : List Char}
    (continues : Continues line follows kept) (stands : ExponentStands kept) :
    ExponentStands follows := by
  obtain ⟨letter, found⟩ := stands
  cases kept with
  | nil => cases letter
  | cons e more =>
    have printed : e ≠ '\n' := by
      rintro rfl
      cases letter
    obtain ⟨tail, rfl, inner⟩ := continues.of_cons printed
    obtain ⟨sign, d, one, isDigit, lead⟩ := exponent_isSome_iff.1 found
    have visible : d ≠ '\n' := by rintro rfl; simp at isDigit
    have printed : '\n' ∉ sign ++ [d] := by
      rcases one with rfl | rfl | rfl <;> simp [visible.symm]
    exact ⟨letter, exponent_isSome_iff.2 ⟨sign, d, one, isDigit, inner.prefix_of printed lead⟩⟩

/-- An exponent is found again before whatever may follow it, and none where none was. -/
theorem exists_power (rest : List Char) :
    ∃ run tail, rest = run ++ tail ∧
      ∀ kept, Continues line tail kept → power (run ++ kept) = run := by
  by_cases standing : ExponentStands rest
  · obtain ⟨letter, found⟩ := standing
    obtain ⟨e, more, rfl⟩ : ∃ e more, rest = e :: more := by
      cases rest with
      | nil => cases letter
      | cons e more => exact ⟨e, more, rfl⟩
    obtain ⟨sign, unsigned, rfl, signed⟩ := exists_bounded_run (fun c => c == '+' || c == '-')
      (fun _ : line = true => by decide) 1 more
    obtain ⟨digits, tail, rfl, counted, stop⟩ := exists_run Char.isDigit unsigned
    have foundHere (kept : List Char) (continues : Continues line tail kept) :
        exponent (e :: (sign ++ (digits ++ kept))) =
          if digits.isEmpty then none else some (e :: sign ++ digits) := by
      have again := signed (digits ++ kept) (continues.append digits)
      have dropped : (sign ++ (digits ++ kept)).drop sign.length = digits ++ kept := by simp
      have counted := Cursor.span_run (Location.start) counted
        (continues.stops (fun _ => by decide) stop)
      simp only [Cursor.span, Prod.mk.injEq] at counted
      simp only [exponent, again, dropped, counted.1]
    rw [foundHere tail (Continues.refl line tail)] at found
    have filled : digits.isEmpty = false := by
      cases empty : digits.isEmpty with
      | false => rfl
      | true => simp [empty] at found
    refine ⟨e :: (sign ++ digits), tail, by simp, fun kept continues => ?_⟩
    have again := foundHere kept continues
    have first : hasExponentLetter (e :: (sign ++ (digits ++ kept))) = true := letter
    simp only [List.cons_append, List.append_assoc] at again ⊢
    simp [power, first, again, filled]
  · refine ⟨[], rest, rfl, fun kept continues => ?_⟩
    exact power_of_not_exponentStands fun stands =>
      standing (exponentStands_of_continues continues stands)

end TableCatalog.Lexer
