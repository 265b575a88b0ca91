import TableCatalog.Proofs.Lexing.Exponent
import TableCatalog.Proofs.Lexing.Word

/-!
# Numbers

The digits of a number, its period, its exponent and its mark are read one after another,
and each of them as far as it goes. Some grammars have words that begin with digits.
-/

namespace TableCatalog.Lexer

variable (line : Bool) {grammar : Grammar} {token : Token} {after : Cursor} {place : Location}

/-- Whether the digits of a number with its exponent begin a word: the grammar has such words,
no letter of an exponent follows the digits, and a word goes on behind them. -/
def beginsWord (grammar : Grammar) (raised kept : List Char) : Bool :=
  grammar.wordsMayStartWithDigits && !hasExponentLetter (raised ++ kept) &&
    !(kept.takeWhile grammar.continuesWord).isEmpty

/-- Whether digits begin a word is told from the first character behind them. -/
theorem beginsWord_cons {raised kept : List Char} {c : Char} :
    beginsWord grammar raised (c :: kept) =
      (grammar.wordsMayStartWithDigits && !hasExponentLetter (raised ++ [c]) &&
        grammar.continuesWord c) := by
  have letter : hasExponentLetter (raised ++ c :: kept) = hasExponentLetter (raised ++ [c]) := by
    cases raised <;> rfl
  rw [beginsWord, letter, List.takeWhile_cons]
  cases grammar.continuesWord c <;> simp

variable {line} in
/-- Digits that begin a word before what may follow them begin one before what follows them. -/
theorem beginsWord_of_continues {raised follows kept : List Char}
    (continues : Continues line follows kept) (begins : beginsWord grammar raised kept = true) :
    beginsWord grammar raised follows = true := by
  cases kept with
  | nil => simp [beginsWord] at begins
  | cons c kept =>
    have printed : c ≠ '\n' := by
      rintro rfl
      simp [beginsWord_cons, continuesWord_feed] at begins
    obtain ⟨more, rfl, -⟩ := continues.of_cons printed
    rwa [beginsWord_cons] at begins ⊢

/-- What follows the digits of a number by the exponent and what follows that. -/
theorem numberEnd_append {digits raised kept : List Char}
    (powered : power (raised ++ kept) = raised) (place : Location) :
    numberEnd grammar digits ⟨raised ++ kept, place⟩ =
      if beginsWord grammar raised kept then
        .ok (.word ⟨String.ofList (digits ++ raised ++ kept.takeWhile grammar.continuesWord), none⟩,
          ((Cursor.mk kept (place.after raised)).span grammar.continuesWord).2)
      else if kept.head? == some 'L' then
        .ok (.number (String.ofList (digits ++ raised)) true,
          (Cursor.mk kept (place.after raised)).skip 1)
      else .ok (.number (String.ofList (digits ++ raised)) false, ⟨kept, place.after raised⟩) := by
  have skipped : (Cursor.mk (raised ++ kept) place).skip raised.length =
      ⟨kept, place.after raised⟩ := Cursor.skip_append place rfl
  simp only [numberEnd, powered, skipped]
  rfl

/-- What follows the digits of a number stands with it. -/
theorem settled_numberEnd {digits rest : List Char}
    (found : numberEnd grammar digits ⟨rest, place⟩ = .ok (token, after)) :
    Settled line (fun cursor result => numberEnd grammar digits cursor = .ok result)
      ⟨rest, place⟩ token after := by
  obtain ⟨raised, follows, rfl, powered⟩ := exists_power line rest
  rw [numberEnd_append (powered follows (Continues.refl line follows))] at found
  by_cases wordly : beginsWord grammar raised follows = true
  · obtain ⟨tail, behind, rfl, spanned⟩ := exists_span grammar.continuesWord
      (fun _ : line = true => continuesWord_feed grammar) follows
    have taken (kept : List Char) (continues : Continues line behind kept) :
        (tail ++ kept).takeWhile grammar.continuesWord = tail :=
      congrArg Prod.fst (spanned kept place continues)
    rw [if_pos wordly, taken behind (Continues.refl line behind),
      spanned behind _ (Continues.refl line behind)] at found
    obtain ⟨rfl, rfl⟩ := Prod.mk.inj (Except.ok.inj found)
    refine ⟨raised ++ tail, by simp, fun kept place continues => ?_⟩
    have again : beginsWord grammar raised (tail ++ kept) = true := by
      cases tail with
      | nil =>
        have empty := taken behind (Continues.refl line behind)
        rw [List.nil_append] at empty wordly
        simp [beginsWord, empty] at wordly
      | cons c tail => rwa [List.cons_append, beginsWord_cons] at wordly ⊢
    dsimp only
    rw [List.append_assoc, numberEnd_append (powered _ (continues.append tail)), if_pos again,
      taken kept continues, spanned kept _ continues, Location.after_append]
  · have plain (kept : List Char) (continues : Continues line follows kept) :
        ¬beginsWord grammar raised kept = true :=
      fun begins => wordly (beginsWord_of_continues continues begins)
    rw [if_neg wordly] at found
    by_cases long : (follows.head? == some 'L') = true
    · obtain ⟨more, rfl⟩ := List.head?_eq_some_iff.1 (beq_iff_eq.1 long)
      rw [if_pos long] at found
      obtain ⟨rfl, rfl⟩ := Prod.mk.inj (Except.ok.inj found)
      refine ⟨raised ++ ['L'], by simp, fun kept place continues => ?_⟩
      have again : Continues line ('L' :: more) ('L' :: kept) := continues.append ['L']
      dsimp only
      rw [List.append_assoc, List.singleton_append, numberEnd_append (powered _ again),
        if_neg (plain _ again)]
      simp [Location.after_append, Location.after_cons, Location.after_nil]
    · rw [if_neg long] at found
      obtain ⟨rfl, rfl⟩ := Prod.mk.inj (Except.ok.inj found)
      refine ⟨raised, rfl, fun kept place continues => ?_⟩
      have single : ¬(kept.head? == some 'L') = true := by
        have first : follows.head? ≠ some 'L' := by simpa using long
        simpa using continues.head?_ne (by decide) first
      dsimp only
      rw [numberEnd_append (powered _ continues), if_neg (plain _ continues), if_neg single]

/-- A number in hexadecimal digits stands. -/
theorem stands_hexNumber {rest : List Char}
    (found : number grammar ⟨'0' :: 'x' :: rest, place⟩ = .ok (token, after)) :
    Stands line '0' (number grammar) ('x' :: rest) token after := by
  obtain ⟨digits, tail, rfl, spanned⟩ := exists_span (fun c => (Quoted.hexDigit? c).isSome)
    (fun _ : line = true => Quoted.hexDigit?_feed) rest
  have zero (kept : List Char) (place : Location) :
      (Cursor.mk ('0' :: 'x' :: kept) place).span Char.isDigit =
        (['0'], ⟨'x' :: kept, place.next '0'⟩) := by
    have inside : ∀ c ∈ ['0'], c.isDigit = true := by decide
    exact Cursor.span_run place inside (by simp)
  have reads (kept : List Char) (place : Location) (continues : Continues line tail kept) :
      number grammar ⟨'0' :: 'x' :: (digits ++ kept), place⟩ =
        .ok (.string .hex (String.ofList digits),
          ⟨kept, ((place.next '0').next 'x').after digits⟩) := by
    simp [number, zero, spanned kept _ continues]
  rw [reads tail place (Continues.refl line tail)] at found
  obtain ⟨rfl, rfl⟩ := Prod.mk.inj (Except.ok.inj found)
  exact ⟨'x' :: digits, rfl, fun kept place continues => reads kept place continues⟩

/-- A number by the digits before its period, the period and the digits behind it. -/
theorem number_append (grammar : Grammar) {whole point part kept : List Char} (place : Location)
    (counted : (Cursor.mk (whole ++ (point ++ (part ++ kept))) place).span Char.isDigit =
      (whole, ⟨point ++ (part ++ kept), place.after whole⟩))
    (decimal : (whole == ['0'] && (point ++ (part ++ kept)).head? == some 'x') = false)
    (pointed : ((point ++ (part ++ kept)).take 1).takeWhile (· == '.') = point)
    (parted : ∀ place, (Cursor.mk (part ++ kept) place).span Char.isDigit =
      (part, ⟨kept, place.after part⟩)) :
    number grammar ⟨whole ++ (point ++ (part ++ kept)), place⟩ =
      if whole ++ point ++ part == ['.'] then
        .ok (.symbol ".", ⟨kept, place.after (whole ++ (point ++ part))⟩)
      else numberEnd grammar (whole ++ point ++ part)
        ⟨kept, place.after (whole ++ (point ++ part))⟩ := by
  have skipped (place : Location) : (Cursor.mk (point ++ (part ++ kept)) place).skip
      point.length = ⟨part ++ kept, place.after point⟩ := Cursor.skip_append place rfl
  simp only [number, counted, decimal, Bool.false_eq_true, if_false, pointed, skipped, parted,
    Location.after_append]

/-- A number stands, and so does a word that begins with digits. -/
theorem stands_number {c : Char} {rest : List Char}
    (numeric : (c.isDigit || c == '.') = true)
    (found : number grammar ⟨c :: rest, place⟩ = .ok (token, after)) :
    Stands line c (number grammar) rest token after := by
  obtain ⟨whole, rest₁, shape, counted⟩ := exists_span Char.isDigit
    (fun _ : line = true => by decide) (c :: rest)
  by_cases hex : (whole == ['0'] && rest₁.head? == some 'x') = true
  · obtain ⟨rfl, first⟩ : whole = ['0'] ∧ rest₁.head? = some 'x' := by simpa using hex
    obtain ⟨more, rfl⟩ := List.head?_eq_some_iff.1 first
    obtain ⟨rfl, rfl⟩ := List.cons.inj shape
    exact stands_hexNumber line found
  · rw [shape] at found
    obtain ⟨point, rest₂, rfl, pointed⟩ := exists_bounded_run (· == '.')
      (fun _ : line = true => by decide) 1 rest₁
    obtain ⟨part, rest₃, rfl, parted⟩ := exists_span Char.isDigit
      (fun _ : line = true => by decide) rest₂
    have decimal (kept : List Char) (continues : Continues line rest₃ kept) :
        (whole == ['0'] && (point ++ (part ++ kept)).head? == some 'x') = false := by
      cases zero : whole == ['0'] with
      | false => rfl
      | true =>
        have first : (point ++ (part ++ rest₃)).head? ≠ some 'x' := by simpa [zero] using hex
        simpa using ((continues.append part).append point).head?_ne (by decide) first
    have phases (kept : List Char) (place : Location) (continues : Continues line rest₃ kept) :=
      number_append grammar place (counted _ place ((continues.append part).append point))
        (decimal kept continues) (pointed _ (continues.append part))
        fun place => parted kept place continues
    rw [phases rest₃ place (Continues.refl line rest₃)] at found
    have filled : whole ++ (point ++ part) ≠ [] := by
      intro empty
      obtain ⟨rfl, rfl, rfl⟩ : whole = [] ∧ point = [] ∧ part = [] := by simpa using empty
      have noDigit : (c :: rest).takeWhile Char.isDigit = [] :=
        shape ▸ congrArg Prod.fst (counted _ place (Continues.refl line _))
      have noPoint : ((c :: rest).take 1).takeWhile (· == '.') = [] :=
        shape ▸ pointed _ (Continues.refl line ([] ++ rest₃))
      by_cases digit : c.isDigit = true
      · simp [digit] at noDigit
      · obtain rfl : c = '.' := by simpa [digit] using numeric
        simp at noPoint
    by_cases period : (whole ++ point ++ part == ['.']) = true
    · rw [if_pos period] at found
      obtain ⟨rfl, rfl⟩ := Prod.mk.inj (Except.ok.inj found)
      refine Stands.of_run (whole ++ (point ++ part)) filled (by simp [shape])
        fun kept place continues => ?_
      have there := phases kept place continues
      rw [if_pos period] at there
      simpa only [List.append_assoc] using there
    · rw [if_neg period] at found
      obtain ⟨run, shape', stands⟩ := settled_numberEnd line found
      obtain rfl : rest₃ = run ++ after.rest := shape'
      refine Stands.of_run (whole ++ (point ++ part) ++ run)
        (List.append_ne_nil_of_left_ne_nil filled run) (by simp [shape])
        fun kept place continues => ?_
      have there := phases (run ++ kept) place (continues.append run)
      rw [if_neg period] at there
      simp only [List.append_assoc] at there ⊢
      have last := stands kept (place.after (whole ++ (point ++ part))) continues
      rw [← Location.after_append] at last
      simpa only [there, List.append_assoc] using last

end TableCatalog.Lexer
