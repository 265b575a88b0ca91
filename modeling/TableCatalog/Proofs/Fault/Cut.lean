import TableCatalog.Proofs.Reading

/-!
# What remains cut

A fault may be laid to a place behind the marks that open the token. If the text is cut there,
the token is no more readable than before: its opening marks stand, and what lacks its end
still does. For constants with Unicode escapes this goes step by step through the reader.
-/

namespace TableCatalog.Lexer

variable {grammar : Grammar} {fault : LexicalFault} {place : Location} {close : Char}
  {escapes : Bool} {style : StringStyle}

/-- A closing mark is missed exactly where none is found. -/
theorem closed_eq_error {read : Option (List Char × Cursor)} {missing : LexicalFault}
    {wrap : String → Token} :
    closed read missing wrap = .error fault ↔ read = none ∧ fault = missing := by
  cases read with
  | none => simp [closed, eq_comm]
  | some found => simp [closed]

/-- A step from a character on whose fault remains if the text is cut at the place that the
fault is laid to. -/
def RemainsCut (c : Char) (step : Cursor → Step) (rest : List Char) (place : Location)
    (fault : LexicalFault) : Prop :=
  ∃ part more, rest = part ++ more ∧ fault.place = place.after (c :: part) ∧
    ∃ other, step ⟨c :: part, place⟩ = .error other

theorem tripleConstant_single {long : StringStyle} :
    ∃ other, tripleConstant style long close escapes ⟨[close], place⟩ = .error other := by
  simp [tripleConstant, Cursor.skip, Cursor.past, Quoted.escaped, closed]

theorem tripleConstant_triple {long : StringStyle} :
    ∃ other, tripleConstant style long close escapes ⟨[close, close, close], place⟩ =
      .error other := by
  simp [tripleConstant, Cursor.skip, Cursor.past, Quoted.tripled, closed]

/-- A constant that three marks may open remains open behind its marks. -/
theorem remainsCut_tripleConstant {long : StringStyle} {rest : List Char}
    (failed : tripleConstant style long close escapes ⟨close :: rest, place⟩ = .error fault) :
    RemainsCut close (tripleConstant style long close escapes) rest place fault := by
  by_cases second : rest.head? = some close
  · obtain ⟨rest, rfl⟩ := List.head?_eq_some_iff.1 second
    by_cases third : rest.head? = some close
    · obtain ⟨rest, rfl⟩ := List.head?_eq_some_iff.1 third
      have laid : fault.place = place.after [close, close, close] := by
        simp only [tripleConstant, List.take_succ_cons, List.take_zero, List.takeWhile_cons,
          beq_self_eq_true, if_true, List.takeWhile_nil] at failed
        obtain ⟨-, rfl⟩ := closed_eq_error.1 failed
        rfl
      exact ⟨[close, close], rest, rfl, laid, tripleConstant_triple⟩
    · exfalso
      cases rest with
      | nil => simp [tripleConstant] at failed
      | cons d rest =>
        have differs : (d == close) = false := by simpa using third
        simp [tripleConstant, differs] at failed
  · have laid : fault.place = place.after [close] := by
      have run : ((close :: rest).take 3).takeWhile (· == close) = [close] := by
        cases rest with
        | nil => simp
        | cons d rest =>
          have differs : (d == close) = false := by simpa using second
          simp [differs]
      simp only [tripleConstant, run] at failed
      obtain ⟨-, rfl⟩ := closed_eq_error.1 failed
      rfl
    exact ⟨[], rest, rfl, laid, tripleConstant_single⟩

/-- Digits that cannot be read still cannot where reading gave up. -/
theorem remainsCut_unicodeDigits {count value : Nat} {cursor : Cursor}
    (failed : Quoted.unicodeDigits count value cursor = .error fault) :
    ∃ part more, cursor.rest = part ++ more ∧ fault.place = cursor.place.after part ∧
      ∃ other, Quoted.unicodeDigits count value ⟨part, cursor.place⟩ = .error other := by
  induction count generalizing value cursor with
  | zero =>
    rw [Quoted.unicodeDigits] at failed
    split at failed
    · simp at failed
    · rename_i invalid
      obtain rfl := Except.error.inj failed
      exact ⟨[], cursor.rest, rfl, rfl, by simp [Quoted.unicodeDigits, invalid]⟩
  | succ count ih =>
    obtain ⟨rest, place⟩ := cursor
    cases rest with
    | nil =>
      obtain rfl := Except.error.inj failed
      exact ⟨[], [], rfl, rfl, by simp [Quoted.unicodeDigits]⟩
    | cons d rest =>
      cases digit : Quoted.hexDigit? d with
      | none =>
        have same : fault = ⟨.badUnicodeDigit d, place.next d⟩ := by
          simpa [Quoted.unicodeDigits, digit, eq_comm] using failed
        subst same
        exact ⟨[d], rest, rfl, rfl, by simp [Quoted.unicodeDigits, digit]⟩
      | some value' =>
        have failed : Quoted.unicodeDigits count (value * 16 + value') ⟨rest, place.next d⟩ =
            .error fault := by simpa [Quoted.unicodeDigits, digit] using failed
        obtain ⟨part, more, shape, laid, other, again⟩ := ih failed
        have shape : rest = part ++ more := shape
        exact ⟨d :: part, more, by simp [shape], laid, other, by
          simpa [Quoted.unicodeDigits, digit] using again⟩

theorem unicode_nil {fuel : Nat} {read : List Char} :
    ∃ other, Quoted.unicode fuel ⟨[], place⟩ read = .error other := by
  cases fuel <;> simp [Quoted.unicode]

/-- What fails in its first part fails. -/
theorem bind_eq_error {ε α β : Type} {first : Except ε α} {second : α → Except ε β} {error : ε} :
    (first >>= second) = .error error ↔
      first = .error error ∨ ∃ value, first = .ok value ∧ second value = .error error := by
  cases first with
  | error other => simp [bind, Except.bind]
  | ok value => simp [bind, Except.bind]

/-- Reading in steps remains impossible, in any number of steps, if the text is cut at the place
that a fault is laid to. -/
def StaysCut (reads : Nat → Cursor → Except LexicalFault (List Char × Cursor)) (cursor : Cursor)
    (fault : LexicalFault) : Prop :=
  ∃ part more, cursor.rest = part ++ more ∧ fault.place = cursor.place.after part ∧
    ∀ fuel, ∃ other, reads fuel ⟨part, cursor.place⟩ = .error other

section StaysCut

variable {reads : Nat → Cursor → Except LexicalFault (List Char × Cursor)} {cursor : Cursor}
  {c d : Char} {rest read : List Char}

/-- Nothing is read where nothing is left. -/
theorem staysCut_here (laid : fault.place = cursor.place) :
    StaysCut (Quoted.unicode · · read) cursor fault :=
  ⟨[], cursor.rest, rfl, laid, fun _ => unicode_nil⟩

/-- A step over a character leads to what remains unreadable behind it. -/
theorem StaysCut.step (inner : StaysCut reads ⟨rest, place.next c⟩ fault)
    (steps : ∀ fuel part more other, rest = part ++ more →
      reads fuel ⟨part, place.next c⟩ = .error other →
        Quoted.unicode (fuel + 1) ⟨c :: part, place⟩ read = .error other) :
    StaysCut (Quoted.unicode · · read) ⟨c :: rest, place⟩ fault := by
  obtain ⟨part, more, shape, laid, again⟩ := inner
  obtain rfl : rest = part ++ more := shape
  refine ⟨c :: part, more, rfl, laid, fun fuel => ?_⟩
  cases fuel with
  | zero => exact ⟨_, rfl⟩
  | succ fuel => exact (again fuel).imp fun other => steps fuel part more other rfl

/-- `StaysCut.step` for one step over two characters. -/
theorem StaysCut.step₂ (inner : StaysCut reads ⟨rest, (place.next c).next d⟩ fault)
    (steps : ∀ fuel part other, reads fuel ⟨part, (place.next c).next d⟩ = .error other →
      Quoted.unicode (fuel + 1) ⟨c :: d :: part, place⟩ read = .error other) :
    StaysCut (Quoted.unicode · · read) ⟨c :: d :: rest, place⟩ fault := by
  obtain ⟨part, more, shape, laid, again⟩ := inner
  obtain rfl : rest = part ++ more := shape
  refine ⟨c :: d :: part, more, rfl, laid, fun fuel => ?_⟩
  cases fuel with
  | zero => exact ⟨_, rfl⟩
  | succ fuel => exact (again fuel).imp fun other => steps fuel part other

/-- Digits of an escape or what goes on behind them remain unreadable together. -/
theorem staysCut_escape {count fuel : Nat}
    (failed : (Quoted.unicodeDigits count 0 cursor >>= fun found =>
      Quoted.unicode fuel found.2 (found.1 :: read)) = .error fault)
    (goesOn : ∀ c inner, Quoted.unicode fuel inner (c :: read) = .error fault →
      StaysCut (Quoted.unicode · · (c :: read)) inner fault) :
    StaysCut (fun fuel cursor => Quoted.unicodeDigits count 0 cursor >>= fun found =>
      Quoted.unicode fuel found.2 (found.1 :: read)) cursor fault := by
  rcases bind_eq_error.1 failed with digits | ⟨⟨c, inner⟩, digits, later⟩
  · obtain ⟨part, more, shape, laid, other, again⟩ := remainsCut_unicodeDigits digits
    exact ⟨part, more, shape, laid, fun fuel => ⟨other, bind_eq_error.2 (.inl again)⟩⟩
  · obtain ⟨part, more, shape, laid, again⟩ := goesOn c inner later
    obtain ⟨run, whole, stands⟩ := Quoted.settled_unicodeDigits false digits
    have here := stands inner.rest cursor.place (Continues.refl false inner.rest)
    rw [← whole] at here
    have led : inner.place = cursor.place.after run :=
      congrArg (fun found => found.2.place) (Except.ok.inj (digits.symm.trans here))
    have cut := stands part cursor.place (.inl (shape ▸ List.prefix_append part more))
    refine ⟨run ++ part, more, by simp [whole, shape], ?_, fun fuel => ?_⟩
    · rw [laid, led, Location.after_append]
    · obtain ⟨other, again⟩ := again fuel
      exact ⟨other, bind_eq_error.2 (.inr ⟨_, cut, led ▸ again⟩)⟩

/-- A constant with Unicode escapes still cannot be read where reading gave up. -/
theorem staysCut_unicode {fuel : Nat} (failed : Quoted.unicode fuel cursor read = .error fault) :
    StaysCut (Quoted.unicode · · read) cursor fault := by
  fun_induction Quoted.unicode fuel cursor read with
  | case1 cursor read =>
    obtain rfl := Except.error.inj failed
    exact staysCut_here rfl
  | case2 fuel cursor read shape =>
    obtain rfl := Except.error.inj failed
    exact staysCut_here rfl
  | case3 fuel cursor read rest shape ih =>
    obtain ⟨_, place⟩ := cursor
    subst shape
    refine (ih failed).step₂ fun fuel part other again => ?_
    simpa [Quoted.unicode] using again
  | case4 => simp at failed
  | case5 fuel cursor read rest shape ih =>
    obtain ⟨_, place⟩ := cursor
    subst shape
    refine (ih failed).step₂ fun fuel part other again => ?_
    simpa [Quoted.unicode] using again
  | case6 fuel cursor read rest shape ih =>
    obtain ⟨_, place⟩ := cursor
    subst shape
    refine (staysCut_escape failed ih).step₂ fun fuel part other again => ?_
    simpa [Quoted.unicode] using again
  | case7 fuel cursor read rest twice long shape ih =>
    obtain ⟨_, place⟩ := cursor
    subst shape
    refine (staysCut_escape failed ih).step fun fuel part more other shape again => ?_
    rw [← again]
    cases part with
    | nil => rfl
    | cons d part => simp_all [Quoted.unicode]
  | case8 fuel cursor read c rest twice quote pair long escape shape ih =>
    obtain ⟨_, place⟩ := cursor
    subst shape
    refine (ih failed).step fun fuel part more other shape again => ?_
    simp_all [Quoted.unicode]

end StaysCut

/-- A step that passes over its first character remains cut if the step behind it does. -/
theorem RemainsCut.behind {c d : Char} {rest : List Char} {outer inner : Cursor → Step}
    (remains : RemainsCut d inner rest (place.next c) fault)
    (opens : ∀ rest place, outer ⟨c :: d :: rest, place⟩ = inner ⟨d :: rest, place.next c⟩) :
    RemainsCut c outer (d :: rest) place fault := by
  obtain ⟨part, more, shape, laid, other, again⟩ := remains
  exact ⟨d :: part, more, congrArg (d :: ·) shape, laid, other, by rw [opens]; exact again⟩

/-- A fault that is laid to the end of the text remains, as nothing is cut. -/
theorem remainsCut_end {c : Char} {rest : List Char} {step : Cursor → Step}
    (failed : step ⟨c :: rest, place⟩ = .error fault) (laid : fault.place = place.after (c :: rest)) :
    RemainsCut c step rest place fault :=
  ⟨rest, [], (List.append_nil rest).symm, laid, fault, failed⟩

end TableCatalog.Lexer
