import Mathlib.Tactic.ByContra
import TableCatalog.Proofs.Lexing.Stands

/-!
# Quoted texts and words

Constants and words between marks stand, as the mark that closes them ends them. In Redshift
a bracket opens a word only if more than blanks follow it, so that the blanks behind one are
looked through as well.
-/

namespace TableCatalog.Lexer

variable (line : Bool) {grammar : Grammar} {token : Token} {after : Cursor} {style : StringStyle}
  {close : Char} {escapes : Bool} {place : Location}

/-- A text constant is read up to the same mark whatever may follow it. -/
theorem settled_stringConstant {opening : Location} {body : Cursor} (printed : close ≠ '\n')
    (found : stringConstant style close escapes opening body = .ok (token, after)) :
    Settled line
      (fun body result => ∀ opening, stringConstant style close escapes opening body = .ok result)
      body token after := by
  obtain ⟨content, inside, rfl⟩ := closed_eq_ok.1 found
  obtain ⟨run, shape, stands⟩ := Quoted.settled_escaped line printed inside
  exact ⟨run, shape, fun kept place continues opening =>
    closed_eq_ok.2 ⟨content, stands kept place continues, rfl⟩⟩

/-- A constant that one or three marks open stands. Two marks are an empty constant only before
something else, so what may follow has to leave the number of opening marks alone. -/
theorem stands_tripleConstant {long : StringStyle} {rest : List Char} (printed : close ≠ '\n')
    (found : tripleConstant style long close escapes ⟨close :: rest, place⟩ = .ok (token, after)) :
    Stands line close (tripleConstant style long close escapes) rest token after := by
  have outside : line = true → ('\n' == close) = false := fun _ => by simpa using printed.symm
  obtain ⟨run, tail, shape, marks⟩ := exists_bounded_run (· == close) outside 3 (close :: rest)
  have here := marks tail (Continues.refl line tail)
  rw [← shape] at here
  simp only [tripleConstant] at found
  rw [here] at found
  split at found
  · rename_i a b
    obtain ⟨rfl, rfl⟩ : close = a ∧ rest = b :: tail := by simpa using shape
    obtain ⟨rfl, rfl⟩ := by simpa using found
    refine ⟨[b], rfl, fun kept place continues => ?_⟩
    have there := marks kept continues
    simp only [List.cons_append, List.nil_append] at there ⊢
    simp only [tripleConstant, there]
    rfl
  · rename_i a b c
    obtain ⟨rfl, rfl⟩ : close = a ∧ rest = b :: c :: tail := by simpa using shape
    obtain ⟨content, inside, rfl⟩ := closed_eq_ok.1 found
    obtain ⟨more, shape, stands⟩ := Quoted.settled_tripled line inside
    have shape : tail = more ++ after.rest := shape
    refine ⟨b :: c :: more, by simp [shape], fun kept place continues => ?_⟩
    have there := marks (more ++ kept) (shape ▸ continues.append more)
    simp only [List.cons_append, List.nil_append] at there ⊢
    simp only [tripleConstant, there]
    exact closed_eq_ok.2 ⟨content, stands kept _ continues, rfl⟩
  · rename_i two three
    obtain ⟨content, inside, rfl⟩ := closed_eq_ok.1 found
    obtain ⟨more, shape', stands⟩ := Quoted.settled_escaped line printed inside
    have shape' : rest = more ++ after.rest := shape'
    have single : run = [close] := by
      have size : run.length ≤ 3 := here ▸
        (List.takeWhile_prefix _).length_le.trans (List.length_take_le 3 _)
      match run, shape with
      | [], _ => simp at here
      | [c], shape => rw [(List.cons.inj shape).1]
      | [c, d], _ => exact absurd rfl (two c d)
      | [c, d, e], _ => exact absurd rfl (three c d e)
      | _ :: _ :: _ :: _ :: tail, _ =>
        simp only [List.length_cons] at size
        omega
    obtain rfl : tail = rest := by simpa [single] using shape.symm
    refine ⟨more, shape', fun kept place continues => ?_⟩
    have there := marks (more ++ kept) (shape' ▸ continues.append more)
    simp only [single, List.cons_append, List.nil_append] at there ⊢
    simp only [tripleConstant, there]
    exact closed_eq_ok.2 ⟨content, stands kept _ continues, rfl⟩

/-- A text constant stands, in grammars with and without triple marks. -/
theorem stands_constant {long : StringStyle} {rest : List Char} (printed : close ≠ '\n')
    (found : constant grammar style long close escapes ⟨close :: rest, place⟩ =
      .ok (token, after)) :
    Stands line close (constant grammar style long close escapes) rest token after := by
  unfold constant at found ⊢
  by_cases triple : grammar.hasTripleQuotes = true
  · simp only [triple, if_true] at found ⊢
    exact stands_tripleConstant line printed found
  · simp only [triple] at found ⊢
    refine Settled.stands (settled_stringConstant line printed found) ?_
    intro rest place after inside
    exact inside place

/-- A quoted word stands. -/
theorem stands_quotedWord {quote : Char} {rest : List Char} (printed : Word.closing quote ≠ '\n')
    (found : quotedWord quote ⟨quote :: rest, place⟩ = .ok (token, after)) :
    Stands line quote (quotedWord quote) rest token after := by
  simp only [quotedWord] at found
  obtain ⟨content, inside, rfl⟩ := closed_eq_ok.1 found
  refine Settled.stands (Quoted.settled_doubled line printed inside) ?_
  intro rest place after inside
  simp only [quotedWord]
  exact closed_eq_ok.2 ⟨content, inside, rfl⟩

/-- A word in brackets and quotes stands, with the blanks on both sides of the quotes. -/
theorem stands_nestedWord {quote : Char} {rest : List Char}
    (visible : Text.isBlank quote = false)
    (found : nestedWord quote ⟨'[' :: rest, place⟩ = .ok (token, after)) :
    Stands line '[' (nestedWord quote) rest token after := by
  have printed : quote ≠ '\n' := by
    rintro rfl
    simp [Text.isBlank] at visible
  obtain ⟨blanks, tail, rfl, blank, stop⟩ := exists_run Text.isBlank rest
  simp only [nestedWord, Cursor.skip_one_cons, Cursor.span_run _ blank stop] at found
  split at found
  · simp at found
  · rename_i opens
    obtain ⟨body, rfl⟩ : ∃ body, tail = quote :: body :=
      List.head?_eq_some_iff.1 (by simpa using opens)
    simp only [Cursor.skip_one_cons] at found
    split at found
    · simp at found
    · rename_i content inner inside
      obtain ⟨run, shape', stands⟩ := Quoted.settled_doubled line printed inside
      obtain ⟨blanks', tail', shape'', blank', stop'⟩ := exists_run Text.isBlank inner.rest
      obtain ⟨innerRest, innerPlace⟩ := inner
      obtain rfl : innerRest = blanks' ++ tail' := shape''
      simp only [Cursor.span_run _ blank' stop'] at found
      split at found
      · rename_i closes
        obtain ⟨rest', rfl⟩ : ∃ rest', tail' = ']' :: rest' :=
          List.head?_eq_some_iff.1 (by simpa using closes)
        obtain ⟨rfl, rfl⟩ := by simpa using found
        obtain rfl : body = run ++ (blanks' ++ ']' :: rest') := shape'
        refine ⟨blanks ++ (quote :: (run ++ (blanks' ++ [']']))), by simp,
          fun kept place continues => ?_⟩
        have first : (Cursor.mk (blanks ++ (quote :: (run ++ (blanks' ++ (']' :: kept)))))
            (place.next '[')).span Text.isBlank = (blanks, ⟨_, (place.next '[').after blanks⟩) :=
          Cursor.span_run _ blank (by simpa using visible)
        have second := stands (blanks' ++ (']' :: kept))
          (((place.next '[').after blanks).next quote) ((continues.append [']']).append blanks')
        have third : (Cursor.mk (blanks' ++ (']' :: kept))
            ((((place.next '[').after blanks).next quote).after run)).span Text.isBlank =
              (blanks', ⟨_, _⟩) :=
          Cursor.span_run _ blank' (by simp [Text.isBlank])
        simp only [List.cons_append, List.append_assoc, List.nil_append, nestedWord,
          Cursor.skip_one_cons, first, second, third]
        simp [Location.after_append, Location.after_cons, Location.after_nil]
      · simp at found

/-- A mark that is no line feed is closed by one that is none. -/
theorem closing_printed {quote : Char} (printed : quote ≠ '\n') : Word.closing quote ≠ '\n' := by
  unfold Word.closing
  split
  · decide
  · exact printed

/-- What follows leading blanks follows them before any text, if there is anything. -/
theorem trimStart_append {run : List Char} (visible : ∃ d ∈ run, Text.isBlank d = false)
    (kept : List Char) : Text.trimStart (run ++ kept) = Text.trimStart run ++ kept := by
  induction run with
  | nil => simp at visible
  | cons d run ih =>
    by_cases blank : Text.isBlank d = true
    · obtain ⟨e, inside, shown⟩ := visible
      have later : e ∈ run := by
        rcases List.mem_cons.1 inside with rfl | later
        · simp [blank] at shown
        · exact later
      simpa [Text.trimStart, blank] using ih ⟨e, later, shown⟩
    · simp [Text.trimStart, blank]

/-- Something is left behind the leading blanks of a text that does not consist of blanks. -/
theorem trimStart_ne_nil {run : List Char} (visible : ∃ d ∈ run, Text.isBlank d = false) :
    Text.trimStart run ≠ [] := by
  obtain ⟨d, inside, shown⟩ := visible
  intro empty
  have blank := List.dropWhile_eq_nil_iff.1 empty d inside
  simp [shown] at blank

/-- Only a bracket in Redshift opens a word that may be quoted again. -/
theorem nestedQuote?_other {c : Char} (other : ¬(grammar = .redshift ∧ c = '['))
    (rest : List Char) : nestedQuote? grammar (c :: rest) = none := by
  unfold nestedQuote?
  split <;> simp_all

/-- Whether a bracket opens a word is decided by the first character behind it that is no
blank. -/
theorem nestedQuote?_append {c : Char} {run : List Char}
    (visible : ∃ d ∈ run, Text.isBlank d = false) (kept : List Char) :
    nestedQuote? grammar (c :: (run ++ kept)) = nestedQuote? grammar (c :: run) := by
  by_cases bracket : grammar = .redshift ∧ c = '['
  · obtain ⟨rfl, rfl⟩ := bracket
    obtain ⟨d, tail, shape⟩ := List.exists_cons_of_ne_nil (trimStart_ne_nil visible)
    simp [nestedQuote?, trimStart_append visible, shape]
  · rw [nestedQuote?_other bracket, nestedQuote?_other bracket]

/-- Blanks alone open no word, nor does a terminator behind them. -/
theorem nestedQuote?_blank {c : Char} {run : List Char}
    (blank : ∀ d ∈ run, Text.isBlank d = true) :
    nestedQuote? grammar (c :: run) = none ∧ nestedQuote? grammar (c :: (run ++ [';'])) = none := by
  by_cases bracket : grammar = .redshift ∧ c = '['
  · obtain ⟨rfl, rfl⟩ := bracket
    have empty : Text.trimStart run = [] := List.dropWhile_eq_nil_iff.2 blank
    have last : Text.trimStart (run ++ [';']) = [';'] := by
      unfold Text.trimStart
      rw [List.dropWhile_append_of_pos blank]
      rfl
    have terminator : Grammar.startsWord .redshift ';' = false := by decide
    simp [nestedQuote?, empty, last, terminator]
  · simp [nestedQuote?_other bracket]

variable {line} in
/-- A bracket that opens no word opens none before whatever may follow it. -/
theorem nestedQuote?_eq_none {c : Char} {rest kept : List Char}
    (unopened : nestedQuote? grammar (c :: rest) = none) (continues : Continues line rest kept) :
    nestedQuote? grammar (c :: kept) = none := by
  rcases continues with ⟨more, rfl⟩ | ⟨-, more, rfl⟩
  · by_cases visible : ∃ d ∈ kept, Text.isBlank d = false
    · rwa [nestedQuote?_append visible] at unopened
    · exact (nestedQuote?_blank (by simpa using visible)).1
  · by_cases visible : ∃ d ∈ rest, Text.isBlank d = false
    · rwa [List.append_assoc, nestedQuote?_append visible]
    · have blank : ∀ d ∈ rest ++ ['\n'], Text.isBlank d = true := by
        intro d inside
        rcases List.mem_append.1 inside with early | last
        · simpa using fun shown => visible ⟨d, early, shown⟩
        · obtain rfl : d = '\n' := by simpa using last
          rfl
      have seen : ∃ d ∈ rest ++ ['\n', ';'], Text.isBlank d = false := ⟨';', by simp, rfl⟩
      have ended : nestedQuote? grammar (c :: (rest ++ ['\n'] ++ [';'])) = none :=
        (nestedQuote?_blank blank).2
      rw [nestedQuote?_append seen]
      simpa using ended

/-- The mark nested in a bracketed word is no blank. -/
theorem nestedQuote?_visible {c quote : Char} {rest : List Char}
    (nested : nestedQuote? grammar (c :: rest) = some (some quote)) :
    Text.isBlank quote = false := by
  unfold nestedQuote? at nested
  split at nested
  · split at nested
    · split at nested
      · obtain rfl : '"' = quote := by simpa using nested
        rfl
      · split at nested <;> simp at nested
    · simp at nested
  · simp at nested

/-- A quoted text needs its closing mark. -/
theorem doubled_eq_none {close : Char} {rest : List Char} {place : Location} {read : List Char}
    (missing : close ∉ rest) : Quoted.doubled close rest place read = none := by
  fun_induction Quoted.doubled close rest place read <;> simp_all

/-- A word that a bracket opens holds more than blanks. -/
theorem visible_of_bracket {nested : Option Char} {run : List Char}
    (found : nested.elim (quotedWord '[') nestedWord ⟨'[' :: run, place⟩ = .ok (token, after)) :
    ∃ d ∈ run, Text.isBlank d = false := by
  by_contra hidden
  have blank : ∀ d ∈ run, Text.isBlank d = true := by simpa using hidden
  cases nested with
  | none =>
    have missing : ']' ∉ run := fun inside => by simpa [Text.isBlank] using blank _ inside
    simp [quotedWord, Word.closing, doubled_eq_none missing, closed] at found
  | some quote =>
    have spanned := Cursor.span_run (place.next '[') blank
      (fun c => by simp : ∀ c, [].head? = some c → _)
    simp only [List.append_nil] at spanned
    simp [nestedWord, spanned] at found

end TableCatalog.Lexer
