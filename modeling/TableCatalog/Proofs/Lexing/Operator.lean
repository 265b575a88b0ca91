import Mathlib.Data.List.Basic
import Mathlib.Data.List.Induction
import TableCatalog.Proofs.Lexing.Word

/-!
# Operators

The longest operator of a table is taken. Where less follows than before, no longer one can
stand there, as no operator has a line feed in it.
-/

namespace TableCatalog.Lexer

variable (line : Bool) {grammar : Grammar} {token : Token} {after : Cursor} {place : Location}

/-- No grammar has line feeds in its operators. -/
theorem continuesOperator_feed (grammar : Grammar) : grammar.continuesOperator '\n' = false := by
  cases grammar <;> decide

/-- The longest operator of a table is one of those that stand there, and none is longer. -/
theorem operatorAt?_longest (table : List (List Char × String)) (rest : List Char) :
    (∀ found, operatorAt? table rest = some found → found.1 ≠ [] ∧ found.1 <+: rest) ∧
      ∀ entry ∈ table, entry.1 <+: rest →
        entry.1.length ≤ (operatorAt? table rest).elim 0 (·.1.length) := by
  unfold operatorAt?
  induction table using List.reverseRecOn with
  | nil => simp
  | append_singleton table entry ih =>
    obtain ⟨stands, longest⟩ := ih
    simp only [List.foldl_append, List.foldl_cons, List.foldl_nil]
    generalize List.foldl _ none table = best at stands longest ⊢
    split
    · rename_i longer
      simp only [Bool.and_eq_true, List.isPrefixOf_iff_prefix, decide_eq_true_eq] at longer
      refine ⟨?_, ?_⟩
      · rintro found ⟨⟩
        exact ⟨List.ne_nil_of_length_pos (Nat.zero_lt_of_lt longer.2), longer.1⟩
      · intro other member standing
        rcases List.mem_append.1 member with earlier | last
        · have bound := longest other earlier standing
          simp only [Option.elim_some]
          omega
        · simp_all
    · rename_i shorter
      refine ⟨stands, fun other member standing => ?_⟩
      rcases List.mem_append.1 member with earlier | last
      · exact longest other earlier standing
      · obtain rfl : other = entry := by simpa using last
        simp only [Bool.and_eq_true, List.isPrefixOf_iff_prefix, decide_eq_true_eq, standing,
          true_and] at shorter
        omega

/-- Texts that the same operators stand at the beginning of have the same operator. -/
theorem operatorAt?_congr {table : List (List Char × String)} {rest rest' : List Char}
    (same : ∀ entry ∈ table, entry.1 <+: rest ↔ entry.1 <+: rest') :
    operatorAt? table rest = operatorAt? table rest' := by
  unfold operatorAt?
  refine List.foldl_ext _ _ _ fun best entry member => ?_
  have prefixes : entry.1.isPrefixOf rest = entry.1.isPrefixOf rest' := by
    rw [Bool.eq_iff_iff]
    simpa using same entry member
  simp [prefixes]

/-- An operator is found again before whatever may follow it, if it is as long as all
others that stood there. -/
theorem operatorAt?_append {table : List (List Char × String)} {run follows kept : List Char}
    (printed : ∀ entry ∈ table, '\n' ∉ entry.1)
    (bound : (operatorAt? table (run ++ follows)).elim 0 (·.1.length) ≤ run.length)
    (continues : Continues line follows kept) :
    operatorAt? table (run ++ kept) = operatorAt? table (run ++ follows) := by
  refine operatorAt?_congr fun entry member => ⟨fun standing => ?_, fun standing => ?_⟩
  · exact (continues.append run).prefix_of (printed entry member) standing
  · have short := (operatorAt?_longest table (run ++ follows)).2 entry member standing
    have inside : entry.1 <+: run :=
      List.prefix_of_prefix_length_le standing (List.prefix_append run follows) (by omega)
    exact inside.trans (List.prefix_append run kept)

/-- No operator that others prolong has a line feed in it. -/
theorem openOperators_printed : ∀ entry ∈ openOperators, '\n' ∉ entry.1 := by decide +kernel

/-- Nor has any other operator. -/
theorem closedOperators_printed : ∀ entry ∈ closedOperators, '\n' ∉ entry.1 := by decide +kernel

/-- An operator that further operator characters prolong stands with them. -/
theorem stands_openOperator {c : Char} {rest spelling : List Char} {text : String}
    (prolonged : operatorAt? openOperators (c :: rest) = some (spelling, text))
    (found : operator grammar ⟨c :: rest, place⟩ = .ok (token, after)) :
    Stands line c (operator grammar) rest token after := by
  obtain ⟨filled, more, shape⟩ := (operatorAt?_longest openOperators (c :: rest)).1 _ prolonged
  obtain ⟨run, tail, rfl, spanned⟩ := exists_span grammar.continuesOperator
    (fun _ : line = true => continuesOperator_feed grammar) more
  have skipped (kept : List Char) (place : Location) :
      (Cursor.mk (spelling ++ (run ++ kept)) place).skip spelling.length =
        ⟨run ++ kept, place.after spelling⟩ := Cursor.skip_append place rfl
  simp only at shape
  simp only [operator, prolonged] at found
  rw [← shape, skipped, spanned tail _ (Continues.refl line tail)] at found
  obtain ⟨rfl, rfl⟩ := Prod.mk.inj (Except.ok.inj found)
  refine Stands.of_run (spelling ++ run) (by simp_all) (by simp [← shape])
    fun kept place continues => ?_
  have again : operatorAt? openOperators ((spelling ++ run) ++ kept) = some (spelling, text) := by
    rw [← prolonged, ← shape, ← List.append_assoc]
    refine operatorAt?_append line openOperators_printed ?_ continues
    rw [List.append_assoc, shape, prolonged]
    simp
  rw [List.append_assoc] at again
  simp only [List.append_assoc, operator, again, skipped, spanned kept _ continues]
  rw [Location.after_append]

/-- An operator stands, as no longer one stands there. -/
theorem stands_operator {c : Char} {rest : List Char}
    (found : operator grammar ⟨c :: rest, place⟩ = .ok (token, after)) :
    Stands line c (operator grammar) rest token after := by
  cases prolonged : operatorAt? openOperators (c :: rest) with
  | some entry => exact stands_openOperator line prolonged found
  | none =>
    have unprolonged (run : List Char) {kept : List Char} (shape : c :: rest = run ++ after.rest)
        (continues : Continues line after.rest kept) :
        operatorAt? openOperators (run ++ kept) = none := by
      rw [← prolonged, shape]
      exact operatorAt?_append line openOperators_printed (by simp [← shape, prolonged]) continues
    cases whole : operatorAt? closedOperators (c :: rest) with
    | some entry =>
      obtain ⟨spelling, text⟩ := entry
      obtain ⟨filled, tail, shape⟩ := (operatorAt?_longest closedOperators (c :: rest)).1 _ whole
      simp only at shape
      simp only [operator, prolonged, whole] at found
      rw [← shape, Cursor.skip_append place rfl] at found
      obtain ⟨rfl, rfl⟩ := Prod.mk.inj (Except.ok.inj found)
      refine Stands.of_run spelling filled shape.symm fun kept place continues => ?_
      have again : operatorAt? closedOperators (spelling ++ kept) = some (spelling, text) := by
        rw [← whole, ← shape]
        exact operatorAt?_append line closedOperators_printed (by simp [shape, whole]) continues
      simp only [operator, unprolonged spelling shape.symm continues, again,
        Cursor.skip_append place rfl]
    | none =>
      simp only [operator, prolonged, whole] at found
      obtain ⟨rfl, rfl⟩ := Prod.mk.inj (Except.ok.inj found)
      refine ⟨[], rfl, fun kept place continues => ?_⟩
      have again : operatorAt? closedOperators ([c] ++ kept) = none := by
        rw [← whole, ← List.singleton_append]
        exact operatorAt?_append line closedOperators_printed (by simp [whole]) continues
      have before := unprolonged [c] rfl continues
      simp only [List.singleton_append] at before again
      simp only [List.nil_append, operator, before, again]
      rfl

/-- `#` at the end of a text is an operator. -/
theorem operator_hash :
    operator grammar ⟨['#'], place⟩ = .ok (.symbol "#", ⟨[], place.next '#'⟩) := by
  rfl

/-- What `#` begins stands, unless it ends the text and may begin a word. -/
theorem stands_hash {rest : List Char}
    (solid : line = true → takesLine grammar token = true → after.rest ≠ [])
    (found : hash grammar ⟨'#' :: rest, place⟩ = .ok (token, after)) :
    Stands line '#' (hash grammar) rest token after := by
  cases rest with
  | nil =>
    by_cases starts : grammar.startsWord '#' = true
    · obtain ⟨rfl, rfl⟩ := Prod.mk.inj (Except.ok.inj (operator_hash.symm.trans found))
      refine ⟨[], rfl, fun kept place continues => ?_⟩
      obtain rfl := continues.of_nil line fun allowed => solid allowed (by simp [takesLine, starts])
      exact operator_hash
    · refine Stands.congr (stands_operator line found) fun kept place continues => ?_
      cases kept with
      | nil => rfl
      | cons d kept =>
        obtain ⟨-, rfl⟩ : line = true ∧ d = '\n' := by simpa using continues.head? rfl
        simp [hash, starts]
  | cons d rest =>
    by_cases space : d = ' '
    · subst space
      obtain ⟨rfl, rfl⟩ := Prod.mk.inj (Except.ok.inj found)
      refine ⟨[], rfl, fun kept place continues => ?_⟩
      rcases continues.of_cons_left with rfl | ⟨tail, rfl, -⟩
      · exact operator_hash
      · rfl
    · by_cases wordly : d ≠ '-' ∧ d ≠ '>' ∧ grammar.startsWord '#' = true
      · obtain ⟨dash, greater, starts⟩ := wordly
        have opens (rest : List Char) (place : Location) :
            hash grammar ⟨'#' :: ([d] ++ rest), place⟩ =
              word grammar ['#', d].length ⟨'#' :: ([d] ++ rest), place⟩ := by
          simp [hash, starts]
        exact stands_word line [d] opens found
      · have opens (rest : List Char) (place : Location) :
            hash grammar ⟨'#' :: d :: rest, place⟩ =
              operator grammar ⟨'#' :: d :: rest, place⟩ := by
          by_cases dash : d = '-'
          · subst dash; rfl
          · by_cases greater : d = '>'
            · subst greater; rfl
            · have starts : grammar.startsWord '#' = false := by simpa [dash, greater] using wordly
              simp [hash, starts]
        rw [opens] at found
        obtain ⟨run, shape, gives⟩ := stands_operator line found
        refine ⟨run, shape, fun kept place continues => ?_⟩
        rw [← gives kept place continues]
        rcases (shape ▸ continues.append run).of_cons_left with ended | ⟨tail, goesOn, -⟩
        · rw [ended]
          rfl
        · rw [goesOn, opens]

/-- What `?` begins stands, unless it ends the text. -/
theorem stands_questionMark {rest : List Char}
    (solid : line = true → takesLine grammar token = true → after.rest ≠ [])
    (found : questionMark grammar ⟨'?' :: rest, place⟩ = .ok (token, after)) :
    Stands line '?' (questionMark grammar) rest token after := by
  by_cases postgres : grammar = .postgres
  · have opens (rest : List Char) (place : Location) : questionMark grammar ⟨'?' :: rest, place⟩ =
        .ok (.symbol (if rest.head? = some '|' then "?|" else if rest.head? = some '&' then "?&"
          else "?"), (Cursor.mk ('?' :: rest) place).skip 2) := by
      subst postgres
      cases rest with
      | nil => rfl
      | cons d rest =>
        by_cases bar : d = '|'
        · subst bar; rfl
        · by_cases ampersand : d = '&'
          · subst ampersand; rfl
          · simp [questionMark, bar, ampersand]
    rw [opens] at found
    obtain ⟨rfl, rfl⟩ := Prod.mk.inj (Except.ok.inj found)
    cases rest with
    | nil =>
      refine ⟨[], rfl, fun kept place continues => ?_⟩
      obtain rfl := continues.of_nil line fun allowed => solid allowed rfl
      rw [List.nil_append, opens]
      rfl
    | cons d rest =>
      refine ⟨[d], rfl, fun kept place continues => ?_⟩
      rw [List.singleton_append, opens]
      rfl
  · have opens (rest : List Char) (place : Location) : questionMark grammar ⟨'?' :: rest, place⟩ =
        let spanned := (Cursor.mk rest (place.next '?')).span Text.isNumeric
        .ok (.placeholder (String.ofList ('?' :: spanned.1)), spanned.2) := by
      simp [questionMark, postgres]
    obtain ⟨digits, tail, rfl, spanned⟩ := exists_span Text.isNumeric
      (fun _ : line = true => by decide) rest
    rw [opens, spanned tail _ (Continues.refl line tail)] at found
    obtain ⟨rfl, rfl⟩ := Prod.mk.inj (Except.ok.inj found)
    refine ⟨digits, rfl, fun kept place continues => ?_⟩
    rw [opens, spanned kept _ continues]
    rfl

end TableCatalog.Lexer
