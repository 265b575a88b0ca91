import TableCatalog.Name

/-!
# Names without their quotes

A name is reported under the texts of its parts. How they are quoted does not matter: quoting a
text adds marks to it and, where a mark is doubled already or follows a backslash, keeps it; and
marks are what is taken away.
-/

namespace TableCatalog

section Escaping

variable {keep : Char → Bool} {quote : Char}

/-- Escaping a text for a mark changes nothing but how often the mark stands in it. -/
theorem filter_escapeQuoted (dropped : keep quote = false) (before : Char) (text : List Char) :
    (escapeQuoted quote before text).filter keep = text.filter keep := by
  fun_induction escapeQuoted quote before text with
  | case1 => rfl
  | case2 before c doubled =>
    obtain rfl : c = quote := by simpa using (Bool.and_eq_true_iff.1 doubled).1
    simp [dropped]
  | case3 => rfl
  | case4 before c d rest mark escaped ih => rw [List.filter_cons, List.filter_cons, ih]
  | case5 before c d rest mark plain doubled ih =>
    rw [List.filter_cons, List.filter_cons, List.filter_cons, List.filter_cons, ih]
  | case6 before c d rest mark plain single ih =>
    obtain rfl : c = quote := by simpa using mark
    have passed (text : List Char) : (c :: text).filter keep = text.filter keep :=
      List.filter_cons_of_neg (by simp [dropped])
    rw [passed, passed, ih, passed]
  | case7 before c d rest other ih => rw [List.filter_cons, List.filter_cons, ih]

/-- Texts that are joined by one that is kept are filtered one by one. -/
theorem filter_intercalate {between : List Char} (kept : between.filter keep = between)
    (parts : List (List Char)) :
    (between.intercalate parts).filter keep = between.intercalate (parts.map (List.filter keep)) := by
  induction parts with
  | nil => rfl
  | cons part parts ih =>
    cases parts with
    | nil => simp
    | cons next parts =>
      rw [List.map_cons, List.map_cons, List.intercalate_cons_cons, List.intercalate_cons_cons,
        ← List.map_cons, ← ih, List.filter_append, List.filter_append, kept]

end Escaping

/-- The ways to quote a name that a report does not show: no mark, the backtick and the double
quote. -/
def plainQuotes : List (Option Char) :=
  [none, some '\x60', some '"']

/-- An identifier in such quotes is reported under its text. -/
theorem Identifier.normalized_eq {name : Identifier} (quoted : name.quote ∈ plainQuotes) :
    name.normalized = withoutIdentifierQuotes name.text := by
  obtain ⟨text, quote, past⟩ := name
  have escaped (mark : Char) (inside : mark = '\x60' ∨ mark = '"') :
      Identifier.normalized ⟨text, some mark, past⟩ = withoutIdentifierQuotes text := by
    have dropped : (mark != '\x60' && mark != '"') = false := by
      rcases inside with rfl | rfl <;> rfl
    have bracket : (mark == '[') = false := by
      rcases inside with rfl | rfl <;> rfl
    have unmarked : (escapeQuoted mark '\x00' text.toList).filter
        (fun c => c != '\x60' && c != '"') = text.toList.filter fun c => c != '\x60' && c != '"' :=
      filter_escapeQuoted dropped _ _
    simp only [Identifier.normalized, Identifier.render, bracket, Bool.false_eq_true, if_false,
      withoutIdentifierQuotes, String.toList_append, String.toList_ofList, List.filter_append,
      unmarked]
    simp [dropped]
  simp only [plainQuotes, List.mem_cons, List.not_mem_nil, or_false] at quoted
  rcases quoted with rfl | rfl | rfl
  · rfl
  · exact escaped _ (.inl rfl)
  · exact escaped _ (.inr rfl)

/-- A name loses its marks part by part, as dots are none. -/
theorem ObjectName.normalized_eq (name : ObjectName) :
    name.normalized = ".".intercalate (name.map Identifier.normalized) := by
  rw [← String.toList_inj]
  simp only [ObjectName.normalized, ObjectName.render, withoutIdentifierQuotes, String.toList_ofList,
    String.toList_intercalate, List.map_map]
  rw [filter_intercalate rfl, List.map_map]
  congr 1
  refine List.map_congr_left fun part _ => ?_
  simp [Identifier.normalized, withoutIdentifierQuotes]

/-- A name in such quotes is reported under the texts of its parts without their marks, whatever
these texts are and however each part is quoted; so is each part alone. -/
theorem ObjectName.normalized_quoted {name : ObjectName}
    (quoted : ∀ part ∈ name, part.quote ∈ plainQuotes) :
    name.normalized =
        ".".intercalate (name.map fun part => withoutIdentifierQuotes part.text) ∧
      (∀ part ∈ name, part.normalized = withoutIdentifierQuotes part.text) ∧
      ∀ other : ObjectName, (∀ part ∈ other, part.quote ∈ plainQuotes) →
        other.map (·.text) = name.map (·.text) → other.normalized = name.normalized := by
  have reported {name : ObjectName} (quoted : ∀ part ∈ name, part.quote ∈ plainQuotes) :
      name.normalized =
        ".".intercalate ((name.map (·.text)).map withoutIdentifierQuotes) := by
    rw [ObjectName.normalized_eq, List.map_map]
    congr 1
    exact List.map_congr_left fun part member => Identifier.normalized_eq (quoted part member)
  refine ⟨?_, fun part member => Identifier.normalized_eq (quoted part member), ?_⟩
  · rw [reported quoted, List.map_map]
    rfl
  · intro other quoted' same
    rw [reported quoted', reported quoted, same]

/-- Two parts, one with marks of its own between backslashes, one doubled. -/
theorem ObjectName.normalized_quoted_mixed :
    let parts (first second : Option Char) : ObjectName :=
      [⟨"a\"\\\"\\\x60b", first, Location.none⟩, ⟨"\"\"c\x60\x60\"", second, Location.none⟩]
    let name := parts (some '"') (some '\x60')
    let other := parts none (some '"')
    (∀ part ∈ name, part.quote ∈ plainQuotes) ∧ (∀ part ∈ other, part.quote ∈ plainQuotes) ∧
      other.map (·.text) = name.map (·.text) ∧
      name.normalized =
        ".".intercalate (name.map fun part => withoutIdentifierQuotes part.text) ∧
      (∀ part ∈ name, part.normalized = withoutIdentifierQuotes part.text) ∧
      other.normalized = name.normalized ∧ name.normalized = "a\\\\b.c" := by
  intro parts name other
  have quoted : ∀ part ∈ name, part.quote ∈ plainQuotes := by decide
  have quoted' : ∀ part ∈ other, part.quote ∈ plainQuotes := by decide
  obtain ⟨joined, each, same⟩ := ObjectName.normalized_quoted quoted
  exact ⟨quoted, quoted', rfl, joined, each, same other quoted' rfl, by decide +kernel⟩

end TableCatalog
