import Mathlib.Data.List.DropRight
import TableCatalog.Proofs.Place

/-!
# Places and offsets

The place that reading a text leads to is told by two counts: its line by the line feeds of the
text, its column by the characters behind the last of them. The bytes before a place are those
of the text before it.
-/

namespace TableCatalog.Location

/-- The characters of a text behind its last line feed. -/
def lastLine (text : List Char) : List Char :=
  text.rtakeWhile (· != '\n')

/-- Behind a line feed a new line begins. -/
theorem lastLine_feed (text : List Char) : lastLine (text ++ ['\n']) = [] :=
  List.rtakeWhile_concat_neg _ _ _ (by simp)

/-- Any other character goes to the line that a text ends with. -/
theorem lastLine_concat {c : Char} (printed : c ≠ '\n') (text : List Char) :
    lastLine (text ++ [c]) = lastLine text ++ [c] :=
  List.rtakeWhile_concat_pos _ _ _ (by simpa using printed)

/-- The last line holds no line feed. -/
theorem flat_lastLine (text : List Char) : '\n' ∉ lastLine text := by
  intro inside
  simpa using List.mem_rtakeWhile_imp inside

section Counting

/-- Reading a text counts its line feeds and the characters of its last line. -/
theorem start_after (text : List Char) :
    start.after text = ⟨text.count '\n' + 1, (lastLine text).length + 1⟩ := by
  induction text using List.reverseRecOn with
  | nil => rfl
  | append_singleton text c ih =>
    rw [after_append, ih, after_cons, after_nil, next]
    by_cases feed : c = '\n'
    · subst feed
      simp [lastLine_feed, List.count_append]
    · simp [lastLine_concat feed, feed, List.count_append]

/-- Behind the line feeds of a text stands its last line. -/
theorem dropLines_count (text rest : List Char) :
    dropLines (text.count '\n') (text ++ rest) = some (lastLine text ++ rest) := by
  induction text using List.reverseRecOn generalizing rest with
  | nil => simp [dropLines, lastLine]
  | append_singleton text c ih =>
    have before := ih (c :: rest)
    rw [List.append_assoc, List.singleton_append, List.count_append, dropLines_add, before,
      Option.bind_some]
    by_cases feed : c = '\n'
    · subst feed
      rw [lastLine_feed, List.count_singleton_self]
      exact dropLines_one_append (flat_lastLine text) rest
    · rw [lastLine_concat feed, List.count_eq_zero.2 (by simpa using Ne.symm feed)]
      simp [dropLines]

end Counting

section Bytes

/-- The bytes of a text are those of its encoding. -/
theorem byteLength_eq (text : List Char) : byteLength text = (String.ofList text).utf8ByteSize := by
  induction text using List.reverseRecOn with
  | nil => rfl
  | append_singleton text c ih =>
    have longer : byteLength (text ++ [c]) = byteLength text + c.utf8Size :=
      List.foldl_concat ..
    rw [longer, ih, String.ofList_append, String.utf8ByteSize_append]
    simp

/-- Texts one after another take up the bytes of both. -/
@[simp] theorem byteLength_append (front back : List Char) :
    byteLength (front ++ back) = byteLength front + byteLength back := by
  simp only [byteLength_eq, String.ofList_append, String.utf8ByteSize_append]

@[simp] theorem byteLength_nil : byteLength [] = 0 := rfl

@[simp] theorem byteLength_cons (c : Char) (text : List Char) :
    byteLength (c :: text) = c.utf8Size + byteLength text := by
  have first : byteLength [c] = c.utf8Size := Nat.zero_add _
  rw [← List.singleton_append, byteLength_append, first]

/-- Only the empty text takes up no bytes. -/
theorem byteLength_eq_zero_iff {text : List Char} : byteLength text = 0 ↔ text = [] := by
  rw [byteLength_eq, String.utf8ByteSize_eq_zero_iff, ← String.toList_inj, String.toList_ofList]
  rfl

/-- Of two texts that begin a text the one with fewer bytes begins the other. -/
theorem prefix_of_byteLength_le {first second text : List Char} (here : first <+: text)
    (there : second <+: text) (shorter : byteLength first ≤ byteLength second) :
    first <+: second := by
  rcases List.prefix_or_prefix_of_prefix here there with begins | ⟨more, rfl⟩
  · exact begins
  · rw [byteLength_append] at shorter
    obtain rfl : more = [] := byteLength_eq_zero_iff.1 (by omega)
    exact ⟨[], by rw [List.append_nil, List.append_nil]⟩

/-- The bytes before a place are those of the text before it. -/
theorem byteOffset?_eq (text : List Char) (place : Location) :
    place.byteOffset? text =
      (place.before? text).map fun front => (String.ofList front).utf8ByteSize := by
  rw [byteOffset?, before?]
  cases found : place.rest? text with
  | none => rfl
  | some rest =>
    obtain ⟨front, rfl, -⟩ := exists_before found
    simp [byteLength_eq, String.ofList_append]

/-- The place that a cursor comes to behind a text has the bytes of that text before it. -/
theorem byteOffset?_skip (text rest : List Char) :
    let place : Location := ⟨text.count '\n' + 1, (lastLine text).length + 1⟩
    (Cursor.ofText (text ++ rest)).skip text.length = ⟨rest, place⟩ ∧
      place.byteOffset? (text ++ rest) = some (String.ofList text).utf8ByteSize := by
  intro place
  have reached : start.after text = place := start_after text
  constructor
  · simp [Cursor.skip, Cursor.past, Cursor.ofText, reached]
  · rw [byteOffset?_eq, ← reached, before?_after, Option.map_some]

/-- A line counts from its first character, whatever the lines before it take in bytes. -/
example : byteOffset? "-- \u7528\u6237\n\u8868 x".toList ⟨2, 3⟩ = some 14 := by decide

end Bytes

end TableCatalog.Location
