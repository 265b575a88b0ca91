import TableCatalog.Table
import TableCatalog.Proofs.CompactText

/-!
# Documents lose nothing

The indented text of a document is the compact one with blanks outside quotes, at every depth. So
neither layout loses anything of a document, and the document of a table loses nothing of the table.
-/

namespace TableCatalog

namespace Document

section Spaces

/-- The blanks that may stand between the parts of a document. -/
def isSpace (c : Char) : Bool :=
  c == ' ' || c == '\t' || c == '\n' || c == '\r'

mutual

/-- A text without the blanks outside its quotes. -/
def squeeze : List Char → List Char
  | [] => []
  | c :: rest =>
    if c == '"' then c :: squeezeQuoted rest
    else if isSpace c then squeeze rest
    else c :: squeeze rest

/-- The rest of a text after an opening quote. A character behind a backslash closes nothing. -/
def squeezeQuoted : List Char → List Char
  | [] => []
  | [c] => [c]
  | c :: d :: rest =>
    if c == '\\' then c :: d :: squeezeQuoted rest
    else if c == '"' then c :: squeeze (d :: rest)
    else c :: squeezeQuoted (d :: rest)

end

/-- In quotes, characters that neither close nor escape are kept. -/
theorem squeezeQuoted_plain {text : List Char} (plain : ∀ c ∈ text, c ≠ '"' ∧ c ≠ '\\')
    (rest : List Char) : squeezeQuoted (text ++ rest) = text ++ squeezeQuoted rest := by
  induction text with
  | nil => rfl
  | cons c text ih =>
    obtain ⟨quote, backslash⟩ := plain c List.mem_cons_self
    have behind := ih fun d member => plain d (List.mem_cons_of_mem _ member)
    rw [List.cons_append, List.cons_append, ← behind]
    cases text ++ rest with
    | nil => simp [squeezeQuoted]
    | cons d following => simp [squeezeQuoted, quote, backslash]

/-- A quote that nothing escapes ends what is kept as it stands. -/
theorem squeezeQuoted_close (rest : List Char) :
    squeezeQuoted ('"' :: rest) = '"' :: squeeze rest := by
  cases rest <;> simp [squeezeQuoted, squeeze]

/-- An escaped character is kept whole, and the text stays in its quotes. -/
theorem squeezeQuoted_escape (c : Char) (rest : List Char) :
    squeezeQuoted (escape c ++ rest) = escape c ++ squeezeQuoted rest := by
  rcases escape_cases c with ⟨plain, quote, backslash⟩ | ⟨d, tail, escaped, plain⟩
  · rw [plain]
    exact squeezeQuoted_plain (by simpa using ⟨quote, backslash⟩) rest
  · rw [escaped, List.cons_append, List.cons_append, squeezeQuoted, if_pos (by rfl),
      squeezeQuoted_plain plain, List.cons_append, List.cons_append]

/-- A text that is another one but for blanks outside quotes, whatever follows both. -/
def Squeezes (long short : List Char) : Prop :=
  ∀ rest, squeeze (long ++ rest) = short ++ squeeze rest

/-- Quoted text is kept, whatever blanks and quotes it holds. -/
theorem squeezes_quote (text : String) : Squeezes (quote text) (quote text) := by
  have inside (chars rest : List Char) : squeezeQuoted (chars.flatMap escape ++ '"' :: rest) =
      chars.flatMap escape ++ '"' :: squeeze rest := by
    induction chars with
    | nil => exact squeezeQuoted_close rest
    | cons c chars ih =>
      rw [List.flatMap_cons, List.append_assoc, squeezeQuoted_escape, ih, List.append_assoc]
  intro rest
  simp only [quote, List.cons_append, List.append_assoc, List.nil_append]
  rw [squeeze, if_pos (by rfl), inside]

/-- Texts one after another are squeezed one after another. -/
theorem Squeezes.append {long short long' short' : List Char} (front : Squeezes long short)
    (back : Squeezes long' short') : Squeezes (long ++ long') (short ++ short') := by
  intro rest
  rw [List.append_assoc, front, back, List.append_assoc]

/-- Text without quotes and blanks stays as it is. -/
theorem squeezes_marks {marks : List Char} (plain : ∀ c ∈ marks, c ≠ '"' ∧ isSpace c = false) :
    Squeezes marks marks := by
  intro rest
  induction marks with
  | nil => rfl
  | cons c marks ih =>
    obtain ⟨quote, visible⟩ := plain c List.mem_cons_self
    rw [List.cons_append, squeeze, if_neg (by simpa using quote), if_neg (by simp [visible]),
      ih fun d member => plain d (List.mem_cons_of_mem _ member), List.cons_append]

/-- A line feed and its indentation vanish. -/
theorem squeezes_newLine (depth : Nat) : Squeezes (newLine depth) [] := by
  have blanks (count : Nat) (rest : List Char) :
      squeeze (List.replicate count ' ' ++ rest) = squeeze rest := by
    induction count with
    | zero => rfl
    | succ count ih =>
      rw [List.replicate_succ, List.cons_append, squeeze]
      exact ih
  intro rest
  rw [newLine, List.cons_append, squeeze]
  exact blanks (2 * depth) rest

end Spaces

section Lines

variable {α : Type} {opening close : Char} {depth : Nat} {long short : α → List Char}

/-- The items after the first one on lines of their own, through the closing mark. -/
def joinedLines (depth : Nat) (close : Char) (write : α → List Char) : List α → List Char
  | [] => newLine depth ++ [close]
  | item :: rest => ',' :: (newLine (depth + 1) ++ write item ++ joinedLines depth close write rest)

/-- Items between two marks, each on a line of its own. -/
def enclosedLines (depth : Nat) (opening close : Char) (write : α → List Char) :
    List α → List Char
  | [] => [opening, close]
  | first :: rest =>
    opening :: (newLine (depth + 1) ++ write first ++ joinedLines depth close write rest)

theorem squeezes_line (depth : Nat) {item : α} (each : Squeezes (long item) (short item)) :
    Squeezes (newLine depth ++ long item) (short item) :=
  (squeezes_newLine depth).append each

/-- Items on lines of their own are the items joined by commas. -/
theorem squeezes_joinedLines (closing : close ≠ '"' ∧ isSpace close = false) {items : List α}
    (each : ∀ item ∈ items, Squeezes (long item) (short item)) :
    Squeezes (joinedLines depth close long items) (joined close short items) := by
  induction items with
  | nil => exact (squeezes_newLine depth).append (squeezes_marks (by simpa using closing))
  | cons item items ih =>
    have comma : Squeezes [','] [','] := squeezes_marks (by simp [isSpace])
    have line := squeezes_line (depth + 1) (each item List.mem_cons_self)
    have behind := ih fun other member => each other (List.mem_cons_of_mem _ member)
    exact comma.append (line.append behind)

/-- The same with the marks around them. -/
theorem squeezes_enclosedLines (opens : opening ≠ '"' ∧ isSpace opening = false)
    (closing : close ≠ '"' ∧ isSpace close = false) {items : List α}
    (each : ∀ item ∈ items, Squeezes (long item) (short item)) :
    Squeezes (enclosedLines depth opening close long items)
      (enclosed opening close short items) := by
  have mark : Squeezes [opening] [opening] := squeezes_marks (by simpa using opens)
  cases items with
  | nil => exact mark.append (squeezes_marks (by simpa using closing))
  | cons item items =>
    have line := squeezes_line (depth + 1) (each item List.mem_cons_self)
    have behind : Squeezes (joinedLines depth close long items) (joined close short items) :=
      squeezes_joinedLines closing fun other member => each other (List.mem_cons_of_mem _ member)
    exact mark.append (line.append behind)

end Lines

section Indented

/-- The items of an indented list stand on lines one step deeper. -/
theorem indentedItems_eq (depth : Nat) (items : List Document) :
    indentedItems depth items = joinedLines depth ']' (indented (depth + 1)) items := by
  induction items with
  | nil => rw [indentedItems, joinedLines]
  | cons item items ih => rw [indentedItems, joinedLines, ih]

theorem indentedMembers_eq (depth : Nat) (members : List Member) :
    indentedMembers depth members =
      joinedLines depth '\x7d' (indentedMember (depth + 1)) members := by
  induction members with
  | nil => rw [indentedMembers, joinedLines]
  | cons member members ih => rw [indentedMembers, joinedLines, ih]

/-- An indented list is its items on lines of their own in brackets. -/
theorem indented_list (depth : Nat) (items : List Document) :
    indented depth (list items) = enclosedLines depth '[' ']' (indented (depth + 1)) items := by
  cases items with
  | nil => rw [indented, enclosedLines]
  | cons item items => rw [indented, enclosedLines, indentedItems_eq]

/-- An indented record is its members on lines of their own in braces. -/
theorem indented_record (depth : Nat) (members : List Member) :
    indented depth (record members) =
      enclosedLines depth '\x7b' '\x7d' (indentedMember (depth + 1)) members := by
  cases members with
  | nil => rw [indented, enclosedLines]
  | cons member members => rw [indented, enclosedLines, indentedMembers_eq]

mutual

/-- The two layouts of a document differ in blanks outside quotes alone, at every depth. -/
theorem squeezes_indented : ∀ (document : Document) (depth : Nat),
    Squeezes (indented depth document) (compact document)
  | .null, depth => by
    rw [indented, compact]
    exact squeezes_marks (by simp [nullName, isSpace])
  | .bool value, depth => by
    rw [indented, compact]
    cases value
    all_goals exact squeezes_marks (by simp [boolName, isSpace])
  | .text value, depth => by
    rw [indented, compact]
    exact squeezes_quote value
  | .list items, depth => by
    rw [indented_list, compact_list]
    exact squeezes_enclosedLines (by decide) (by decide)
      fun item _ => squeezes_indented item (depth + 1)
  | .record members, depth => by
    rw [indented_record, compact_record]
    exact squeezes_enclosedLines (by decide) (by decide)
      fun member _ => squeezes_indentedMember member (depth + 1)
  termination_by document => sizeOf document
  decreasing_by
    · exact sizeOf_lt_list ‹item ∈ items›
    · exact sizeOf_lt_record ‹member ∈ members›

/-- The two layouts of a member differ in blanks alone, the one behind its colon included. -/
theorem squeezes_indentedMember : ∀ (member : Member) (depth : Nat),
    Squeezes (indentedMember depth member) (compactMember member)
  | .mk key value, depth => by
    have colon : Squeezes [':', ' '] [':'] := fun _ => rfl
    rw [indentedMember, compactMember]
    exact (squeezes_quote key).append (colon.append (squeezes_indented value depth))
  termination_by member => sizeOf member

end

/-- The indented text without its blanks outside quotes is the compact one. -/
theorem squeeze_toLines (document : Document) :
    String.ofList (squeeze document.toLines.toList) = document.toText := by
  have squeezed := squeezes_indented document 0 []
  rw [List.append_nil, squeeze, List.append_nil] at squeezed
  rw [toLines, toText, String.toList_ofList, squeezed]

/-- Documents with one indented text are one document. -/
theorem toLines_inj {first second : Document} :
    first.toLines = second.toLines ↔ first = second := by
  refine ⟨fun same => ?_, fun same => same ▸ rfl⟩
  rw [← toText_inj, ← squeeze_toLines, same, squeeze_toLines]

end Indented

end Document

/-- The document of a column shows all of it. -/
theorem Column.toDocument_injective : Function.Injective Column.toDocument := by
  rintro ⟨name, type, comment, key⟩ ⟨name', type', comment', key'⟩ same
  cases comment <;> cases comment' <;> simp_all [Column.toDocument]

namespace Table

/-- The document of a table shows all of it. -/
theorem toDocument_injective : Function.Injective toDocument := by
  rintro ⟨name, database, columns, partitions⟩ ⟨name', database', columns', partitions'⟩ same
  simp only [toDocument, Document.record.injEq, List.cons.injEq, Member.mk.injEq, true_and,
    Document.text.injEq, Document.list.injEq, and_true] at same
  obtain ⟨rfl, tags, shown, shownPartitions⟩ := same
  obtain rfl := Database.name_injective tags
  obtain rfl := (List.map_inj_right Column.toDocument_injective).1 shown
  obtain rfl := (List.map_inj_right Column.toDocument_injective).1 shownPartitions
  rfl

/-- Both texts of a table show all of it, and one is the other without the blanks outside quotes. -/
theorem texts_lossless (first second : Table) :
    (first.toDocument.toText = second.toDocument.toText ↔ first = second) ∧
      (first.toDocument.toLines = second.toDocument.toLines ↔ first = second) ∧
      String.ofList (Document.squeeze first.toDocument.toLines.toList) =
        first.toDocument.toText := by
  refine ⟨?_, ?_, Document.squeeze_toLines first.toDocument⟩
  · rw [Document.toText_inj, toDocument_injective.eq_iff]
  · rw [Document.toLines_inj, toDocument_injective.eq_iff]

end Table

end TableCatalog
