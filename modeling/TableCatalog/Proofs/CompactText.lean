import TableCatalog.Document

/-!
# The compact text of a document

The compact text of a document tells where it ends, and so do the texts of its parts: documents hold
no numbers, whose digits could go on in what follows. So two documents with one text are one
document, whatever stands in their quotes.
-/

namespace TableCatalog

namespace Document

/-- A value whose text tells where it ends, and that the value is this one. -/
def TellsEnd {α : Type} (write : α → List Char) (value : α) : Prop :=
  ∀ other x y, write value ++ x = write other ++ y → value = other ∧ x = y

section Escaping

/-- The number of a hexadecimal digit in lower case. -/
def hexValue (digit : Char) : Nat :=
  if digit.toNat < 58 then digit.toNat - 48 else digit.toNat - 87

/-- The character that an escaped text begins with, and what follows it. -/
def unescape : List Char → Option (Char × List Char)
  | [] => none
  | '\\' :: 'u' :: '0' :: '0' :: high :: low :: rest =>
    some (Char.ofNat (hexValue high * 16 + hexValue low), rest)
  | '\\' :: 'b' :: rest => some ('\x08', rest)
  | '\\' :: 't' :: rest => some ('\t', rest)
  | '\\' :: 'n' :: rest => some ('\n', rest)
  | '\\' :: 'f' :: rest => some ('\x0c', rest)
  | '\\' :: 'r' :: rest => some ('\r', rest)
  | '\\' :: c :: rest => some (c, rest)
  | c :: rest => some (c, rest)

theorem hexValue_hexDigit {value : Nat} (short : value < 16) :
    hexValue (hexDigit value) = value := by
  decide +revert

/-- An escaped character is read back. -/
theorem unescape_escape (c : Char) (rest : List Char) :
    unescape (escape c ++ rest) = some (c, rest) := by
  unfold escape
  split
  -- No escape of its own: a control character by its two digits, any other as it is.
  case h_8 quote backslash _ _ _ _ _ =>
    split
    case isTrue control =>
      have high : hexValue (hexDigit (c.toNat / 16)) = c.toNat / 16 := hexValue_hexDigit (by omega)
      have low : hexValue (hexDigit (c.toNat % 16)) = c.toNat % 16 := hexValue_hexDigit (by omega)
      simp only [List.cons_append, List.nil_append, unescape, high, low]
      rw [show c.toNat / 16 * 16 + c.toNat % 16 = c.toNat by omega, Char.ofNat_toNat]
    case isFalse =>
      rw [List.singleton_append]
      unfold unescape
      split <;> simp_all
  all_goals rfl

/-- An escaped character tells where it ends, as it is read back. -/
theorem tellsEnd_escape (c : Char) : TellsEnd escape c := by
  intro d x y same
  have read : some (c, x) = some (d, y) := by
    rw [← unescape_escape c x, same, unescape_escape]
  simpa using read

/-- No hexadecimal digit is a quote or a backslash. -/
theorem hexDigit_plain {value : Nat} (short : value < 16) :
    hexDigit value ≠ '"' ∧ hexDigit value ≠ '\\' := by
  decide +revert

/-- A character stands for itself, or a backslash stands in front and no mark behind. -/
theorem escape_cases (c : Char) :
    (escape c = [c] ∧ c ≠ '"' ∧ c ≠ '\\') ∨
      ∃ d tail, escape c = '\\' :: d :: tail ∧ ∀ e ∈ tail, e ≠ '"' ∧ e ≠ '\\' := by
  unfold escape
  split
  case h_8 quote backslash _ _ _ _ _ =>
    split
    case isTrue control =>
      refine .inr ⟨'u', _, rfl, ?_⟩
      simp only [List.forall_mem_cons]
      exact ⟨by decide, by decide, hexDigit_plain (by omega), hexDigit_plain (by omega),
        List.forall_mem_nil _⟩
    case isFalse => exact .inl ⟨rfl, quote, backslash⟩
  all_goals exact .inr ⟨_, [], rfl, List.forall_mem_nil _⟩

/-- An escaped character does not begin with a quote, not even the quote itself. -/
theorem escape_ne_quote (c : Char) (x y : List Char) : escape c ++ x ≠ '"' :: y := by
  rcases escape_cases c with ⟨plain, quote, -⟩ | ⟨d, tail, escaped, -⟩
  · simp [plain, quote]
  · simp [escaped]

/-- Escaped text tells where it ends, by the quote behind it. -/
theorem escaped_unique {first second x y : List Char}
    (same : first.flatMap escape ++ '"' :: x = second.flatMap escape ++ '"' :: y) :
    first = second ∧ x = y := by
  induction first generalizing second with
  | nil =>
    cases second with
    | nil => simpa using same
    | cons d second =>
      rw [List.flatMap_nil, List.nil_append, List.flatMap_cons, List.append_assoc] at same
      exact absurd same.symm (escape_ne_quote d _ x)
  | cons c first ih =>
    cases second with
    | nil =>
      rw [List.flatMap_nil, List.nil_append, List.flatMap_cons, List.append_assoc] at same
      exact absurd same (escape_ne_quote c _ y)
    | cons d second =>
      rw [List.flatMap_cons, List.append_assoc, List.flatMap_cons, List.append_assoc] at same
      obtain ⟨rfl, behind⟩ := tellsEnd_escape c _ _ _ same
      obtain ⟨rfl, rest⟩ := ih behind
      exact ⟨rfl, rest⟩

/-- Quoted text tells where it ends. -/
theorem tellsEnd_quote (text : String) : TellsEnd quote text := by
  intro other x y same
  have inside : text.toList.flatMap escape ++ '"' :: x =
      other.toList.flatMap escape ++ '"' :: y := by
    simpa [quote] using same
  obtain ⟨chars, rest⟩ := escaped_unique inside
  exact ⟨String.toList_inj.1 chars, rest⟩

end Escaping

section Sequences

variable {α : Type} {opening close : Char} {write : α → List Char}

/-- The items after the first one, through the closing mark. -/
def joined (close : Char) (write : α → List Char) : List α → List Char
  | [] => [close]
  | item :: rest => ',' :: (write item ++ joined close write rest)

/-- Items between two marks. -/
def enclosed (opening close : Char) (write : α → List Char) : List α → List Char
  | [] => [opening, close]
  | first :: rest => opening :: (write first ++ joined close write rest)

/-- Items tell where they end, each by itself and all of them by the closing mark, which is no
comma. -/
theorem tellsEnd_joined (differs : close ≠ ',') {items : List α}
    (each : ∀ item ∈ items, TellsEnd write item) : TellsEnd (joined close write) items := by
  induction items with
  | nil =>
    intro others x y same
    cases others with
    | nil => exact ⟨rfl, List.append_cancel_left same⟩
    | cons other others => simp [joined, differs] at same
  | cons item items ih =>
    intro others x y same
    cases others with
    | nil => simp [joined, differs.symm] at same
    | cons other others =>
      simp only [joined, List.cons_append, List.append_assoc, List.cons.injEq, true_and] at same
      obtain ⟨rfl, behind⟩ := each item List.mem_cons_self _ _ _ same
      obtain ⟨rfl, rest⟩ := ih (fun item member => each item (List.mem_cons_of_mem _ member))
        _ _ _ behind
      exact ⟨rfl, rest⟩

/-- Items between marks tell where they end, if none of them begins with the closing mark: this
is what tells the empty sequence apart. -/
theorem tellsEnd_enclosed (differs : close ≠ ',')
    (begins : ∀ item x y, write item ++ x ≠ close :: y) {items : List α}
    (each : ∀ item ∈ items, TellsEnd write item) :
    TellsEnd (enclosed opening close write) items := by
  intro others x y same
  cases items with
  | nil =>
    cases others with
    | nil => exact ⟨rfl, List.append_cancel_left same⟩
    | cons other others =>
      simp only [enclosed, List.cons_append, List.nil_append, List.append_assoc, List.cons.injEq,
        true_and] at same
      exact absurd same.symm (begins other _ x)
  | cons item items =>
    cases others with
    | nil =>
      simp only [enclosed, List.cons_append, List.nil_append, List.append_assoc, List.cons.injEq,
        true_and] at same
      exact absurd same (begins item _ y)
    | cons other others =>
      simp only [enclosed, List.cons_append, List.append_assoc, List.cons.injEq, true_and] at same
      obtain ⟨rfl, behind⟩ := each item List.mem_cons_self _ _ _ same
      obtain ⟨rfl, rest⟩ := tellsEnd_joined differs
        (fun item member => each item (List.mem_cons_of_mem _ member)) _ _ _ behind
      exact ⟨rfl, rest⟩

end Sequences

section Compact

/-- The items of a list are joined by commas. -/
theorem compactItems_eq (items : List Document) :
    compactItems items = joined ']' compact items := by
  induction items with
  | nil => rw [compactItems, joined]
  | cons item items ih => rw [compactItems, joined, ih]

theorem compactMembers_eq (members : List Member) :
    compactMembers members = joined '\x7d' compactMember members := by
  induction members with
  | nil => rw [compactMembers, joined]
  | cons member members ih => rw [compactMembers, joined, ih]

/-- A list is its items in brackets. -/
theorem compact_list (items : List Document) :
    compact (list items) = enclosed '[' ']' compact items := by
  cases items with
  | nil => rw [compact, enclosed]
  | cons item items => rw [compact, enclosed, compactItems_eq]

/-- A record is its members in braces. -/
theorem compact_record (members : List Member) :
    compact (record members) = enclosed '\x7b' '\x7d' compactMember members := by
  cases members with
  | nil => rw [compact, enclosed]
  | cons member members => rw [compact, enclosed, compactMembers_eq]

/-- The characters that documents begin with. -/
def opening : Document → Char
  | null => 'n'
  | bool true => 't'
  | bool false => 'f'
  | text _ => '"'
  | list _ => '['
  | record _ => '\x7b'

/-- A document begins with the character of its kind. -/
theorem exists_compact_eq (document : Document) :
    ∃ tail, compact document = document.opening :: tail := by
  cases document with
  | null => exact ⟨_, rfl⟩
  | bool value => cases value <;> exact ⟨_, rfl⟩
  | text value => exact ⟨_, rfl⟩
  | list items => cases items <;> exact ⟨_, by rw [compact]; rfl⟩
  | record members => cases members <;> exact ⟨_, by rw [compact]; rfl⟩

/-- Two documents of one kind. -/
inductive SameKind : Document → Document → Prop where
  | null : SameKind null null
  | bool (value : Bool) : SameKind (bool value) (bool value)
  | text (first second : String) : SameKind (text first) (text second)
  | list (first second : List Document) : SameKind (list first) (list second)
  | record (first second : List Member) : SameKind (record first) (record second)

/-- The first character of a document tells its kind. -/
theorem sameKind_of_compact {first second : Document} {x y : List Char}
    (same : compact first ++ x = compact second ++ y) : SameKind first second := by
  have openings : first.opening = second.opening := by
    obtain ⟨tail, left⟩ := exists_compact_eq first
    obtain ⟨tail', right⟩ := exists_compact_eq second
    rw [left, right, List.cons_append, List.cons_append] at same
    exact (List.cons.inj same).1
  cases first with
  | bool value =>
    cases second with
    | bool other => cases value <;> cases other <;> simp [opening] at openings <;> constructor
    | _ => cases value <;> simp [opening] at openings
  | _ =>
    cases second with
    | bool other => cases other <;> simp [opening] at openings
    | _ => first | constructor | simp [opening] at openings

/-- No document begins with the mark that closes a list. -/
theorem compact_ne_close (document : Document) (x y : List Char) :
    compact document ++ x ≠ ']' :: y := by
  obtain ⟨tail, shape⟩ := exists_compact_eq document
  rw [shape, List.cons_append]
  intro same
  have closes : document.opening = ']' := (List.cons.inj same).1
  cases document with
  | bool value => cases value <;> simp [opening] at closes
  | _ => simp [opening] at closes

/-- No member begins with the mark that closes a record. -/
theorem compactMember_ne_close (member : Member) (x y : List Char) :
    compactMember member ++ x ≠ '\x7d' :: y := by
  cases member
  simp [compactMember, quote]

/-- The items of a list are smaller than the list. -/
theorem sizeOf_lt_list {items : List Document} {item : Document} (member : item ∈ items) :
    sizeOf item < sizeOf (list items) := by
  have smaller : sizeOf item < sizeOf items := List.sizeOf_lt_of_mem member
  rw [list.sizeOf_spec]
  omega

theorem sizeOf_lt_record {members : List Member} {member : Member} (inside : member ∈ members) :
    sizeOf member < sizeOf (record members) := by
  have smaller : sizeOf member < sizeOf members := List.sizeOf_lt_of_mem inside
  rw [record.sizeOf_spec]
  omega

mutual

/-- A document tells where it ends, by the induction over its parts. -/
theorem tellsEnd_compact : ∀ document : Document, TellsEnd compact document
  | .null => by
    intro other x y same
    cases sameKind_of_compact same
    exact ⟨rfl, List.append_cancel_left same⟩
  | .bool value => by
    intro other x y same
    cases sameKind_of_compact same
    exact ⟨rfl, List.append_cancel_left same⟩
  | .text value => by
    intro other x y same
    cases sameKind_of_compact same
    rw [compact, compact] at same
    obtain ⟨rfl, rest⟩ := tellsEnd_quote value _ _ _ same
    exact ⟨rfl, rest⟩
  | .list items => by
    intro other x y same
    cases sameKind_of_compact same
    rw [compact_list, compact_list] at same
    have each : ∀ item ∈ items, TellsEnd compact item := fun item _ => tellsEnd_compact item
    obtain ⟨rfl, rest⟩ := tellsEnd_enclosed (by decide) compact_ne_close each _ _ _ same
    exact ⟨rfl, rest⟩
  | .record members => by
    intro other x y same
    cases sameKind_of_compact same
    rw [compact_record, compact_record] at same
    obtain ⟨rfl, rest⟩ := tellsEnd_enclosed (by decide) compactMember_ne_close
      (fun member _ => tellsEnd_compactMember member) _ _ _ same
    exact ⟨rfl, rest⟩
  termination_by document => sizeOf document
  decreasing_by
    · exact sizeOf_lt_list ‹item ∈ items›
    · exact sizeOf_lt_record ‹member ∈ members›

/-- A member tells where it ends, by its key and its value. -/
theorem tellsEnd_compactMember : ∀ member : Member, TellsEnd compactMember member
  | .mk key value => by
    rintro ⟨other, document⟩ x y same
    simp only [compactMember, List.append_assoc, List.cons_append] at same
    obtain ⟨rfl, behind⟩ := tellsEnd_quote key _ _ _ same
    obtain ⟨rfl, rest⟩ := tellsEnd_compact value _ _ _ (List.cons.inj behind).2
    exact ⟨rfl, rest⟩
  termination_by member => sizeOf member

end

/-- Documents with one compact text are one document. -/
theorem toText_inj {first second : Document} : first.toText = second.toText ↔ first = second := by
  refine ⟨fun same => ?_, fun same => same ▸ rfl⟩
  have chars : compact first = compact second := String.ofList_injective same
  exact (tellsEnd_compact first second [] [] (by rw [chars])).1

end Compact

end Document

end TableCatalog
