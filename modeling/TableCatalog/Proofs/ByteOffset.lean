import TableCatalog.Proofs.Offset
import TableCatalog.Proofs.Unicode

/-!
# Offsets in bytes

A text is kept as its bytes in UTF-8, and a part of it is taken out by the offsets of its ends.
An offset inside a character bounds no part. An ASCII character is one byte, which no other
character has among its bytes, so that ASCII characters can be looked for byte by byte.
-/

namespace TableCatalog.Text

open Location (byteLength byteLength_append byteLength_eq)

/-- The bytes of a text. -/
def bytes (text : String) : List UInt8 :=
  text.toUTF8.data.toList

/-- Whether an offset is not behind the end of a text and not inside a character of it. -/
def OnBoundary (text : String) (offset : Nat) : Prop :=
  (String.Pos.Raw.mk offset).IsValid text

instance (text : String) (offset : Nat) : Decidable (OnBoundary text offset) :=
  inferInstanceAs (Decidable ((String.Pos.Raw.mk offset).IsValid text))

/-- The part of a text between two offsets; none if they are out of order, or if one of them is
inside a character or behind the end. -/
def slice? (text : String) (first past : Nat) : Option String :=
  if sound : first ≤ past ∧ OnBoundary text first ∧ OnBoundary text past then
    some (text.extract (text.pos ⟨first⟩ sound.2.1) (text.pos ⟨past⟩ sound.2.2))
  else none

/-- The bytes of characters, one after another. -/
def encode (text : List Char) : List UInt8 :=
  text.flatMap String.utf8EncodeChar

variable {c mark : Char} {front mid back text : List Char}

section Offsets

@[simp] theorem encode_nil : encode [] = [] := rfl

@[simp] theorem encode_cons (c : Char) (text : List Char) :
    encode (c :: text) = String.utf8EncodeChar c ++ encode text := rfl

/-- The bytes of texts one after another are those of the texts. -/
@[simp] theorem encode_append (front back : List Char) :
    encode (front ++ back) = encode front ++ encode back :=
  List.flatMap_append

/-- The bytes of a string are those of its characters. -/
theorem bytes_ofList (text : List Char) : bytes (String.ofList text) = encode text := by
  rw [bytes, String.toUTF8_eq_toByteArray, String.toByteArray_ofList, List.utf8Encode,
    List.toList_data_toByteArray, encode]

/-- A text takes up as many bytes as its encoding has. -/
@[simp] theorem length_encode (text : List Char) : (encode text).length = byteLength text := by
  rw [byteLength_eq, ← bytes_ofList, bytes, String.toUTF8_eq_toByteArray, Array.length_toList,
    ByteArray.size_data, String.size_toByteArray]

/-- Behind the characters before it an offset is in the text if more of them follow. -/
theorem byteLength_lt_iff :
    byteLength front < (String.ofList (front ++ back)).utf8ByteSize ↔ back ≠ [] := by
  rw [← byteLength_eq, byteLength_append, Nat.lt_add_right_iff_pos, Nat.pos_iff_ne_zero, ne_eq,
    Location.byteLength_eq_zero_iff]

/-- Behind some characters stand the bytes of what follows them. -/
theorem getElem?_bytes (front back : List Char) (count : Nat) :
    (bytes (String.ofList (front ++ back)))[byteLength front + count]? = (encode back)[count]? := by
  rw [bytes_ofList, encode_append, ← length_encode,
    List.getElem?_append_right (Nat.le_add_right ..), Nat.add_sub_cancel_left]

end Offsets

section Slices

/-- An offset is a boundary if it counts the bytes of some characters at the head of the text. -/
theorem onBoundary_iff {text : String} {offset : Nat} :
    OnBoundary text offset ↔
      ∃ front back, text = String.ofList (front ++ back) ∧ offset = byteLength front := by
  constructor
  · intro boundary
    obtain ⟨front, back, rfl, place⟩ := String.Pos.Raw.isValid_iff_exists_append.1 boundary
    refine ⟨front.toList, back.toList, ?_, ?_⟩
    · rw [String.ofList_append, String.ofList_toList, String.ofList_toList]
    · rw [byteLength_eq, String.ofList_toList]
      exact congrArg String.Pos.Raw.byteIdx place
  · rintro ⟨front, back, rfl, rfl⟩
    refine String.Pos.Raw.isValid_iff_exists_append.2
      ⟨String.ofList front, String.ofList back, String.ofList_append, ?_⟩
    rw [byteLength_eq]
    rfl

/-- Where a text goes over into the next one is a boundary. -/
theorem onBoundary_append (front back : List Char) :
    OnBoundary (String.ofList (front ++ back)) (byteLength front) :=
  onBoundary_iff.2 ⟨front, back, rfl, rfl⟩

/-- The characters between two boundaries are what is taken out there. -/
theorem slice?_append (front mid back : List Char) :
    slice? (String.ofList (front ++ (mid ++ back))) (byteLength front) (byteLength (front ++ mid)) =
      some (String.ofList mid) := by
  have inOrder : byteLength front ≤ byteLength (front ++ mid) := by
    rw [byteLength_append]
    exact Nat.le_add_right ..
  have first : OnBoundary (String.ofList (front ++ (mid ++ back))) (byteLength front) :=
    onBoundary_append ..
  have past : OnBoundary (String.ofList (front ++ (mid ++ back))) (byteLength (front ++ mid)) := by
    rw [← List.append_assoc]
    exact onBoundary_append ..
  have size (text : List Char) : byteLength text = (String.ofList text).toByteArray.size := by
    rw [byteLength_eq, String.size_toByteArray]
  rw [slice?, dif_pos ⟨inOrder, first, past⟩, Option.some.injEq, ← String.toByteArray_inj,
    String.toByteArray_extract]
  simp only [String.offset_pos, size, String.ofList_append, String.toByteArray_append,
    ByteArray.size_append]
  exact (ByteArray.extract_append_size_add (i := 0)).trans (ByteArray.extract_append_eq_left rfl)

/-- What is taken out are whole characters that stand there in the text. -/
theorem slice?_eq_some_iff {text part : String} {first past : Nat} :
    slice? text first past = some part ↔
      ∃ front back, text = String.ofList (front ++ (part.toList ++ back)) ∧
        first = byteLength front ∧ past = byteLength (front ++ part.toList) := by
  constructor
  · intro taken
    obtain ⟨inOrder, boundary, boundary'⟩ : first ≤ past ∧ OnBoundary text first ∧
        OnBoundary text past := by
      by_contra unsound
      rw [slice?, dif_neg unsound] at taken
      cases taken
    obtain ⟨front, rest, rfl, rfl⟩ := onBoundary_iff.1 boundary
    obtain ⟨whole, back, shape, rfl⟩ := onBoundary_iff.1 boundary'
    have shape : front ++ rest = whole ++ back := String.ofList_injective shape
    obtain ⟨mid, rfl⟩ : front <+: whole :=
      Location.prefix_of_byteLength_le ⟨rest, rfl⟩ ⟨back, shape.symm⟩ inOrder
    rw [shape, List.append_assoc, slice?_append] at taken
    obtain rfl := Option.some.inj taken
    rw [String.toList_ofList]
    exact ⟨front, back, by rw [shape, List.append_assoc], rfl, rfl⟩
  · rintro ⟨front, back, rfl, rfl, rfl⟩
    rw [slice?_append, String.ofList_toList]

/-- What is left behind a front is sliced out as it is. -/
theorem slice?_end (front back : List Char) :
    slice? (String.ofList (front ++ back)) (byteLength front) (byteLength (front ++ back)) =
      some (String.ofList back) := by
  simpa using slice?_append front back []

end Slices

section Ascii

/-- Whether a test passes ASCII characters only. -/
def OnlyAscii (p : Char → Bool) : Prop :=
  ∀ c, p c = true → c.toNat < 0x80

/-- The first byte of a character. -/
def lead (c : Char) : UInt8 :=
  (String.utf8EncodeChar c).headD 0

/-- An ASCII character is one byte. -/
theorem encodeChar_of_ascii (ascii : c.toNat < 0x80) : String.utf8EncodeChar c = [c.toUInt8] := by
  have code : c.val.toNat = c.toNat := rfl
  rw [String.utf8EncodeChar, code, if_pos (Nat.le_of_lt_succ ascii)]
  rfl

/-- An ASCII character is its byte. -/
theorem toNat_toUInt8 (ascii : c.toNat < 0x80) : c.toUInt8.toNat = c.toNat :=
  toNat_byte (Nat.lt_trans ascii (by decide))

/-- No byte of a character beyond ASCII is in it. -/
theorem le_toNat_of_mem_encodeChar (beyond : 0x80 ≤ c.toNat) :
    ∀ byte ∈ String.utf8EncodeChar c, 0x80 ≤ byte.toNat := by
  have code : c.val.toNat = c.toNat := rfl
  have bound : c.toNat < 0x110000 := toNat_lt c
  have high {number : Nat} (least : 0x80 ≤ number) (most : number < 256) :
      0x80 ≤ (UInt8.ofNat number).toNat := by
    rwa [toNat_byte most]
  have continues (number : Nat) : 0x80 ≤ (UInt8.ofNat (number % 64 + 128)).toNat :=
    high (by omega) (by omega)
  rw [String.utf8EncodeChar, code, if_neg (by omega)]
  split
  on_goal 2 => split
  -- the forms of two, of three and of four bytes
  all_goals
    simp only [List.forall_mem_cons, List.not_mem_nil, false_imp_iff, implies_true, continues,
      and_true]
    exact high (by omega) (by omega)

/-- A character has one byte at least, and the first is its lead. -/
theorem encodeChar_eq_lead_cons (c : Char) : ∃ more, String.utf8EncodeChar c = lead c :: more := by
  have filled : String.utf8EncodeChar c ≠ [] := by
    rw [ne_eq, ← List.length_eq_zero_iff, String.length_utf8EncodeChar]
    exact c.utf8Size_pos.ne'
  obtain ⟨first, more, parts⟩ := List.exists_cons_of_ne_nil filled
  exact ⟨more, by rw [lead, parts, List.headD_cons]⟩

/-- The lead of an ASCII character is all of it. -/
theorem lead_of_ascii (ascii : c.toNat < 0x80) : lead c = c.toUInt8 := by
  rw [lead, encodeChar_of_ascii ascii, List.headD_cons]

/-- No other character leads with a byte of that range, so that no byte is mistaken for ASCII. -/
theorem le_toNat_lead (beyond : 0x80 ≤ c.toNat) : 0x80 ≤ (lead c).toNat := by
  obtain ⟨more, parts⟩ := encodeChar_eq_lead_cons c
  exact le_toNat_of_mem_encodeChar beyond _ (parts ▸ List.mem_cons_self)

/-- An ASCII character adds its byte in front. -/
theorem encode_cons_of_ascii (ascii : c.toNat < 0x80) (text : List Char) :
    encode (c :: text) = c.toUInt8 :: encode text := by
  rw [encode_cons, encodeChar_of_ascii ascii, List.singleton_append]

theorem utf8Size_of_ascii (ascii : c.toNat < 0x80) : c.utf8Size = 1 := by
  rw [← String.length_utf8EncodeChar, encodeChar_of_ascii ascii, List.length_singleton]

/-- A text in ASCII has as many bytes as characters. -/
theorem byteLength_of_ascii (ascii : ∀ c ∈ text, c.toNat < 0x80) :
    byteLength text = text.length := by
  induction text with
  | nil => rfl
  | cons c text ih =>
    obtain ⟨first, ascii⟩ := List.forall_mem_cons.1 ascii
    rw [Location.byteLength_cons, utf8Size_of_ascii first, ih ascii, List.length_cons, Nat.add_comm]

/-- No other character has an ASCII character among its bytes. -/
theorem toUInt8_notMem_encodeChar (ascii : mark.toNat < 0x80) (apart : c ≠ mark) :
    mark.toUInt8 ∉ String.utf8EncodeChar c := by
  intro member
  have byte := toNat_toUInt8 ascii
  by_cases single : c.toNat < 0x80
  · rw [encodeChar_of_ascii single, List.mem_singleton] at member
    have codes : mark.toNat = c.toNat := by
      rw [← byte, member, toNat_toUInt8 single]
    exact apart (Char.toNat_inj.1 codes.symm)
  · have beyond := le_toNat_of_mem_encodeChar (Nat.le_of_not_lt single) _ member
    omega

/-- An ASCII mark is told by the lead of a character. -/
theorem lead_eq_iff (ascii : mark.toNat < 0x80) : lead c = mark.toUInt8 ↔ c = mark := by
  constructor
  · intro same
    obtain ⟨more, parts⟩ := encodeChar_eq_lead_cons c
    by_contra apart
    exact toUInt8_notMem_encodeChar ascii apart (parts ▸ same ▸ List.mem_cons_self)
  · rintro rfl
    exact lead_of_ascii ascii

/-- An ASCII character is at the head of a text if it is the first byte. -/
theorem head?_encode_eq_iff (ascii : mark.toNat < 0x80) :
    (encode text).head? = some mark.toUInt8 ↔ text.head? = some mark := by
  cases text with
  | nil => simp
  | cons c rest =>
    obtain ⟨more, parts⟩ := encodeChar_eq_lead_cons c
    simp [parts, lead_eq_iff ascii]

/-- A test for ASCII characters may look at the first byte alone. -/
theorem OnlyAscii.ofUInt8_lead {p : Char → Bool} (ascii : OnlyAscii p) (c : Char) :
    p (Char.ofUInt8 (lead c)) = p c := by
  have number : (Char.ofUInt8 (lead c)).toNat = (lead c).toNat := rfl
  by_cases single : c.toNat < 0x80
  · have same : Char.ofUInt8 (lead c) = c := by
      rw [← Char.toNat_inj, number, lead_of_ascii single, toNat_toUInt8 single]
    rw [same]
  · have beyond := le_toNat_lead (Nat.le_of_not_lt single)
    have fails (d : Char) (high : 0x80 ≤ d.toNat) : p d = false :=
      Bool.eq_false_iff.2 fun passes => absurd (ascii d passes) (Nat.not_lt.2 high)
    rw [fails _ (number ▸ beyond), fails _ (Nat.le_of_not_lt single)]

end Ascii

end TableCatalog.Text
