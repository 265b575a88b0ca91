import TableCatalog.Encoding

/-!
# Text in the encodings of Unicode

A text comes back from its bytes in UTF-8 and in UTF-16, whatever characters it holds: the forms
of one to four bytes and the pairs of surrogates are undone by the readers. So all encodings of
Unicode say the same script. Bytes in UTF-16 are never taken for UTF-8, as their mark is not.
-/

namespace TableCatalog

/-- A number below 256 is the number of its byte. -/
theorem toNat_byte {number : Nat} (short : number < 256) : (UInt8.ofNat number).toNat = number :=
  UInt8.toNat_ofNat_of_lt' short

/-- Items that are read one by one from what is written of them are read from all of it. -/
theorem read_flatMap {α β : Type} (read : List β → Option (List α)) {write : α → List β}
    {items : List α} (empty : read [] = some [])
    (each : ∀ item ∈ items, ∀ rest, read (write item ++ rest) = (read rest).map (item :: ·)) :
    read (items.flatMap write) = some items := by
  induction items with
  | nil => exact empty
  | cons item items ih =>
    have behind := ih fun other member => each other (List.mem_cons_of_mem _ member)
    rw [List.flatMap_cons, each item List.mem_cons_self, behind, Option.map_some]

/-- The code points end below 110000 in hexadecimal notation. -/
theorem Text.toNat_lt (c : Char) : c.toNat < 0x110000 := by
  have valid : c.toNat.isValidChar := c.valid
  rcases valid with basic | ⟨-, bound⟩
  · omega
  · exact bound

namespace Utf8

variable {c : Char} {rest : List UInt8}

/-- The six bits of a byte that continues a character. -/
theorem continuation?_ofNat (bits : Nat) :
    continuation? (UInt8.ofNat (bits % 64 + 128)) = some (bits % 64) := by
  have byte : (UInt8.ofNat (bits % 64 + 128)).toNat = bits % 64 + 128 := toNat_byte (by omega)
  have bounds : (0x80 ≤ bits % 64 + 128 && bits % 64 + 128 < 0xC0) = true := by
    simp only [Bool.and_eq_true, decide_eq_true_eq]
    omega
  rw [continuation?, byte, if_pos bounds, Nat.add_sub_cancel]

/-- A character is found by its code point in the form that it needs. -/
theorem scalarFrom?_toNat {least code : Nat} (long : least ≤ c.toNat) (same : code = c.toNat) :
    scalarFrom? least code = some c := by
  rw [same, scalarFrom?, if_pos long, Text.scalar?_toNat]

theorem decode_one {a : UInt8} (lead : a.toNat < 0x80) :
    decode (a :: rest) = (decode rest).map (Char.ofNat a.toNat :: ·) := by
  rw [decode.eq_def]
  exact if_pos lead

theorem decode_two {a b : UInt8} (lead : 0xC0 ≤ a.toNat ∧ a.toNat < 0xE0) :
    decode (a :: b :: rest) = (ofTwo? a b).bind fun char => (decode rest).map (char :: ·) := by
  rw [decode, if_neg (by omega), if_neg (by omega), if_pos lead.2]

theorem decode_three {a b c : UInt8} (lead : 0xE0 ≤ a.toNat ∧ a.toNat < 0xF0) :
    decode (a :: b :: c :: rest) =
      (ofThree? a b c).bind fun char => (decode rest).map (char :: ·) := by
  rw [decode, if_neg (by omega), if_neg (by omega), if_neg (by omega), if_pos lead.2]

theorem decode_four {a b c d : UInt8} (lead : 0xF0 ≤ a.toNat ∧ a.toNat < 0xF8) :
    decode (a :: b :: c :: d :: rest) =
      (ofFour? a b c d).bind fun char => (decode rest).map (char :: ·) := by
  rw [decode, if_neg (by omega), if_neg (by omega), if_neg (by omega), if_neg (by omega),
    if_pos lead.2]

/-- Nothing begins with a byte that continues a character or that is too large. -/
theorem decode_of_lead {a : UInt8}
    (lead : 0x80 ≤ a.toNat ∧ a.toNat < 0xC0 ∨ 0xF8 ≤ a.toNat) : decode (a :: rest) = none := by
  rw [decode.eq_def]
  simp only
  rcases lead with ⟨_, _⟩ | _
  · rw [if_neg (by omega), if_pos (by omega)]
  · rw [if_neg (by omega), if_neg (by omega), if_neg (by omega), if_neg (by omega),
      if_neg (by omega)]

/-- A character beyond ASCII comes back from its two bytes. -/
theorem ofTwo?_form (long : 0x80 ≤ c.toNat) (short : c.toNat < 0x800) :
    ofTwo? (UInt8.ofNat (c.toNat / 64 % 32 + 192)) (UInt8.ofNat (c.toNat % 64 + 128)) = some c := by
  simp only [ofTwo?, continuation?_ofNat, Option.bind_eq_bind, Option.bind_some]
  apply scalarFrom?_toNat long
  rw [toNat_byte (by omega)]
  omega

/-- A character of the basic plane comes back from its three bytes. -/
theorem ofThree?_form (long : 0x800 ≤ c.toNat) (short : c.toNat < 0x10000) :
    ofThree? (UInt8.ofNat (c.toNat / 4096 % 16 + 224)) (UInt8.ofNat (c.toNat / 64 % 64 + 128))
      (UInt8.ofNat (c.toNat % 64 + 128)) = some c := by
  simp only [ofThree?, continuation?_ofNat, Option.bind_eq_bind, Option.bind_some]
  apply scalarFrom?_toNat long
  rw [toNat_byte (by omega)]
  omega

/-- A character beyond the basic plane comes back from its four bytes. -/
theorem ofFour?_form (long : 0x10000 ≤ c.toNat) :
    ofFour? (UInt8.ofNat (c.toNat / 262144 % 8 + 240)) (UInt8.ofNat (c.toNat / 4096 % 64 + 128))
      (UInt8.ofNat (c.toNat / 64 % 64 + 128)) (UInt8.ofNat (c.toNat % 64 + 128)) = some c := by
  have bound : c.toNat < 0x110000 := Text.toNat_lt c
  simp only [ofFour?, continuation?_ofNat, Option.bind_eq_bind, Option.bind_some]
  apply scalarFrom?_toNat long
  rw [toNat_byte (by omega)]
  omega

/-- The character that a text begins with is read from its bytes. -/
theorem decode_encodeChar (c : Char) (rest : List UInt8) :
    decode (String.utf8EncodeChar c ++ rest) = (decode rest).map (c :: ·) := by
  have code : c.val.toNat = c.toNat := rfl
  rw [String.utf8EncodeChar, code]
  split
  case isTrue one =>
    have lead : (UInt8.ofNat c.toNat).toNat = c.toNat := toNat_byte (by omega)
    rw [List.singleton_append, decode_one (by omega), lead, Char.ofNat_toNat]
  case isFalse one =>
    split
    case isTrue two =>
      have lead : (UInt8.ofNat (c.toNat / 64 % 32 + 192)).toNat = c.toNat / 64 % 32 + 192 :=
        toNat_byte (by omega)
      rw [List.cons_append, List.singleton_append, decode_two (by omega),
        ofTwo?_form (by omega) (by omega), Option.bind_some]
    case isFalse two =>
      split
      case isTrue three =>
        have lead : (UInt8.ofNat (c.toNat / 4096 % 16 + 224)).toNat = c.toNat / 4096 % 16 + 224 :=
          toNat_byte (by omega)
        rw [List.cons_append, List.cons_append, List.singleton_append, decode_three (by omega),
          ofThree?_form (by omega) (by omega), Option.bind_some]
      case isFalse three =>
        have bound : c.toNat < 0x110000 := Text.toNat_lt c
        have lead : (UInt8.ofNat (c.toNat / 262144 % 8 + 240)).toNat =
            c.toNat / 262144 % 8 + 240 := toNat_byte (by omega)
        rw [List.cons_append, List.cons_append, List.cons_append, List.singleton_append,
          decode_four (by omega), ofFour?_form (by omega), Option.bind_some]

/-- A string comes back from the bytes that it is kept as. -/
theorem decode_toUTF8 (text : String) : decode text.toUTF8.data.toList = some text.toList := by
  rw [String.toUTF8_eq_toByteArray, ← String.utf8Encode_toList, List.utf8Encode,
    List.toList_data_toByteArray]
  exact read_flatMap decode rfl fun c _ rest => decode_encodeChar c rest

end Utf8

namespace Utf16

/-- The units of a character: its code point, or a pair that shares out the twenty bits by which a
code point lies above the basic plane. -/
def unitsOf (c : Char) : List Nat :=
  if c.toNat < 0x10000 then [c.toNat]
  else [0xD800 + (c.toNat - 0x10000) / 0x400, 0xDC00 + (c.toNat - 0x10000) % 0x400]

/-- The bytes of a unit. -/
def bytesOf (order : ByteOrder) (unit : Nat) : List UInt8 :=
  match order with
  | .little => [UInt8.ofNat (unit % 256), UInt8.ofNat (unit / 256)]
  | .big => [UInt8.ofNat (unit / 256), UInt8.ofNat (unit % 256)]

/-- The bytes of a text. -/
def encode (order : ByteOrder) (text : List Char) : List UInt8 :=
  (text.flatMap unitsOf).flatMap (bytesOf order)

theorem unitsOf_lt {c : Char} {unit : Nat} (member : unit ∈ unitsOf c) : unit < 0x10000 := by
  have valid : c.toNat < 0x110000 := Text.toNat_lt c
  unfold unitsOf at member
  split at member
  case isTrue basic =>
    rw [List.mem_singleton.1 member]
    exact basic
  case isFalse beyond =>
    rcases List.mem_cons.1 member with first | second
    · omega
    · have second := List.mem_singleton.1 second
      omega

theorem units?_bytesOf (order : ByteOrder) {unit : Nat} (short : unit < 0x10000)
    (rest : List UInt8) :
    units? order (bytesOf order unit ++ rest) = (units? order rest).map (unit :: ·) := by
  have low : (UInt8.ofNat (unit % 256)).toNat = unit % 256 := toNat_byte (by omega)
  have high : (UInt8.ofNat (unit / 256)).toNat = unit / 256 := toNat_byte (by omega)
  have whole : unit / 256 * 256 + unit % 256 = unit := by omega
  cases order with
  | little | big =>
    rw [bytesOf, List.cons_append, List.singleton_append, units?]
    simp only [Utf16.unit, low, high, whole]

/-- The character that a text begins with is read from its units. -/
theorem ofUnits?_unitsOf (c : Char) (rest : List Nat) :
    ofUnits? (unitsOf c ++ rest) = (ofUnits? rest).map (c :: ·) := by
  have valid : c.toNat.isValidChar := c.valid
  unfold unitsOf
  split
  case isTrue basic =>
    have single : isHigh c.toNat = false := by
      simp only [isHigh, Bool.and_eq_false_iff, decide_eq_false_iff_not]
      rcases valid with before | ⟨behind, -⟩ <;> omega
    rw [List.singleton_append, ofUnits?.eq_def]
    simp only [single, Bool.false_eq_true, if_false, Text.scalar?_toNat, Option.bind_some]
  case isFalse beyond =>
    have bound : c.toNat < 0x110000 := Text.toNat_lt c
    have first : isHigh (0xD800 + (c.toNat - 0x10000) / 0x400) = true := by
      simp only [isHigh, Bool.and_eq_true, decide_eq_true_eq]
      omega
    have second : isLow (0xDC00 + (c.toNat - 0x10000) % 0x400) = true := by
      simp only [isLow, Bool.and_eq_true, decide_eq_true_eq]
      omega
    have code : 0x10000 + (0xD800 + (c.toNat - 0x10000) / 0x400 - 0xD800) * 0x400 +
        (0xDC00 + (c.toNat - 0x10000) % 0x400 - 0xDC00) = c.toNat := by
      omega
    rw [List.cons_append, List.singleton_append, ofUnits?.eq_def]
    simp only [first, second, if_true, code, Text.scalar?_toNat, Option.bind_some]

/-- A text comes back from its bytes in either order. -/
theorem decode_encode (order : ByteOrder) (text : List Char) :
    decode order (encode order text) = some text := by
  have bytes : units? order ((text.flatMap unitsOf).flatMap (bytesOf order)) =
      some (text.flatMap unitsOf) := by
    refine read_flatMap (units? order) rfl fun unit member rest => ?_
    obtain ⟨c, -, inside⟩ := List.mem_flatMap.1 member
    exact units?_bytesOf order (unitsOf_lt inside) rest
  have units : ofUnits? (text.flatMap unitsOf) = some text :=
    read_flatMap ofUnits? rfl fun c _ rest => ofUnits?_unitsOf c rest
  rw [decode, encode, bytes, Option.bind_some, units]

end Utf16

namespace Encoding

theorem withoutMark_of_head {text : List Char} (unmarked : text.head? ≠ some byteOrderMark) :
    withoutMark text = text := by
  cases text with
  | nil => rfl
  | cons c rest =>
    have other : c ≠ byteOrderMark := by simpa using unmarked
    rw [withoutMark, if_neg other]

/-- Bytes in UTF-8 are a text as they stand. -/
theorem decode_of_utf8 {bytes : List UInt8} {text : List Char}
    (read : Utf8.decode bytes = some text) :
    decode bytes = some (String.ofList (withoutMark text)) := by
  rw [decode, read]
  rfl

/-- Bytes that are no UTF-8 are read as their mark tells. -/
theorem decode_of_marked {bytes : List UInt8} {text : List Char}
    (unread : Utf8.decode bytes = none) (read : decodeMarked bytes = some text) :
    decode bytes = some (String.ofList (withoutMark text)) := by
  rw [decode, unread, read]
  rfl

/-- All encodings of Unicode say the same text: UTF-8 without and with a byte order mark, and UTF-16
in both orders behind its mark. -/
theorem decode_unicode (text : String) (unmarked : text.toList.head? ≠ some byteOrderMark) :
    decode text.toUTF8.data.toList = some text ∧
      decode (0xEF :: 0xBB :: 0xBF :: text.toUTF8.data.toList) = some text ∧
      decode (0xFF :: 0xFE :: Utf16.encode .little text.toList) = some text ∧
      decode (0xFE :: 0xFF :: Utf16.encode .big text.toList) = some text := by
  have plain : Utf8.decode text.toUTF8.data.toList = some text.toList := Utf8.decode_toUTF8 text
  -- in UTF-8 the mark is read as a character of the text, and only then taken away
  have marked : Utf8.decode (0xEF :: 0xBB :: 0xBF :: text.toUTF8.data.toList) =
      some (byteOrderMark :: text.toList) := by
    have read := Utf8.decode_encodeChar byteOrderMark text.toUTF8.data.toList
    rwa [plain, Option.map_some] at read
  have whole : String.ofList (withoutMark text.toList) = text := by
    rw [withoutMark_of_head unmarked, String.ofList_toList]
  -- `FF` and `FE` begin no form of UTF-8, so that the mark decides
  have little : decodeMarked (0xFF :: 0xFE :: Utf16.encode .little text.toList) =
      some text.toList := Utf16.decode_encode .little text.toList
  have big : decodeMarked (0xFE :: 0xFF :: Utf16.encode .big text.toList) = some text.toList :=
    Utf16.decode_encode .big text.toList
  refine ⟨?_, ?_, ?_, ?_⟩
  · rw [decode_of_utf8 plain, whole]
  · rw [decode_of_utf8 marked, withoutMark, if_pos rfl, String.ofList_toList]
  · rw [decode_of_marked (Utf8.decode_of_lead (by decide)) little, whole]
  · rw [decode_of_marked (Utf8.decode_of_lead (by decide)) big, whole]

/-- A text with characters of one to four bytes, one of them a pair of surrogates. -/
theorem decode_unicode_widths :
    "aß€𐍈".toList.head? ≠ some byteOrderMark ∧
      decode [0x61, 0xC3, 0x9F, 0xE2, 0x82, 0xAC, 0xF0, 0x90, 0x8D, 0x88] = some "aß€𐍈" ∧
      decode [0xEF, 0xBB, 0xBF, 0x61, 0xC3, 0x9F, 0xE2, 0x82, 0xAC, 0xF0, 0x90, 0x8D, 0x88] =
        some "aß€𐍈" ∧
      decode [0xFF, 0xFE, 0x61, 0, 0xDF, 0, 0xAC, 0x20, 0x00, 0xD8, 0x48, 0xDF] = some "aß€𐍈" ∧
      decode [0xFE, 0xFF, 0, 0x61, 0, 0xDF, 0x20, 0xAC, 0xD8, 0x00, 0xDF, 0x48] = some "aß€𐍈" := by
  have unmarked : "aß€𐍈".toList.head? ≠ some byteOrderMark := by decide
  exact ⟨unmarked, decode_unicode "aß€𐍈" unmarked⟩

end Encoding

end TableCatalog
