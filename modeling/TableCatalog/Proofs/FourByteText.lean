import TableCatalog.Proofs.Unicode

/-!
# Text beyond the basic plane in GB18030

A character beyond the basic plane takes four bytes in GB18030, the digits of a number in a mixed
radix. Text of such characters and of ASCII comes back from its bytes. It is never taken for text
in an encoding of Unicode: the second of the four bytes is an ASCII digit, which no form of UTF-8
goes on with, and the first one begins no byte order mark.
-/

namespace TableCatalog

/-- No form of two or three bytes goes on with a byte of ASCII. -/
theorem Utf8.decode_of_ascii_behind {a b : UInt8} {rest : List UInt8}
    (lead : 0x80 ≤ a.toNat ∧ a.toNat < 0xF0) (ascii : b.toNat < 0x80) :
    decode (a :: b :: rest) = none := by
  have stray : continuation? b = none := by
    rw [continuation?, if_neg]
    simp only [Bool.and_eq_true, decide_eq_true_eq]
    omega
  by_cases two : 0xC0 ≤ a.toNat ∧ a.toNat < 0xE0
  · rw [decode_two two, ofTwo?, stray]
    rfl
  by_cases three : 0xE0 ≤ a.toNat
  -- a form of three bytes may lack its third one, and then fails before its second one is read
  · cases rest with
    | nil =>
      rw [decode.eq_def]
      simp only
      rw [if_neg (by omega), if_neg (by omega), if_neg (by omega), if_pos lead.2]
    | cons c rest =>
      rw [decode_three ⟨three, lead.2⟩, ofThree?, stray]
      rfl
  · exact decode_of_lead (by omega)

namespace Gb18030

variable {c : Char} {rest : List UInt8}

/-- The code points beyond the basic plane are the last run of four-byte codes. -/
theorem codePoint?_supplementary {above : Nat} (inside : above < 0x100000) :
    codePoint? (189000 + above) = some (0x10000 + above) := by
  obtain ⟨front, runs⟩ : ∃ front, fourByteRuns = front ++ [(189000, 0x10000)] :=
    List.getLast?_eq_some_iff.1 (by decide)
  have last : (fourByteRuns.filter (·.1 ≤ 189000 + above)).getLast? = some (189000, 0x10000) := by
    rw [runs, List.filter_append, List.filter_cons_of_pos (by simp), List.filter_nil,
      List.getLast?_concat]
  have above_gap : ¬189000 + above < firstSupplementaryNumber := by
    rw [firstSupplementaryNumber]
    omega
  have assigned : ¬lastNumber < 189000 + above := by
    rw [lastNumber]
    omega
  rw [codePoint?, if_neg (by simp [above_gap, assigned]), if_neg (by omega), last, Option.map_some,
    Nat.add_sub_cancel_left]

theorem decode_one {a : UInt8} (ascii : a.toNat < 0x80) :
    decode (a :: rest) = (decode rest).map (Char.ofNat a.toNat :: ·) := by
  rw [decode.eq_def]
  exact if_pos ascii

theorem decode_four {a b c d : UInt8} (lead : isLead a = true) (digit : isDigit b = true) :
    decode (a :: b :: c :: d :: rest) =
      (ofFour? a b c d).bind fun char => (decode rest).map (char :: ·) := by
  have bounds : 0x81 ≤ a.toNat ∧ a.toNat ≤ 0xFE := by
    simpa [isLead, within] using lead
  rw [decode, if_neg (by omega), if_neg (by omega), if_neg (by simp [lead]), if_pos digit]

/-- The bytes of a character of ASCII or beyond the basic plane. -/
def encodeChar (c : Char) : List UInt8 :=
  if c.toNat < 0x80 then [UInt8.ofNat c.toNat]
  else
    let above := c.toNat - 0x10000
    [UInt8.ofNat (0x90 + above / 12600), UInt8.ofNat (0x30 + above / 1260 % 10),
      UInt8.ofNat (0x81 + above / 10 % 126), UInt8.ofNat (0x30 + above % 10)]

theorem exists_encodeChar_of_ascii (ascii : c.toNat < 0x80) :
    ∃ a : UInt8, encodeChar c = [a] ∧ a.toNat = c.toNat :=
  ⟨_, if_pos ascii, toNat_byte (by omega)⟩

/-- The four bytes of a character beyond the basic plane, by their numbers. -/
theorem exists_encodeChar_of_beyond (beyond : 0x10000 ≤ c.toNat) :
    ∃ a b x d : UInt8, encodeChar c = [a, b, x, d] ∧
      a.toNat = 0x90 + (c.toNat - 0x10000) / 12600 ∧
      b.toNat = 0x30 + (c.toNat - 0x10000) / 1260 % 10 ∧
      x.toNat = 0x81 + (c.toNat - 0x10000) / 10 % 126 ∧
      d.toNat = 0x30 + (c.toNat - 0x10000) % 10 := by
  have bound : c.toNat < 0x110000 := Text.toNat_lt c
  refine ⟨_, _, _, _, if_neg (by omega), ?_, ?_, ?_, ?_⟩
  all_goals
    apply toNat_byte
    omega

theorem decode_encodeChar_of_ascii (ascii : c.toNat < 0x80) :
    decode (encodeChar c ++ rest) = (decode rest).map (c :: ·) := by
  obtain ⟨a, form, byte⟩ := exists_encodeChar_of_ascii ascii
  rw [form, List.singleton_append, decode_one (by omega), byte, Char.ofNat_toNat]

/-- The digits of a four-byte code are put together again. -/
theorem decode_encodeChar_of_beyond (beyond : 0x10000 ≤ c.toNat) :
    decode (encodeChar c ++ rest) = (decode rest).map (c :: ·) := by
  have bound : c.toNat < 0x110000 := Text.toNat_lt c
  obtain ⟨a, b, x, d, form, first, second, third, fourth⟩ := exists_encodeChar_of_beyond beyond
  have leads : isLead a = true ∧ isLead x = true := by
    simp only [isLead, within, Bool.and_eq_true, decide_eq_true_eq]
    omega
  have digits : isDigit b = true ∧ isDigit d = true := by
    simp only [isDigit, within, Bool.and_eq_true, decide_eq_true_eq]
    omega
  have numbered : number a b x d = 189000 + (c.toNat - 0x10000) := by
    rw [number, first, second, third, fourth]
    omega
  have found : ofFour? a b x d = some c := by
    rw [ofFour?, if_pos (by rw [leads.2, digits.2]; rfl), numbered,
      codePoint?_supplementary (by omega), Option.bind_some, Nat.add_sub_cancel' beyond,
      Text.scalar?_toNat]
  rw [form, List.cons_append, List.cons_append, List.cons_append, List.singleton_append,
    decode_four leads.1 digits.1, found, Option.bind_some]

/-- Text of ASCII and of characters beyond the basic plane comes back from its bytes. -/
theorem decode_flatMap_encodeChar {text : List Char}
    (known : ∀ c ∈ text, c.toNat < 0x80 ∨ 0x10000 ≤ c.toNat) :
    decode (text.flatMap encodeChar) = some text := by
  refine read_flatMap decode rfl fun c member rest => ?_
  rcases known c member with ascii | beyond
  · exact decode_encodeChar_of_ascii ascii
  · exact decode_encodeChar_of_beyond beyond

/-- No character begins with a byte as high as those of byte order marks. -/
theorem exists_encodeChar_cons (known : c.toNat < 0x80 ∨ 0x10000 ≤ c.toNat) :
    ∃ a tail, encodeChar c = a :: tail ∧ a.toNat < 0xE4 := by
  rcases known with ascii | beyond
  · obtain ⟨a, form, byte⟩ := exists_encodeChar_of_ascii ascii
    exact ⟨a, [], form, by omega⟩
  · have bound : c.toNat < 0x110000 := Text.toNat_lt c
    obtain ⟨a, b, x, d, form, first, -⟩ := exists_encodeChar_of_beyond beyond
    exact ⟨a, [b, x, d], form, by omega⟩

/-- Text that goes beyond the basic plane is no UTF-8: whatever ASCII stands in front, the first
character beyond it is none there. -/
theorem utf8_flatMap_encodeChar {text : List Char}
    (known : ∀ c ∈ text, c.toNat < 0x80 ∨ 0x10000 ≤ c.toNat)
    (reaches : ∃ c ∈ text, 0x10000 ≤ c.toNat) :
    Utf8.decode (text.flatMap encodeChar) = none := by
  induction text with
  | nil =>
    obtain ⟨c, member, -⟩ := reaches
    cases member
  | cons c text ih =>
    rw [List.flatMap_cons]
    rcases known c List.mem_cons_self with ascii | beyond
    · obtain ⟨a, form, byte⟩ := exists_encodeChar_of_ascii ascii
      have behind : ∃ other ∈ text, 0x10000 ≤ other.toNat := by
        obtain ⟨other, member, far⟩ := reaches
        rcases List.mem_cons.1 member with rfl | inside
        · omega
        · exact ⟨other, inside, far⟩
      rw [form, List.singleton_append, Utf8.decode_one (by omega),
        ih (fun other member => known other (List.mem_cons_of_mem _ member)) behind,
        Option.map_none]
    · have bound : c.toNat < 0x110000 := Text.toNat_lt c
      obtain ⟨a, b, x, d, form, first, second, -⟩ := exists_encodeChar_of_beyond beyond
      rw [form, List.cons_append, List.cons_append]
      exact Utf8.decode_of_ascii_behind (by omega) (by omega)

end Gb18030

namespace Encoding

/-- Bytes that begin below all byte order marks are GB18030 if they are no UTF-8. -/
theorem decodeMarked_of_lead {a : UInt8} {rest : List UInt8} (low : a.toNat < 0xEF) :
    decodeMarked (a :: rest) = Gb18030.decode (a :: rest) := by
  unfold decodeMarked
  split
  case h_1 same | h_2 same | h_3 same =>
    obtain rfl := (List.cons.inj same).1
    exact absurd low (by decide)
  case h_4 => rfl

/-- Text of ASCII and of characters beyond the basic plane, with at least one of these, is read from
its bytes in GB18030. -/
theorem decode_fourByte (text : String)
    (known : ∀ c ∈ text.toList, c.toNat < 0x80 ∨ 0x10000 ≤ c.toNat)
    (reaches : ∃ c ∈ text.toList, 0x10000 ≤ c.toNat) :
    decode (text.toList.flatMap Gb18030.encodeChar) = some text := by
  have unread := Gb18030.utf8_flatMap_encodeChar known reaches
  have read := Gb18030.decode_flatMap_encodeChar known
  -- the first character tells that no mark stands in front, whichever of the two kinds it is
  have chosen : decodeMarked (text.toList.flatMap Gb18030.encodeChar) = some text.toList := by
    obtain ⟨c, chars, shape⟩ : ∃ c chars, text.toList = c :: chars := by
      obtain ⟨c, member, -⟩ := reaches
      exact List.exists_cons_of_ne_nil (List.ne_nil_of_mem member)
    obtain ⟨a, tail, form, low⟩ :=
      Gb18030.exists_encodeChar_cons (known c (shape ▸ List.mem_cons_self))
    rw [shape, List.flatMap_cons, form, List.cons_append] at read ⊢
    rw [decodeMarked_of_lead (by omega), read]
  have unmarked : text.toList.head? ≠ some byteOrderMark := by
    intro marked
    rcases known byteOrderMark (List.mem_of_mem_head? marked) with ascii | beyond
    · exact absurd ascii (by decide)
    · exact absurd beyond (by decide)
  rw [decode_of_marked unread chosen, withoutMark_of_head unmarked, String.ofList_toList]

/-- The first and the last character beyond the basic plane, with ASCII between and behind them. -/
theorem decode_fourByte_bounds :
    let text := String.ofList [Char.ofNat 0x10000, ',', Char.ofNat 0x10FFFF, ';']
    (∀ c ∈ text.toList, c.toNat < 0x80 ∨ 0x10000 ≤ c.toNat) ∧
      (∃ c ∈ text.toList, 0x10000 ≤ c.toNat) ∧
      decode [0x90, 0x30, 0x81, 0x30, 0x2C, 0xE3, 0x32, 0x9A, 0x35, 0x3B] = some text := by
  intro text
  have known : ∀ c ∈ text.toList, c.toNat < 0x80 ∨ 0x10000 ≤ c.toNat := by decide
  have reaches : ∃ c ∈ text.toList, 0x10000 ≤ c.toNat := by decide
  have bytes : text.toList.flatMap Gb18030.encodeChar =
      [0x90, 0x30, 0x81, 0x30, 0x2C, 0xE3, 0x32, 0x9A, 0x35, 0x3B] := by decide
  exact ⟨known, reaches, bytes ▸ decode_fourByte text known reaches⟩

end Encoding

end TableCatalog
