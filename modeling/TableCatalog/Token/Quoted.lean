import TableCatalog.Token.Cursor
import TableCatalog.Text.Scalar
import TableCatalog.Token.Fault

/-!
# Quoted text

Readers for what stands between quotes. Each starts after the opening mark and gives
the content with its escapes resolved and the cursor after the closing mark; without
a closing mark there is nothing to give.
-/

namespace TableCatalog.Quoted

/-- The character that a backslash before `c` stands for. -/
def unescape (c : Char) : Char :=
  match c with
  | '0' => '\x00'
  | 'a' => '\x07'
  | 'b' => '\x08'
  | 'f' => '\x0c'
  | 'n' => '\n'
  | 'r' => '\r'
  | 't' => '\t'
  | 'Z' => '\x1a'
  | _ => c

/-- Text up to `close`, where `close` written twice stands for itself. -/
def doubled (close : Char) : List Char → Location → List Char → Option (List Char × Cursor)
  | [], _, _ => none
  | [c], place, read =>
    if c == close then some (read.reverse, ⟨[], place.next c⟩) else none
  | c :: d :: rest, place, read =>
    if c == close then
      if d == close then doubled close rest ((place.next c).next d) (c :: read)
      else some (read.reverse, ⟨d :: rest, place.next c⟩)
    else doubled close (d :: rest) (place.next c) (c :: read)

/-- Text up to `close` as in `doubled`, with backslash escapes if the grammar has them. -/
def escaped (close : Char) (escapes : Bool) :
    List Char → Location → List Char → Option (List Char × Cursor)
  | [], _, _ => none
  | [c], place, read =>
    if c == close then some (read.reverse, ⟨[], place.next c⟩) else none
  | c :: d :: rest, place, read =>
    if c == close then
      if d == close then escaped close escapes rest ((place.next c).next d) (c :: read)
      else some (read.reverse, ⟨d :: rest, place.next c⟩)
    else if escapes && c == '\\' then
      escaped close escapes rest ((place.next c).next d) (unescape d :: read)
    else escaped close escapes (d :: rest) (place.next c) (c :: read)

/-- Text up to three marks in a row; `run` marks have just been read. -/
def tripled (close : Char) (escapes : Bool) :
    List Char → Location → Nat → List Char → Option (List Char × Cursor)
  | [], _, _, _ => none
  | [c], place, run, read =>
    if c == close && run == 2 then some ((read.drop 2).reverse, ⟨[], place.next c⟩) else none
  | c :: d :: rest, place, run, read =>
    if c == close then
      if run == 2 then some ((read.drop 2).reverse, ⟨d :: rest, place.next c⟩)
      else tripled close escapes (d :: rest) (place.next c) (run + 1) (c :: read)
    else if escapes && c == '\\' then
      tripled close escapes rest ((place.next c).next d) 0 (unescape d :: read)
    else tripled close escapes (d :: rest) (place.next c) 0 (c :: read)

/-- The text of a block comment; `depth` further comments are open inside it. -/
def comment (nests : Bool) :
    List Char → Location → Nat → List Char → Option (List Char × Cursor)
  | [], _, _, _ => none
  | [_], _, _, _ => none
  | c :: d :: rest, place, depth, read =>
    if nests && c == '/' && d == '*' then
      comment nests rest ((place.next c).next d) (depth + 1) (d :: c :: read)
    else if c == '*' && d == '/' then
      match depth with
      | 0 => some (read.reverse, ⟨rest, (place.next c).next d⟩)
      | depth + 1 => comment nests rest ((place.next c).next d) depth (d :: c :: read)
    else comment nests (d :: rest) (place.next c) depth (c :: read)

/-- Text up to two dollar signs in a row. A dollar sign before another character is
kept, and that character may not begin the closing pair. -/
def dollars : List Char → Location → Bool → List Char → Option (List Char × Cursor)
  | [], _, _, _ => none
  | c :: rest, place, afterDollar, read =>
    if afterDollar then
      if c == '$' then some (read.reverse, ⟨rest, place.next c⟩)
      else dollars rest (place.next c) false (c :: '$' :: read)
    else if c == '$' then dollars rest (place.next c) true read
    else dollars rest (place.next c) false (c :: read)

/-- Text up to a closing tag, given in reverse; the tag ends with a dollar sign. -/
def tagged (reversedTag : List Char) :
    List Char → Location → List Char → Option (List Char × Cursor)
  | [], _, _ => none
  | c :: rest, place, read =>
    let read := c :: read
    if reversedTag.isPrefixOf read then
      some ((read.drop reversedTag.length).reverse, ⟨rest, place.next c⟩)
    else tagged reversedTag rest (place.next c) read

/-- The value of a hexadecimal digit. -/
def hexDigit? (c : Char) : Option Nat :=
  if c.isDigit then some (c.toNat - 48)
  else if 'a' ≤ c ∧ c ≤ 'f' then some (c.toNat - 87)
  else if 'A' ≤ c ∧ c ≤ 'F' then some (c.toNat - 55)
  else none

/-- The number that digits of a base write. -/
def digitsValue (base : Nat) (digits : List Nat) : Nat :=
  digits.foldl (fun value digit => value * base + digit) 0

/-- The character that an octal or hexadecimal byte escape writes: the low eight bits,
which have to be an ASCII character. -/
def byteEscape (value : Nat) : Option Char :=
  if value % 256 < 128 then Text.scalar? (value % 256) else none

/-- The character written by exactly `count` hexadecimal digits; the first place may
also hold a plus sign. -/
def unicodeEscape (count : Nat) (rest : List Char) : Option (Char × List Char) :=
  let written := rest.take count
  let digits := match written with
    | '+' :: more => more
    | _ => written
  if written.length < count || digits.isEmpty then none
  else do
    let values ← digits.mapM hexDigit?
    let c ← Text.scalar? (digitsValue 16 values)
    some (c, rest.drop count)

/-- Whether a character is an octal digit. -/
def isOctalDigit (c : Char) : Bool :=
  '0' ≤ c && c ≤ '7'

/-- The character that an escape after a backslash writes, and what follows it. No
escape may write the null character. -/
def escapeSequence : List Char → Option (Char × List Char)
  | [] => none
  | c :: rest =>
    let result : Option (Char × List Char) :=
      match c with
      | 'b' => some ('\x08', rest)
      | 'f' => some ('\x0c', rest)
      | 'n' => some ('\n', rest)
      | 'r' => some ('\r', rest)
      | 't' => some ('\t', rest)
      | 'u' => unicodeEscape 4 rest
      | 'U' => unicodeEscape 8 rest
      | 'x' =>
        let digits := (rest.take 2).takeWhile fun d => (hexDigit? d).isSome
        if digits.isEmpty then some ('x', rest)
        else (byteEscape (digitsValue 16 (digits.filterMap hexDigit?))).map
          fun d => (d, rest.drop digits.length)
      | _ =>
        if isOctalDigit c then
          let digits := c :: (rest.take 2).takeWhile isOctalDigit
          (byteEscape (digitsValue 8 (digits.filterMap hexDigit?))).map
            fun d => (d, rest.drop (digits.length - 1))
        else some (c, rest)
    result.filter fun (d, _) => d != '\x00'

/-- The content of a constant with backslash sequences, by at most `fuel` steps. -/
def sequences : Nat → Cursor → List Char → Option (List Char × Cursor)
  | 0, _, _ => none
  | fuel + 1, cursor, read =>
    match cursor.rest with
    | [] => none
    | '\'' :: '\'' :: _ => sequences fuel (cursor.skip 2) ('\'' :: read)
    | '\'' :: _ => some (read.reverse, cursor.skip 1)
    | '\\' :: rest =>
      match escapeSequence rest with
      | none => none
      | some (c, rest') =>
        sequences fuel (cursor.skip (1 + (rest.length - rest'.length))) (c :: read)
    | c :: _ => sequences fuel (cursor.skip 1) (c :: read)

/-- The character written by `count` hexadecimal digits after the value read so far. -/
def unicodeDigits : Nat → Nat → Cursor → Except LexicalFault (Char × Cursor)
  | 0, value, cursor =>
    match Text.scalar? value with
    | some c => .ok (c, cursor)
    | none => .error ⟨.badUnicodeScalar value, cursor.place⟩
  | count + 1, value, cursor =>
    match cursor.rest with
    | [] => .error ⟨.truncatedUnicodeEscape, cursor.place⟩
    | c :: _ =>
      match hexDigit? c with
      | some digit => unicodeDigits count (value * 16 + digit) (cursor.skip 1)
      | none => .error ⟨.badUnicodeDigit c, (cursor.skip 1).place⟩

/-- The content of a constant with Unicode escapes, by at most `fuel` steps. -/
def unicode : Nat → Cursor → List Char → Except LexicalFault (List Char × Cursor)
  | 0, cursor, _ => .error ⟨.unterminatedUnicodeString, cursor.place⟩
  | fuel + 1, cursor, read =>
    match cursor.rest with
    | [] => .error ⟨.unterminatedUnicodeString, cursor.place⟩
    | '\'' :: '\'' :: _ => unicode fuel (cursor.skip 2) ('\'' :: read)
    | '\'' :: _ => .ok (read.reverse, cursor.skip 1)
    | '\\' :: '\\' :: _ => unicode fuel (cursor.skip 2) ('\\' :: read)
    | '\\' :: '+' :: _ => do
      let (c, cursor) ← unicodeDigits 6 0 (cursor.skip 2)
      unicode fuel cursor (c :: read)
    | '\\' :: _ => do
      let (c, cursor) ← unicodeDigits 4 0 (cursor.skip 1)
      unicode fuel cursor (c :: read)
    | c :: _ => unicode fuel (cursor.skip 1) (c :: read)

end TableCatalog.Quoted
