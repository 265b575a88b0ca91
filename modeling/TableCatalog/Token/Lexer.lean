import TableCatalog.Grammar.Lexical
import TableCatalog.Token
import TableCatalog.Token.Quoted
import TableCatalog.Text.Blank

/-!
# From text to tokens

`Token.scan` divides a text into tokens with their places, or says where it cannot.
Every step reads at least one character, so the length of the text bounds the steps.
-/

namespace TableCatalog.Lexer

/-- One token and the cursor after it. -/
abbrev Step := Except LexicalFault (Token × Cursor)

/-- A step that ends with a closing mark, or the fault that the mark is missing. -/
def closed (read : Option (List Char × Cursor)) (fault : LexicalFault)
    (token : String → Token) : Step :=
  match read with
  | some (content, cursor) => .ok (token (String.ofList content), cursor)
  | none => .error fault

/-- A text constant after its opening mark, which stands at `opening`. -/
def stringConstant (style : StringStyle) (close : Char) (escapes : Bool) (opening : Location)
    (body : Cursor) : Step :=
  closed (Quoted.escaped close escapes body.rest body.place []) ⟨.unterminatedString, opening⟩
    (.string style)

/-- A text constant that one or three marks open. The cursor stands at the first mark; a
missing closing mark is laid to the place that follows the opening ones. -/
def tripleConstant (plain long : StringStyle) (close : Char) (escapes : Bool)
    (cursor : Cursor) : Step :=
  match (cursor.rest.take 3).takeWhile (· == close) with
  | [_, _] => .ok (.string plain "", cursor.skip 2)
  | [_, _, _] =>
    let body := cursor.skip 3
    closed (Quoted.tripled close escapes body.rest body.place 0 [])
      ⟨.unterminatedString, body.place⟩ (.string long)
  | _ =>
    let body := cursor.skip 1
    closed (Quoted.escaped close escapes body.rest body.place [])
      ⟨.unterminatedString, body.place⟩ (.string plain)

/-- A text constant with marks of a kind, in grammars with or without triple marks. -/
def constant (grammar : Grammar) (plain long : StringStyle) (close : Char) (escapes : Bool)
    (cursor : Cursor) : Step :=
  if grammar.hasTripleQuotes then tripleConstant plain long close escapes cursor
  else stringConstant plain close escapes cursor.place (cursor.skip 1)

/-- A quoted word. The cursor stands at the opening mark. -/
def quotedWord (quote : Char) (cursor : Cursor) : Step :=
  let close := Word.closing quote
  let body := cursor.skip 1
  closed (Quoted.doubled close body.rest body.place []) ⟨.missingClosingMark close, cursor.place⟩
    fun text => .word ⟨text, some quote⟩

/-- The mark nested in a bracketed word, if a bracket opens one here: the outer answer
is whether a word follows the bracket, the inner one whether it is quoted again. -/
def nestedQuote? (grammar : Grammar) (rest : List Char) : Option (Option Char) :=
  match grammar, rest with
  | .redshift, '[' :: inside =>
    match Text.trimStart inside with
    | c :: _ =>
      if c == '"' then some (some '"')
      else if grammar.startsWord c then some none
      else none
    | [] => none
  | _, _ => none

/-- A word in brackets and quotes. The cursor stands at the bracket. -/
def nestedWord (mark : Char) (cursor : Cursor) : Step :=
  let (_, inner) := (cursor.skip 1).span Text.isBlank
  if inner.rest.head? != some mark then .error ⟨.missingNestedMark mark, cursor.place⟩
  else
    let body := inner.skip 1
    match Quoted.doubled mark body.rest body.place [] with
    | none => .error ⟨.missingClosingMark mark, inner.place⟩
    | some (content, after) =>
      let (_, outer) := after.span Text.isBlank
      if outer.rest.head? == some ']' then
        let text := mark.toString ++ String.ofList content ++ mark.toString
        .ok (.word ⟨text, some '['⟩, outer.skip 1)
      else .error ⟨.missingClosingMark ']', cursor.place⟩

/-- An unquoted word that begins with the next `count` characters, whatever they are. -/
def word (grammar : Grammar) (count : Nat) (cursor : Cursor) : Step :=
  let (tail, after) := (cursor.skip count).span grammar.continuesWord
  .ok (.word ⟨String.ofList (cursor.rest.take count ++ tail), none⟩, after)

/-- The exponent that follows the digits of a number: the letter, a sign and digits. -/
def exponent (rest : List Char) : Option (List Char) :=
  match rest with
  | e :: more =>
    let sign := (more.take 1).takeWhile fun c => c == '+' || c == '-'
    let digits := (more.drop sign.length).takeWhile Char.isDigit
    if digits.isEmpty then none else some (e :: sign ++ digits)
  | [] => none

/-- Whether the letter of an exponent begins a text. -/
def hasExponentLetter (rest : List Char) : Bool :=
  rest.head? == some 'e' || rest.head? == some 'E'

/-- The exponent at the beginning of a text, if one stands there. -/
def power (rest : List Char) : List Char :=
  if hasExponentLetter rest then (exponent rest).getD [] else []

/-- What follows the digits of a number: an exponent and the mark of a long number; or the
number begins a word. -/
def numberEnd (grammar : Grammar) (digits : List Char) (cursor : Cursor) : Step :=
  let power := power cursor.rest
  let digits := digits ++ power
  let after := cursor.skip power.length
  let (tail, afterTail) := after.span grammar.continuesWord
  if grammar.wordsMayStartWithDigits && !hasExponentLetter cursor.rest && !tail.isEmpty then
    .ok (.word ⟨String.ofList (digits ++ tail), none⟩, afterTail)
  else if after.rest.head? == some 'L' then
    .ok (.number (String.ofList digits) true, after.skip 1)
  else .ok (.number (String.ofList digits) false, after)

/-- A number, a period, or a word that begins with digits. -/
def number (grammar : Grammar) (cursor : Cursor) : Step :=
  let (whole, afterWhole) := cursor.span Char.isDigit
  if whole == ['0'] && afterWhole.rest.head? == some 'x' then
    let (digits, after) := (afterWhole.skip 1).span fun c => (Quoted.hexDigit? c).isSome
    .ok (.string .hex (String.ofList digits), after)
  else
    let point := (afterWhole.rest.take 1).takeWhile (· == '.')
    let (part, afterPart) := (afterWhole.skip point.length).span Char.isDigit
    let digits := whole ++ point ++ part
    if digits == ['.'] then .ok (.symbol ".", afterPart) else numberEnd grammar digits afterPart

/-- A comment to the end of the line, whose mark takes `count` characters. -/
def lineComment (grammar : Grammar) (count : Nat) (cursor : Cursor) : Step :=
  let (text, after) := (cursor.skip count).span fun c =>
    !(c == '\n' || (c == '\r' && grammar == .postgres))
  .ok (.gap (.lineComment (String.ofList (cursor.rest.take count))
    (String.ofList (text ++ after.rest.take 1))), after.skip 1)

/-- A block comment. The cursor stands at its opening mark. -/
def blockComment (grammar : Grammar) (cursor : Cursor) : Step :=
  let body := cursor.skip 2
  closed (Quoted.comment grammar.nestsComments body.rest body.place 0 [])
    ⟨.unterminatedComment, body.place.after body.rest⟩ fun text => .gap (.blockComment text)

/-- What a dollar sign begins: a placeholder, or text between dollar signs or tags. -/
def dollar (grammar : Grammar) (cursor : Cursor) : Step :=
  let inside := cursor.skip 1
  let finish := inside.place.after inside.rest
  if inside.rest.head? == some '$' && !grammar.hasDollarPlaceholders then
    let body := inside.skip 1
    closed (Quoted.dollars body.rest body.place false []) ⟨.unterminatedDollarString, finish⟩
      (.dollarString none)
  else
    let (tag, after) := inside.span grammar.continuesTag
    if after.rest.head? == some '$' && !grammar.hasDollarPlaceholders then
      let body := after.skip 1
      closed (Quoted.tagged ('$' :: tag.reverse ++ ['$']) body.rest body.place [])
        ⟨.unterminatedTaggedDollarString, finish⟩
        (.dollarString (if tag.isEmpty then none else some (String.ofList tag)))
    else .ok (.placeholder (String.ofList ('$' :: tag)), after)

/-- The operators that further operator characters prolong, where a grammar has such. -/
def openOperators : List (List Char × String) :=
  ["->>", "||/", "<=>", "#>>", "~~*", "->", "|/", "||", "<=", "<>", "<<", "<@", ">=", ">>",
    "&&", "#-", "#>", "~*", "~~", "-", "%", "|", "<", ">", "&", "~", "#"].map
    fun text => (text.toList, text)

/-- The operators that nothing prolongs; `!=` and `<>` are one. -/
def closedOperators : List (List Char × String) :=
  (["!~~*", "!~~", "!~*", "=>", "==", "!!", "!~", "::", ":=", "^@", "@>", "@?",
    "@@", "(", ")", ",", ";", "[", "]", "\x7b", "\x7d", "\\", "+", "*", "/", "=", "!", ":", "^",
    "@"].map fun text => (text.toList, text)) ++ [("!=".toList, "<>")]

/-- The longest operator of a table at the start of a text. -/
def operatorAt? (table : List (List Char × String)) (rest : List Char) :
    Option (List Char × String) :=
  table.foldl
    (fun best (spelling, text) =>
      if spelling.isPrefixOf rest && (best.elim 0 fun found => found.1.length) < spelling.length
      then some (spelling, text) else best)
    none

/-- An operator, a punctuation mark, or any other single character. -/
def operator (grammar : Grammar) (cursor : Cursor) : Step :=
  match operatorAt? openOperators cursor.rest with
  | some (spelling, text) =>
    let (tail, after) := (cursor.skip spelling.length).span grammar.continuesOperator
    .ok (.symbol (text ++ String.ofList tail), after)
  | none =>
    match operatorAt? closedOperators cursor.rest with
    | some (spelling, text) => .ok (.symbol text, cursor.skip spelling.length)
    | none => .ok (.symbol (String.ofList (cursor.rest.take 1)), cursor.skip 1)

/-- What `#` begins where it is not a comment: an operator or, if words may begin with
it, a word. -/
def hash (grammar : Grammar) (cursor : Cursor) : Step :=
  match cursor.rest.drop 1 with
  | ' ' :: _ => .ok (.symbol "#", cursor.skip 1)
  | '-' :: _ | '>' :: _ => operator grammar cursor
  | _ :: _ => if grammar.startsWord '#' then word grammar 2 cursor else operator grammar cursor
  | [] => operator grammar cursor

/-- What `@` begins: an operator or, if words may begin with it, a word. -/
def atSign (grammar : Grammar) (cursor : Cursor) : Step :=
  match cursor.rest.drop 1 with
  | '>' :: _ | '?' :: _ => operator grammar cursor
  | ['@'] | '@' :: ' ' :: _ => .ok (.symbol "@@", cursor.skip 2)
  | '@' :: _ :: _ =>
    if grammar.startsWord '@' then word grammar 3 cursor else .ok (.symbol "@@", cursor.skip 2)
  | c :: _ =>
    if c == ' ' || c == '\'' || c == '"' || c == '\x60' || !grammar.startsWord '@' then
      .ok (.symbol "@", cursor.skip 1)
    else word grammar 2 cursor
  | [] => .ok (.symbol "@", cursor.skip 1)

/-- What `?` begins: a placeholder with a number or, in PostgreSQL, an operator, where
the character after a lone `?` belongs to it. -/
def questionMark (grammar : Grammar) (cursor : Cursor) : Step :=
  if grammar == .postgres then
    match cursor.rest.drop 1 with
    | '|' :: _ => .ok (.symbol "?|", cursor.skip 2)
    | '&' :: _ => .ok (.symbol "?&", cursor.skip 2)
    | _ => .ok (.symbol "?", cursor.skip 2)
  else
    let (digits, after) := (cursor.skip 1).span Text.isNumeric
    .ok (.placeholder (String.ofList ('?' :: digits)), after)

/-- A constant that a letter before a quote marks, or the word that the letter begins. -/
def letter (grammar : Grammar) (c : Char) (rest : List Char) (cursor : Cursor) : Step :=
  let inside := cursor.skip 1
  let national (style : StringStyle) : Step :=
    stringConstant style '\'' true inside.place (inside.skip 1)
  match c.toUpper, rest with
  | 'B', '\'' :: _ =>
    if grammar.hasByteStrings then
      constant grammar .byteSingle .byteTripleSingle '\'' false inside
    else word grammar 1 cursor
  | 'B', '"' :: _ =>
    if grammar.hasByteStrings then
      constant grammar .byteDouble .byteTripleDouble '"' false inside
    else word grammar 1 cursor
  | 'R', '\'' :: _ =>
    if grammar.hasRawStrings then
      tripleConstant .rawSingle .rawTripleSingle '\'' false inside
    else word grammar 1 cursor
  | 'R', '"' :: _ =>
    if grammar.hasRawStrings then
      tripleConstant .rawDouble .rawTripleDouble '"' false inside
    else word grammar 1 cursor
  | 'N', '\'' :: _ => national .national
  | 'X', '\'' :: _ => national .hex
  | 'E', '\'' :: _ =>
    closed (Quoted.sequences (inside.rest.length + 1) (inside.skip 1) [])
      ⟨.unterminatedEscapedString, cursor.place⟩ (.string .escaped)
  | 'U', '&' :: '\'' :: _ =>
    if grammar.hasUnicodeStrings then do
      let (content, after) ← Quoted.unicode (rest.length + 1) (cursor.skip 3) []
      .ok (.string .unicode (String.ofList content), after)
    else word grammar 1 cursor
  | _, _ => word grammar 1 cursor

/-- What a mark begins that opens no quoted text: a comment, a placeholder, a word, text
between dollar signs, a gap or an operator. -/
def sign (grammar : Grammar) (c : Char) (cursor : Cursor) : Step :=
  if c == '#' then
    if grammar.hasHashComments then lineComment grammar 1 cursor else hash grammar cursor
  else if c == '@' then atSign grammar cursor
  else if c == '?' then questionMark grammar cursor
  else if grammar.startsWord c then word grammar 1 cursor
  else if c == '$' then dollar grammar cursor
  else if Text.isBlank c then .ok (.gap .space, cursor.skip 1)
  else operator grammar cursor

/-- What a mark begins: quoted text, or what the mark is a sign of. -/
def mark (grammar : Grammar) (c : Char) (cursor : Cursor) : Step :=
  if c == '\'' then
    constant grammar .single .tripleSingle c grammar.hasBackslashEscapes cursor
  else if grammar.quotesWord c then quotedWord c cursor
  else if c == '"' then
    constant grammar .double .tripleDouble c grammar.hasBackslashEscapes cursor
  else
    match nestedQuote? grammar cursor.rest with
    | some (some quote) => nestedWord quote cursor
    | some none => quotedWord c cursor
    | none => sign grammar c cursor

/-- The token at the start of a text that is not empty, and the cursor after it. -/
def next (grammar : Grammar) (c : Char) (rest : List Char) (cursor : Cursor) : Step :=
  if c.isAlpha then letter grammar c rest cursor
  else if c.isDigit || c == '.' then number grammar cursor
  else
    match c, rest with
    | ' ', _ => .ok (.gap .space, cursor.skip 1)
    | '\t', _ => .ok (.gap .tab, cursor.skip 1)
    | '\n', _ => .ok (.gap .newline, cursor.skip 1)
    | '\r', '\n' :: _ => .ok (.gap .newline, cursor.skip 2)
    | '\r', _ => .ok (.gap .newline, cursor.skip 1)
    | '-', '-' :: _ => lineComment grammar 2 cursor
    | '/', '*' :: _ => blockComment grammar cursor
    | '/', '/' :: _ =>
      if grammar.hasSlashComments then lineComment grammar 2 cursor
      else if grammar.hasIntegerDivision then .ok (.symbol "//", cursor.skip 2)
      else operator grammar cursor
    | _, _ => mark grammar c cursor

/-- The tokens of a text in at most `fuel` steps, or the first fault. -/
def scan (grammar : Grammar) : Nat → Cursor → List PlacedToken →
    Except LexicalFault (List PlacedToken)
  | 0, _, read => .ok read.reverse
  | fuel + 1, cursor, read =>
    match cursor.rest with
    | [] => .ok read.reverse
    | c :: rest =>
      match next grammar c rest cursor with
      | .error fault => .error fault
      | .ok (token, after) => scan grammar fuel after (⟨token, cursor.place, after.place⟩ :: read)

end TableCatalog.Lexer

namespace TableCatalog.Token

/-- The tokens of a text with their places, or the first fault in it. -/
def scan (grammar : Grammar) (text : List Char) : Except LexicalFault (List PlacedToken) :=
  Lexer.scan grammar text.length (Cursor.ofText text) []

end TableCatalog.Token
