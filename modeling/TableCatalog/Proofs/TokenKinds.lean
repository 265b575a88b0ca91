import TableCatalog.Proofs.Lexing

/-!
# Kinds of tokens

A token that is neither a gap nor an unquoted word has marks of its own. An unquoted word is
spelled as it stands and goes on as long as its grammar lets words go on; a comment begins with
a mark that its grammar has for comments.
-/

namespace TableCatalog

/-- Whether a gap is a comment. -/
def Gap.isComment : Gap → Bool
  | lineComment _ _ | blockComment _ => true
  | space | newline | tab => false

/-- Whether a token is neither a gap nor an unquoted word. -/
def Token.isMarked : Token → Bool
  | .gap _ => false
  | .word found => found.quote.isSome
  | _ => true

namespace Lexer

/-- Texts that begin with the mark of a comment. -/
inductive BeginsComment (grammar : Grammar) : List Char → Prop where
  | hyphens {rest} : BeginsComment grammar ('-' :: '-' :: rest)
  | block {rest} : BeginsComment grammar ('/' :: '*' :: rest)
  | hash {rest} (has : grammar.hasHashComments = true) : BeginsComment grammar ('#' :: rest)
  | slashes {rest} (has : grammar.hasSlashComments = true) :
      BeginsComment grammar ('/' :: '/' :: rest)

/-- What a token at the head of a text, before what follows it, tells about the text. -/
inductive Kind (grammar : Grammar) (text : List Char) : Token → List Char → Prop where
  | marked {token rest} (marked : token.isMarked = true) : Kind grammar text token rest
  | word {run rest} (shape : text = run ++ rest)
      (ends : ∀ c ∈ rest.head?, grammar.continuesWord c = false) :
      Kind grammar text (.word ⟨String.ofList run, none⟩) rest
  | blank {gap rest} (plain : gap.isComment = false) : Kind grammar text (.gap gap) rest
  | comment {gap rest} (begins : BeginsComment grammar text) : Kind grammar text (.gap gap) rest

/-- An unquoted word is spelled as it stands. -/
theorem Kind.word_eq {grammar : Grammar} {text rest : List Char} {found : Word}
    (kind : Kind grammar text (.word found) rest) (unquoted : found.quote = none) :
    text = found.text.toList ++ rest ∧
      ∀ c ∈ rest.head?, grammar.continuesWord c = false := by
  cases kind with
  | marked marked => simp [Token.isMarked, unquoted] at marked
  | word shape ends => exact ⟨by simpa using shape, ends⟩

/-- A comment begins with its mark. -/
theorem Kind.beginsComment {grammar : Grammar} {text rest : List Char} {gap : Gap}
    (kind : Kind grammar text (.gap gap) rest) (comment : gap.isComment = true) :
    BeginsComment grammar text := by
  cases kind with
  | marked marked => cases marked
  | blank plain => simp [comment] at plain
  | comment begins => exact begins

variable {grammar : Grammar} {cursor after : Cursor} {token : Token} {plain long : StringStyle}
  {close c : Char} {escapes : Bool} {rest text : List Char}

/-- A step that gives a marked token gives one of that kind. -/
theorem kind_of_ok {shown : Token} {behind : Cursor} (marked : shown.isMarked = true)
    (found : (.ok (shown, behind) : Step) = .ok (token, after)) :
    Kind grammar text token after.rest := by
  obtain ⟨rfl, rfl⟩ := Prod.mk.inj (Except.ok.inj found)
  exact .marked marked

/-- What ends with a closing mark is of the kind of its token. -/
theorem kind_closed {read : Option (List Char × Cursor)} {fault : LexicalFault}
    {wrap : String → Token} (marked : ∀ content, (wrap content).isMarked = true)
    (found : closed read fault wrap = .ok (token, after)) : Kind grammar text token after.rest := by
  obtain ⟨content, -, rfl⟩ := closed_eq_ok.1 found
  exact .marked (marked _)

/-- Constants between one mark or three are marked. -/
theorem kind_tripleConstant
    (found : tripleConstant plain long close escapes cursor = .ok (token, after)) :
    Kind grammar text token after.rest := by
  unfold tripleConstant at found
  split at found
  · exact kind_of_ok rfl found
  · exact kind_closed (fun _ => rfl) found
  · exact kind_closed (fun _ => rfl) found

theorem kind_constant
    (found : constant grammar plain long close escapes cursor = .ok (token, after)) :
    Kind grammar text token after.rest := by
  unfold constant at found
  split at found
  · exact kind_tripleConstant found
  · exact kind_closed (fun _ => rfl) found

/-- A quoted word keeps its quote, which sets it apart from what is spelled alike. -/
theorem kind_quotedWord (found : quotedWord c cursor = .ok (token, after)) :
    Kind grammar text token after.rest := by
  unfold quotedWord at found
  exact kind_closed (fun _ => rfl) found

/-- So does a word in brackets and quotes. -/
theorem kind_nestedWord (found : nestedWord c cursor = .ok (token, after)) :
    Kind grammar text token after.rest := by
  unfold nestedWord at found
  dsimp only at found
  split at found
  · simp at found
  split at found
  · simp at found
  split at found
  · exact kind_of_ok rfl found
  · simp at found

/-- A word goes on as long as its grammar lets it. -/
theorem kind_span {run : List Char} (shape : text = run ++ cursor.rest) :
    Kind grammar text (.word ⟨String.ofList (run ++ (cursor.span grammar.continuesWord).1), none⟩)
      (cursor.span grammar.continuesWord).2.rest := by
  refine .word (by rw [shape, List.append_assoc, Cursor.span_append]) fun c first => ?_
  have stopped := List.head?_dropWhile_not grammar.continuesWord cursor.rest
  rw [show cursor.rest.dropWhile grammar.continuesWord =
    (cursor.span grammar.continuesWord).2.rest from rfl, Option.mem_def.1 first] at stopped
  simpa using stopped

/-- An unquoted word takes up the characters it begins with and those that go on with it. -/
theorem kind_word {count : Nat} (found : word grammar count cursor = .ok (token, after)) :
    Kind grammar cursor.rest token after.rest := by
  obtain ⟨rfl, rfl⟩ := Prod.mk.inj (Except.ok.inj found)
  have shape : cursor.rest = cursor.rest.take count ++ (cursor.skip count).rest :=
    (List.take_append_drop count cursor.rest).symm
  exact kind_span shape

/-- Behind digits a word may go on, and only where no exponent stands between them. -/
theorem kind_numberEnd {digits : List Char} (shape : text = digits ++ cursor.rest)
    (found : numberEnd grammar digits cursor = .ok (token, after)) :
    Kind grammar text token after.rest := by
  unfold numberEnd at found
  dsimp only at found
  split at found
  · rename_i begins
    obtain ⟨rfl, rfl⟩ := Prod.mk.inj (Except.ok.inj found)
    -- An exponent would stand between the digits and the word; the grammar excludes its letter.
    have letterless : power cursor.rest = [] := by
      simp only [Bool.and_eq_true, Bool.not_eq_true'] at begins
      simp [power, begins.1.2]
    refine kind_span ?_
    rw [letterless]
    simpa [Cursor.skip, Cursor.past] using shape
  split at found <;> exact kind_of_ok rfl found

/-- A number is marked, unless its digits begin a word. -/
theorem kind_number (found : number grammar cursor = .ok (token, after)) :
    Kind grammar cursor.rest token after.rest := by
  unfold number at found
  dsimp only at found
  split at found
  · exact kind_of_ok rfl found
  split at found
  · exact kind_of_ok rfl found
  · refine kind_numberEnd ?_ found
    have point (more : List Char) :
        (more.take 1).takeWhile (· == '.') ++
          more.drop ((more.take 1).takeWhile (· == '.')).length = more := by
      cases more with
      | nil => rfl
      | cons c more => by_cases period : (c == '.') = true <;> simp [period]
    simp only [Cursor.span, Cursor.skip, Cursor.past, List.append_assoc,
      List.takeWhile_append_dropWhile, point]

/-- Texts between dollar signs and placeholders are marked. -/
theorem kind_dollar (found : dollar grammar cursor = .ok (token, after)) :
    Kind grammar text token after.rest := by
  unfold dollar at found
  dsimp only at found
  split at found
  · exact kind_closed (fun _ => rfl) found
  split at found
  · exact kind_closed (fun _ => rfl) found
  · exact kind_of_ok rfl found

theorem kind_operator (found : operator grammar cursor = .ok (token, after)) :
    Kind grammar text token after.rest := by
  unfold operator at found
  split at found
  · exact kind_of_ok rfl found
  split at found <;> exact kind_of_ok rfl found

/-- `#` begins an operator or a word. -/
theorem kind_hash (found : hash grammar cursor = .ok (token, after)) :
    Kind grammar cursor.rest token after.rest := by
  unfold hash at found
  split at found
  · exact kind_of_ok rfl found
  · exact kind_operator found
  · exact kind_operator found
  · split at found
    · exact kind_word found
    · exact kind_operator found
  · exact kind_operator found

/-- `@` begins an operator or a word, which may have a second `@` in front. -/
theorem kind_atSign (found : atSign grammar cursor = .ok (token, after)) :
    Kind grammar cursor.rest token after.rest := by
  unfold atSign at found
  split at found
  case h_1 | h_2 => exact kind_operator found
  case h_5 =>
    split at found
    · exact kind_word found
    · exact kind_of_ok rfl found
  case h_6 =>
    split at found
    · exact kind_of_ok rfl found
    · exact kind_word found
  all_goals exact kind_of_ok rfl found

theorem kind_questionMark (found : questionMark grammar cursor = .ok (token, after)) :
    Kind grammar text token after.rest := by
  unfold questionMark at found
  split at found
  · split at found <;> exact kind_of_ok rfl found
  · exact kind_of_ok rfl found

/-- A letter begins a word, unless it marks a constant. -/
theorem kind_letter {place : Location}
    (found : letter grammar c rest ⟨c :: rest, place⟩ = .ok (token, after)) :
    Kind grammar (c :: rest) token after.rest := by
  unfold letter at found
  dsimp only at found
  split at found
  case h_1 | h_2 =>
    split at found
    · exact kind_constant found
    · exact kind_word found
  case h_3 | h_4 =>
    split at found
    · exact kind_tripleConstant found
    · exact kind_word found
  case h_5 | h_6 | h_7 => exact kind_closed (fun _ => rfl) found
  case h_8 =>
    split at found
    · obtain ⟨content, -, found⟩ := bind_eq_ok.1 found
      exact kind_of_ok rfl found
    · exact kind_word found
  case h_9 => exact kind_word found

/-- A comment to the end of the line is one because of the mark it begins with. -/
theorem kind_lineComment {count : Nat} (begins : BeginsComment grammar text)
    (found : lineComment grammar count cursor = .ok (token, after)) :
    Kind grammar text token after.rest := by
  obtain ⟨rfl, rfl⟩ := Prod.mk.inj (Except.ok.inj found)
  exact .comment begins

/-- The kind of what a sign begins; `#` begins a comment where the grammar has such. -/
theorem kind_sign {place : Location}
    (found : sign grammar c ⟨c :: rest, place⟩ = .ok (token, after)) :
    Kind grammar (c :: rest) token after.rest := by
  unfold sign at found
  split at found
  · rename_i mark
    obtain rfl : c = '#' := by simpa using mark
    split at found
    · rename_i has
      exact kind_lineComment (.hash has) found
    · exact kind_hash found
  split at found
  · exact kind_atSign found
  split at found
  · exact kind_questionMark found
  split at found
  · exact kind_word found
  split at found
  · exact kind_dollar found
  split at found
  · obtain ⟨rfl, rfl⟩ := Prod.mk.inj (Except.ok.inj found)
    exact .blank rfl
  · exact kind_operator found

/-- The kind of what a mark begins. -/
theorem kind_mark {place : Location}
    (found : mark grammar c ⟨c :: rest, place⟩ = .ok (token, after)) :
    Kind grammar (c :: rest) token after.rest := by
  unfold mark at found
  split at found
  · exact kind_constant found
  split at found
  · exact kind_quotedWord found
  split at found
  · exact kind_constant found
  split at found
  · exact kind_nestedWord found
  · exact kind_quotedWord found
  · exact kind_sign found

/-- The kind of the token at the head of a text. -/
theorem kind_next {place : Location}
    (found : next grammar c rest ⟨c :: rest, place⟩ = .ok (token, after)) :
    Kind grammar (c :: rest) token after.rest := by
  unfold next at found
  split at found
  · exact kind_letter found
  split at found
  · exact kind_number found
  split at found
  case h_6 => exact kind_lineComment .hyphens found
  case h_7 =>
    unfold blockComment at found
    obtain ⟨content, -, rfl⟩ := closed_eq_ok.1 found
    exact .comment .block
  case h_8 =>
    split at found
    · rename_i has
      exact kind_lineComment (.slashes has) found
    split at found
    · exact kind_of_ok rfl found
    · exact kind_operator found
  case h_9 => exact kind_mark found
  all_goals
    obtain ⟨rfl, rfl⟩ := Prod.mk.inj (Except.ok.inj found)
    exact .blank rfl

end Lexer

end TableCatalog
