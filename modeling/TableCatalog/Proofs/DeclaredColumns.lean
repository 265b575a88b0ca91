import TableCatalog.Proofs.Alike
import TableCatalog.Proofs.OptionKeys
import TableCatalog.Proofs.Reading
import TableCatalog.Proofs.TokenKinds

/-!
# Columns and the tokens that declare them

A column is read from the tokens of a script: its name, its type and what else is said of it, up
to a separator or the parenthesis that closes the list. If anything is said behind the type, it
begins with an unquoted word that the grammar has for options.
-/

namespace TableCatalog

open ParserInput

/-- What has been read and the state behind it, if it is no error. -/
def Parsed.result? {α : Type} : Parsed α → Option (α × ParserState)
  | done value state => some (value, state)
  | failed _ _ => none

theorem Parsed.eq_done {α : Type} {parsed : Parsed α} {value : α} {state : ParserState}
    (result : parsed.result? = some (value, state)) : parsed = .done value state := by
  cases parsed with
  | done => cases result; rfl
  | failed => cases result

namespace ColumnDefinition

/-- That a column is read from the tokens of an input, its type ending before the token at a
position, and that a separator or a closing parenthesis follows the column. -/
inductive ReadIn (input : ParserInput) : ColumnDefinition → Nat → Prop where
  | intro {inner start name named type middle column finish}
      (nameRead : Identifier.parser.run input start = .done name named)
      (typeRead : (typeOf inner).run input named = .done type middle)
      (read : (parser inner).run input start = .done column finish)
      (ends : (input.ahead? 0 finish.position).any (fun found =>
        found.placed.token == .comma || found.placed.token == .closeParen) = true) :
      ReadIn input column middle.position

/-- That a column is declared in a script, a token following its type: the reader of columns reads
it from tokens of the script, and its places are told as those of a statement are. -/
inductive Declared (grammar : Grammar) (script : List Char) :
    ColumnDefinition → PlacedToken → Prop where
  | intro {tokens input column position found count}
      (scanned : Token.scan grammar script = .ok tokens)
      (language : input.grammar = grammar)
      (inside : ∀ lexeme ∈ input.lexemes, lexeme ∈ lexemesOf tokens)
      (read : ReadIn input column position)
      (follows : input.lexemes[position]? = some found) :
      Declared grammar script (column.relocate (input.locateIn count)) found.placed

/-- The column that is read from the tokens of a script, beginning with the token at a position,
and the token that follows its type. -/
def declaredAt? (inner : Phrases) (grammar : Grammar) (script : List Char) (position : Nat) :
    Option (ColumnDefinition × PlacedToken) := do
  let tokens ← (Token.scan grammar script).toOption
  let input := ParserInput.ofTokens grammar tokens
  let (_, named) ← (Identifier.parser.run input ⟨position, false⟩).result?
  let (_, middle) ← ((typeOf inner).run input named).result?
  let (column, finish) ← ((parser inner).run input ⟨position, false⟩).result?
  let found ← input.lexemes[middle.position]?
  if (input.ahead? 0 finish.position).any fun found =>
      found.placed.token == .comma || found.placed.token == .closeParen then
    pure (column.relocate (input.locateIn input.lexemes.size), found.placed)
  else none

theorem declared_of_declaredAt? {inner : Phrases} {grammar : Grammar} {script : List Char}
    {position : Nat} {column : ColumnDefinition} {next : PlacedToken}
    (found : declaredAt? inner grammar script position = some (column, next)) :
    Declared grammar script column next := by
  simp only [declaredAt?, Option.bind_eq_bind, Option.bind_eq_some_iff] at found
  obtain ⟨tokens, scanned, ⟨name, named⟩, nameRead, ⟨type, middle⟩, typeRead, ⟨column, finish⟩,
    read, lexeme, follows, found⟩ := found
  split at found
  · rename_i ends
    obtain ⟨rfl, rfl⟩ := Prod.mk.inj (Option.some.inj found)
    have scanned : Token.scan grammar script = .ok tokens := by
      cases outcome : Token.scan grammar script with
      | ok tokens' => simpa [outcome, Except.toOption] using scanned
      | error fault => simp [outcome, Except.toOption] at scanned
    exact .intro scanned rfl (fun _ inside => by simpa [ParserInput.ofTokens] using inside)
      (.intro (Parsed.eq_done nameRead) (Parsed.eq_done typeRead) (Parsed.eq_done read) ends) follows
  · cases found

end ColumnDefinition

/-- A lexeme with a keyword is an unquoted word. -/
theorem exists_word_of_key {tokens : List PlacedToken} {lexeme : Lexeme}
    (inside : lexeme ∈ lexemesOf tokens) (known : lexeme.key ≠ "") :
    ∃ word, lexeme.placed.token = .word word ∧ word.quote = none ∧
      lexeme.key = Text.keywordKey word.text := by
  simp only [lexemesOf, List.mem_map, List.mem_filter] at inside
  obtain ⟨placed, -, rfl⟩ := inside
  cases token : placed.token with
  | word word =>
    simp only [token, Word.key] at known ⊢
    cases quote : word.quote with
    | none => exact ⟨word, rfl, quote, by simp⟩
    | some mark => simp [quote] at known
  | _ => simp [token] at known

namespace Token

open Lexer

variable {grammar : Grammar} {text : List Char} {tokens : List PlacedToken} {placed : PlacedToken}

/-- A token of a text stands where its place tells, and is of its kind there. -/
theorem exists_kind_of_mem (scanned : scan grammar text = .ok tokens) (inside : placed ∈ tokens) :
    ∃ front back rest, text = front ++ back ∧ placed.first = Location.start.after front ∧
      Kind grammar back placed.token rest := by
  obtain ⟨place, reads⟩ := reads_of_scan scanned
  obtain ⟨before, after, rfl⟩ := List.append_of_mem inside
  obtain ⟨middle, first, second⟩ := reads.split
  obtain ⟨lexemes, -, whole, led, -⟩ := first.settled
  cases second with
  | step found more => exact ⟨_, _, _, whole, led, kind_next found⟩

/-- What stands at the place of a token is of the kind of the token. -/
theorem exists_kind {front back : List Char} (scanned : scan grammar (front ++ back) = .ok tokens)
    (inside : placed ∈ tokens) (standing : placed.first = Location.start.after front) :
    ∃ rest, Kind grammar back placed.token rest := by
  obtain ⟨front', back', rest, whole, place, kind⟩ := exists_kind_of_mem scanned inside
  have here := Location.rest?_after front back
  rw [← standing, place, whole, Location.rest?_after] at here
  obtain rfl := Option.some.inj here
  exact ⟨rest, kind⟩

end Token

namespace ColumnDefinition

variable {grammar : Grammar} {column : ColumnDefinition} {next : PlacedToken} {front rest : List Char}

/-- No token without a keyword begins an option. -/
theorem empty_not_mem_optionKeys (grammar : Grammar) : "" ∉ optionKeys grammar := by
  cases grammar <;> decide

/-- What is said of a column behind its type begins with an unquoted word for options. -/
theorem Declared.exists_word (declared : Declared grammar (front ++ rest) column next)
    (standing : next.first = Location.start.after front)
    (given : next.token ≠ .comma ∧ next.token ≠ .closeParen) :
    ∃ word after, rest = word ++ after ∧
      Text.keywordKey (String.ofList word) ∈ optionKeys grammar ∧
        ∀ c ∈ after.head?, grammar.continuesWord c = false := by
  cases declared with
  | @intro tokens input column position found count scanned language inside read follows =>
    cases read with
    | @intro inner start name named type middle column finish nameRead typeRead read ends =>
      have here {lexeme : Lexeme} (seen : input.ahead? 0 middle.position = some lexeme) :
          lexeme = found.counted (middle.position - input.base) := by
        rw [ParserInput.ahead?] at seen
        split at seen
        · cases seen
        · simpa [ParserInput.lexeme?, follows] using seen.symm
      have goesOn : finish.position ≠ middle.position := by
        intro same
        rw [same, Option.any_eq_true] at ends
        obtain ⟨lexeme, seen, marks⟩ := ends
        rw [here seen] at marks
        simp [Lexeme.counted, given] at marks
      have listed := mem_optionKeys inner nameRead typeRead read goesOn
      rw [language] at listed
      obtain ⟨lexeme, seen, key⟩ : ∃ lexeme, input.ahead? 0 middle.position = some lexeme ∧
          Parser.keyAt input middle.position = lexeme.key := by
        unfold Parser.keyAt at listed ⊢
        cases seen : input.ahead? 0 middle.position with
        | none => exact absurd (by simpa [seen] using listed) (empty_not_mem_optionKeys grammar)
        | some lexeme => exact ⟨lexeme, rfl, rfl⟩
      rw [key, here seen] at listed
      have member := inside found (Array.mem_of_getElem? follows)
      obtain ⟨rest', kind⟩ :=
        Token.exists_kind scanned (mem_of_mem_lexemesOf member) standing
      obtain ⟨word, token, unquoted, spelled⟩ := exists_word_of_key member
        (fun nothing => empty_not_mem_optionKeys grammar (nothing ▸ listed))
      rw [token] at kind
      obtain ⟨shape, ends⟩ := kind.word_eq unquoted
      exact ⟨_, _, shape, by simpa [spelled, Lexeme.counted] using listed, ends⟩

end ColumnDefinition

end TableCatalog
