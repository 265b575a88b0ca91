import TableCatalog.Proofs.Fault
import TableCatalog.Proofs.OneStatement

/-!
# Blank scripts

Blanks scan as gaps, except that in MySQL and SQLite some of them begin words. Such a word is
no keyword, and no statement of these grammars begins with it. So of a blank text no statement
is read in any grammar: it either holds none or is malformed.
-/

namespace TableCatalog

open ParserInput PartitionClause Token

/-- A token that blanks may scan as: a gap, or a word that begins with a blank. -/
def Faint (grammar : Grammar) (token : Token) : Prop :=
  token.isGap = true ∨
    ∃ c tail, token = .word ⟨String.ofList (c :: tail), none⟩ ∧ Text.isBlank c = true ∧
      grammar.startsWord c = true

namespace Lexer

variable {grammar : Grammar} {cursor finish : Cursor} {tokens : List PlacedToken}

/-- Only two grammars let a word begin with a blank. -/
theorem grammar_of_startsWord_blank {c : Char} (blank : Text.isBlank c = true)
    (starts : grammar.startsWord c = true) : grammar = .mysql ∨ grammar = .sqlite := by
  obtain ⟨unlettered, unnumbered, marks⟩ := unmarked_blank blank
  simp only [Bool.or_eq_false_iff] at unnumbered
  simp only [List.mem_cons, List.not_mem_nil, or_false, not_or] at marks
  cases grammar with
  | mysql => exact .inl rfl
  | sqlite => exact .inr rfl
  | postgres | duckDb | sqlServer | generic | redshift | hive | clickHouse | snowflake | bigQuery |
      databricks =>
    simp [Grammar.startsWord, Text.isAsciiAlphanum, isLetter_blank blank, unlettered, unnumbered,
      marks] at starts

/-- Blanks scan as faint tokens. -/
theorem faint_of_reads (reads : Reads grammar cursor tokens finish)
    (blank : ∀ c ∈ cursor.rest, Text.isBlank c = true) :
    ∀ placed ∈ tokens, Faint grammar placed.token := by
  induction reads with
  | refl => simp
  | @step c rest place token after finish tokens found more ih =>
    obtain ⟨run, shape, -⟩ := stands_next false (by simp) found
    have white := blank c List.mem_cons_self
    have behind : ∀ d ∈ after.rest, Text.isBlank d = true := fun d inside =>
      blank d (List.mem_cons_of_mem c (shape ▸ List.mem_append_right run inside))
    have here : Faint grammar token := by
      rcases next_blank grammar white rest place with ⟨gap, run, next, -, gapped⟩ |
          ⟨starts, worded⟩
      · rw [gapped] at found
        obtain ⟨rfl, -⟩ := Prod.mk.inj (Except.ok.inj found)
        exact .inl rfl
      · rw [worded] at found
        obtain ⟨rfl, -⟩ := Prod.mk.inj (Except.ok.inj found)
        exact .inr ⟨c, _, rfl, white, starts⟩
    simpa using ⟨here, ih behind⟩

end Lexer

/-- A word that begins with a blank begins with no upper-case letter when it is looked up. -/
theorem Word.key_blank {c : Char} (blank : Text.isBlank c = true) (tail : List Char) :
    (Word.key ⟨String.ofList (c :: tail), none⟩).toList.head?.any Char.isUpper = false := by
  have all : ∀ code ∈ Lexer.blankCodes,
      (Text.keywordUpper (Char.ofNat code)).head?.any Char.isUpper = false ∧
        Text.keywordUpper (Char.ofNat code) ≠ [] := by
    decide +kernel
  obtain ⟨small, filled⟩ := all c.toNat (Lexer.mem_blankCodes blank)
  rw [Char.ofNat_toNat] at small filled
  obtain ⟨d, upper, shape⟩ := List.exists_cons_of_ne_nil filled
  simpa [Word.key, Text.keywordKey, shape] using small

namespace Parser

variable {α β : Type} {input : ParserInput} {state : ParserState}

theorem run_bind (first : Parser α) (next : α → Parser β) :
    (first >>= next).run input state =
      (first.run input state).elim (fun value after => (next value).run input after) .failed :=
  rfl

theorem run_pure (value : α) : (pure value : Parser α).run input state = .done value state :=
  rfl

/-- Keywords are not read where the first of them is not next. -/
theorem run_keywords_other {word : String} (words : List String) (state : ParserState)
    (other : (input.ahead? 0 state.position).any (·.key == word) = false) :
    (keywords (word :: words)).run input state = .done false (state.look input) := by
  have looked : (peekAt 0).run input state =
      .done (input.ahead? 0 state.position) (state.look input) := rfl
  have seen (tests : List (Lexeme → Bool)) :
      (seesAll ((fun lexeme => lexeme.key == word) :: tests) 0).run input state =
        .done false (state.look input) := by
    rw [seesAll, run_bind, looked]
    simp only [Parsed.elim, other, Bool.false_eq_true, if_false, run_pure]
  rw [keywords, List.map_cons, readAll, run_bind, seen]
  simp only [Parsed.elim, Bool.false_eq_true, if_false, run_pure]

end Parser

namespace Statement

variable {grammar : Grammar} {input : ParserInput} {state : ParserState} {found : Lexeme}
  {tokens : List PlacedToken} {statements : List Statement}

theorem key_ne {key : String} (small : key.toList.head?.any Char.isUpper = false) (word : String)
    (upper : word.toList.head?.any Char.isUpper = true) : key ≠ word := by
  rintro rfl
  simp [small] at upper

/-- No statement begins with a word that does not begin with an upper-case letter. -/
theorem ofKeyword_other (inner : Phrases) (statement : Parser Statement)
    (statements : Parser (List Statement))
    (small : found.key.toList.head?.any Char.isUpper = false) :
    ofKeyword inner statement statements (some found) =
      Parser.grammar >>= fun _ => Parser.expectedAt "an SQL statement" (some found) := by
  unfold ofKeyword
  congr 1
  funext grammar
  dsimp only [Option.elim]
  split
  -- The last case is that of no word at all; every other word begins with a capital.
  all_goals first
    | (rename_i same; exact absurd same (key_ne small _ (by decide)))
    | rfl

/-- A word that does not begin with an upper-case letter begins no statement that one of the two
grammars has for itself. -/
theorem run_special?_other (inner : Phrases)
    (blanks : input.grammar = .mysql ∨ input.grammar = .sqlite)
    (here : input.ahead? 0 state.position = some found)
    (small : found.key.toList.head?.any Char.isUpper = false) :
    ∃ after, (special? inner).run input state = .done none after ∧
      after.position = state.position := by
  have other (word : String) (upper : word.toList.head?.any Char.isUpper = true) :
      (input.ahead? 0 state.position).any (·.key == word) = false := by
    rw [here]
    simpa using key_ne small word upper
  have told : Parser.grammar.run input state = .done input.grammar (state.look input) := rfl
  unfold special?
  rw [Parser.run_bind, told]
  rcases blanks with mysql | sqlite
  · have locked := Parser.run_keywords_other ["TABLES"] (state.look input)
      (other "LOCK" (by decide))
    have unlocked := Parser.run_keywords_other ["TABLES"] ((state.look input).look input)
      (other "UNLOCK" (by decide))
    refine ⟨((state.look input).look input).look input, ?_, rfl⟩
    simp only [mysql, Parsed.elim, Parser.run_bind, locked, unlocked, Bool.false_eq_true, if_false,
      Parser.run_pure]
  · have replaced : (Parser.sees "REPLACE").run input (state.look input) =
        .done false ((state.look input).look input) := by
      have key : (Parser.sees "REPLACE").run input (state.look input) =
          .done ((input.ahead? 0 state.position).elim "" (·.key) == "REPLACE")
            ((state.look input).look input) := rfl
      rw [key, here]
      simpa using key_ne small "REPLACE" (by decide)
    refine ⟨(state.look input).look input, ?_, rfl⟩
    simp only [sqlite, Parsed.elim, Parser.run_bind, replaced, Bool.false_eq_true, if_false,
      Parser.run_pure]

/-- In the grammars in which a word may begin with a blank, no statement begins with a word that
does not begin with an upper-case letter. -/
theorem exists_failed_parserOf (inner : Phrases) (fuel : Nat) {word : Word}
    (blanks : input.grammar = .mysql ∨ input.grammar = .sqlite)
    (here : input.ahead? 0 state.position = some found)
    (small : found.key.toList.head?.any Char.isUpper = false)
    (worded : found.placed.token = .word word) :
    ∃ error after, (parserOf inner fuel).run input state = .failed error after := by
  cases fuel with
  | zero => exact ⟨_, _, rfl⟩
  | succ fuel =>
    cases deep : input.depth with
    | zero => exact ⟨.nestedTooDeeply, state, by simp only [parserOf, Parser.nested, deep]⟩
    | succ depth =>
      obtain ⟨after, unspecial, stood⟩ :
          ∃ after, (special? inner).run { input with depth } state = .done none after ∧
            after.position = state.position :=
        run_special?_other inner blanks here small
      have read : Parser.next.run { input with depth } after =
          .done (some found) ⟨after.position + 1, ((after.look input).look input).strayed⟩ := by
        rw [← here, ← stood]
        rfl
      let statement := Parser.delay fun _ => parserOf inner fuel
      obtain ⟨error, last, unknown⟩ : ∃ error last,
          (ofKeyword inner statement (listOf statement) (some found)).run { input with depth }
            ⟨after.position + 1, ((after.look input).look input).strayed⟩ = .failed error last := by
        rw [ofKeyword_other inner statement (listOf statement) small]
        exact ⟨_, _, rfl⟩
      obtain ⟨⟨token, first, past⟩, key⟩ := found
      obtain rfl : token = .word word := worded
      refine ⟨error, last, ?_⟩
      simp only [parserOf, Parser.nested, deep, Parser.run_bind, unspecial, Parsed.elim, read]
      exact unknown

theorem exists_failed_statementAt {word : Word}
    (blanks : input.grammar = .mysql ∨ input.grammar = .sqlite)
    (here : input.lexemes[state.position]? = some found)
    (small : found.key.toList.head?.any Char.isUpper = false)
    (worded : found.placed.token = .word word) :
    ∃ error after, statementAt input state = .failed error after := by
  have attempt (size : Nat) : ∃ error after, (parserWithin size input.depth).run
      { input with base := state.position, fuel := size + 1 } ⟨state.position, false⟩ =
        .failed error after := by
    have next : { input with base := state.position, fuel := size + 1 }.ahead? 0 state.position =
        some (found.counted (state.position - state.position)) := by
      simp [ahead?, endsAt, lexeme?, here, worded, Token.semicolon]
    exact exists_failed_parserOf _ _ blanks next small worded
  obtain ⟨error, after, bounded⟩ := attempt (input.width input.lexemes.size state.position)
  obtain ⟨error', after', unbounded⟩ := attempt input.lexemes.size
  unfold statementAt readAt
  simp only [bounded, unbounded, Parsed.astray]
  split <;> exact ⟨_, _, rfl⟩

/-- A word that begins with a blank begins no statement. -/
theorem exists_error_of_faint (faint : ∀ placed ∈ tokens, Faint grammar placed.token)
    (content : hasContent tokens = true) : ∃ error, ofTokens grammar tokens = .error error := by
  have filled := length_lexemesOf_pos content
  obtain ⟨first, others, shape⟩ := List.exists_cons_of_length_pos filled
  have member : first ∈ lexemesOf tokens := shape ▸ List.mem_cons_self
  obtain ⟨placed, kept, made⟩ := List.mem_map.1 member
  obtain ⟨inside, solid⟩ := List.mem_filter.1 kept
  obtain gap | ⟨c, tail, worded, white, starts⟩ := faint placed inside
  · simp [gap] at solid
  · have token : first.placed.token = .word ⟨String.ofList (c :: tail), none⟩ := by
      rw [← made]
      exact worded
    have small : first.key.toList.head?.any Char.isUpper = false := by
      rw [← made]
      simpa only [worded] using Word.key_blank white tail
    have found : (ParserInput.ofTokens grammar tokens).lexemes[0]? = some first := by
      simp only [ParserInput.ofTokens, List.getElem?_toArray, shape, List.getElem?_cons_zero]
    have fuel : 2 * (ParserInput.ofTokens grammar tokens).fuel =
        2 * (lexemesOf tokens).length + 1 + 1 := rfl
    obtain ⟨error, after, failed⟩ :
        ∃ error after, statementAt (ParserInput.ofTokens grammar tokens) ⟨0, false⟩ =
          .failed error after :=
      exists_failed_statementAt (Lexer.grammar_of_startsWord_blank white starts) found small token
    refine ⟨error, ?_⟩
    simp only [ofTokens, fuel]
    rw [listFrom_statement found (by simp [token, Token.semicolon]), failed]
    rfl

/-- Faint tokens make up no statement. -/
theorem eq_nil_of_faint (faint : ∀ placed ∈ tokens, Faint grammar placed.token)
    (read : ofTokens grammar tokens = .ok statements) : statements = [] := by
  cases content : hasContent tokens with
  | false =>
    rw [ofTokens_blank grammar content] at read
    exact (Except.ok.inj read).symm
  | true =>
    obtain ⟨error, unread⟩ := exists_error_of_faint faint content
    cases unread.symm.trans read

end Statement

namespace Script

variable {grammar : Grammar} {tokens : List PlacedToken} {statements : List Statement}

/-- Faint tokens make up no statement without their partition clauses either. -/
theorem eq_nil_of_faint (faint : ∀ placed ∈ tokens, Faint grammar placed.token)
    (read : ofTokens grammar tokens = .ok statements) : statements = [] := by
  unfold ofTokens at read
  split at read
  · rename_i whole
    obtain rfl := Except.ok.inj read
    exact Statement.eq_nil_of_faint faint whole
  · split at read
    · cases read
    · rename_i remaining stripped
      obtain rfl := strip?_eq_some stripped
      split at read
      · rename_i part
        obtain rfl := Except.ok.inj read
        exact Statement.eq_nil_of_faint
          (fun placed member => faint placed ((kept_sublist _ _).subset member)) part
      · cases read

/-- A blank text holds no statement. -/
theorem eq_nil_of_blank {text : List Char} (blank : Text.allBlank text = true)
    (read : ofText grammar text = .ok statements) : statements = [] := by
  cases scanned : Token.scan grammar text with
  | error fault =>
    rw [ofText_of_fault scanned] at read
    cases read
  | ok tokens =>
    rw [ofText_of_scan scanned] at read
    obtain ⟨place, reads⟩ := Token.reads_of_scan scanned
    exact eq_nil_of_faint (Lexer.faint_of_reads reads (List.all_eq_true.1 blank)) read

end Script

end TableCatalog
