import TableCatalog.Proofs.BlankScript

/-!
# What a parser gives

A parser gives values with a property if none of its runs on the tokens of an input ends with
another value. Such a property goes through sequences, choices and nested phrases.
-/

namespace TableCatalog

/-- Two inputs with the same tokens and the same base, whatever may still be nested in them. -/
structure ParserInput.SameTokens (input source : ParserInput) : Prop where
  grammar : input.grammar = source.grammar
  lexemes : input.lexemes = source.lexemes
  base : input.base = source.base

/-- Places are told by the tokens. -/
theorem ParserInput.SameTokens.locateIn_eq {input source : ParserInput}
    (same : SameTokens input source) (count : Nat) :
    input.locateIn count = source.locateIn count := by
  funext place
  simp only [locateIn, locate, same.lexemes, same.base]

namespace Parser

open ParserInput (SameTokens)

variable {α β : Type} {source input : ParserInput} {start after : ParserState} {value : β}
  {P : α → Prop} {Q : β → Prop}

/-- A sequence of parsers is done if both are, one behind the other. -/
theorem bind_eq_done {first : Parser α} {next : α → Parser β} :
    (first >>= next).run input start = .done value after ↔
      ∃ found middle, first.run input start = .done found middle ∧
        (next found).run input middle = .done value after := by
  rw [run_bind]
  cases first.run input start with
  | done found middle => simp [Parsed.elim]
  | failed error middle => simp [Parsed.elim]

/-- A parser gives only values with a property, whatever input it reads the tokens of `source`
in and wherever it begins. -/
def Gives (source : ParserInput) (P : α → Prop) (parser : Parser α) : Prop :=
  ∀ input, SameTokens input source → ∀ start value after,
    parser.run input start = .done value after → P value

namespace Gives

theorem pure {value : β} (holds : Q value) : Gives source Q (pure value) := by
  intro input same start found after read
  rw [run_pure, Parsed.done.injEq] at read
  exact read.1 ▸ holds

/-- What the first parser gives may be used by the second. -/
theorem bind {first : Parser α} {next : α → Parser β} (gives : Gives source P first)
    (later : ∀ found, P found → Gives source Q (next found)) :
    Gives source Q (first >>= next) := by
  intro input same start value after read
  obtain ⟨found, middle, read, rest⟩ := bind_eq_done.1 read
  exact later found (gives input same start found middle read) input same middle value after rest

/-- What the first of two parsers gives may not matter. -/
theorem behind {first : Parser α} {next : α → Parser β}
    (later : ∀ found, Gives source Q (next found)) : Gives source Q (first >>= next) := by
  have anything : Gives source (fun _ => True) first := fun _ _ _ _ _ _ => trivial
  exact anything.bind fun found _ => later found

/-- A choice gives what both branches give. -/
theorem ite {condition : Prop} [Decidable condition] {first second : Parser β}
    (holds : Gives source Q first) (fails : Gives source Q second) :
    Gives source Q (if condition then first else second) := by
  split
  · exact holds
  · exact fails

/-- Deeper nesting gives the same or a fault. -/
theorem nested {parser : Parser β} (gives : Gives source Q parser) :
    Gives source Q (Parser.nested parser) := by
  intro input same start value after read
  cases depth : input.depth with
  | zero =>
    have deep : (Parser.nested parser).run input start = .failed .nestedTooDeeply start := by
      simp only [Parser.nested, depth]
    rw [deep] at read
    cases read
  | succ depth' =>
    have inside : SameTokens { input with depth := depth' } source :=
      ⟨same.grammar, same.lexemes, same.base⟩
    have further : (Parser.nested parser).run input start =
        parser.run { input with depth := depth' } start := by
      simp only [Parser.nested, depth]
    exact gives _ inside start value after (further ▸ read)

/-- A parser that fails gives nothing, and so whatever is asked for. -/
theorem fail {error : ParseError} : Gives source Q (Parser.fail error) := by
  intro input same start value after read
  cases read

theorem expected {what : String} : Gives source Q (Parser.expected what) := by
  intro input same start value after read
  cases read

theorem expectedAt {what : String} {found : Option Lexeme} :
    Gives source Q (Parser.expectedAt what found) := by
  intro input same start value after read
  cases found <;> cases read

theorem refusedHere {text : String} : Gives source Q (Parser.refusedHere text) := by
  intro input same start value after read
  cases read

end Gives

/-- Whether the next token is a symbol is told without reading it. -/
theorem run_seesSymbol (text : String) :
    (seesSymbol text).run input start =
      .done ((input.ahead? 0 start.position).any (·.placed.token == .symbol text))
        (start.look input) := by
  have looked : peek.run input start =
      .done (input.ahead? 0 start.position) (start.look input) := rfl
  unfold seesSymbol peekSymbol
  rw [run_bind, run_bind, looked]
  cases input.ahead? 0 start.position with
  | none => rfl
  | some lexeme =>
    obtain ⟨⟨token, first, past⟩, key⟩ := lexeme
    cases token <;> simp [Parsed.elim, run_pure]

/-- A symbol is read only where it is next. -/
theorem ahead_of_symbol {text : String} {found : Bool}
    (read : (symbol text).run input start = .done found after) :
    if found then (input.ahead? 0 start.position).any (·.placed.token == .symbol text) = true
    else after.position = start.position := by
  unfold symbol at read
  rw [run_bind, run_seesSymbol, Parsed.elim] at read
  split at read
  · rename_i seen
    obtain ⟨-, middle, -, read⟩ := bind_eq_done.1 read
    obtain ⟨rfl, -⟩ := Parsed.done.inj read
    simpa using seen
  · obtain ⟨rfl, rfl⟩ := Parsed.done.inj read
    rfl

/-- Where a separator is read or a closing parenthesis is seen, one of them is next. -/
theorem ahead_of_marks {comma closes : Bool} {behind finish : ParserState}
    (commaRead : (symbol ",").run input start = .done comma behind)
    (closesRead : (seesSymbol ")").run input behind = .done closes finish)
    (marks : comma = true ∨ closes = true) :
    (input.ahead? 0 start.position).any (fun found =>
      found.placed.token == .comma || found.placed.token == .closeParen) = true := by
  have commaSeen := ahead_of_symbol commaRead
  cases comma with
  | true =>
    obtain ⟨lexeme, seen, mark⟩ := (Option.any_eq_true _ _).1 commaSeen
    have token : lexeme.placed.token = .comma := eq_of_beq mark
    simp [seen, token]
  | false =>
    obtain rfl : closes = true := by simpa using marks
    rw [run_seesSymbol, Parsed.done.injEq, commaSeen] at closesRead
    obtain ⟨lexeme, seen, mark⟩ := (Option.any_eq_true _ _).1 closesRead.1
    have token : lexeme.placed.token = .closeParen := eq_of_beq mark
    simp [seen, token]

end Parser

end TableCatalog
