import TableCatalog.Grammar.Lexical
import TableCatalog.Keyword
import TableCatalog.Token
import TableCatalog.Token.Fault

/-!
# Parsers over tokens

A parser reads a statement out of a sequence of tokens; its state is a position in that
sequence. It takes a terminator for the end of the text, and it places tokens by their
numbers in the statement. So what it comes to depends on the tokens of the statement alone,
unless it steps over the end of it, which its state tells. Every parser carries the proof.
-/

namespace TableCatalog

/-- Why a sequence of tokens is not what a parser reads. -/
inductive ParseError where
  /-- Something else stands where `what` is required; no token is the end of the text. -/
  | expected (what : String) (found : Option PlacedToken)
  /-- An expression was required, told in the wording of select lists. -/
  | expectedExpression (found : String) (place : Location)
  /-- Phrases are nested more deeply than is read. -/
  | nestedTooDeeply
  /-- The text is no sequence of tokens. -/
  | lexical (fault : LexicalFault)
  /-- A number does not fit where it stands. -/
  | badNumber (digits kind reason : String) (place : Location)
  /-- A closing angle bracket was read that no open type accounts for. -/
  | strayAngle (type : String) (next : Option Token)
  /-- A closing angle bracket too many in a struct type. -/
  | strayStructAngle (place : Location)
  /-- A Snowflake table ends before its columns. -/
  | missingColumns
  /-- A phrase is refused in words of its own, at a place if one is told. -/
  | refused (text : String) (place : Location)
  deriving DecidableEq, Repr

namespace ParseError

/-- The place that an error is laid to; no place if it tells none. -/
def place : ParseError → Location
  | expected _ (some found) => found.first
  | expectedExpression _ place | badNumber _ _ _ place | strayStructAngle place
  | refused _ place => place
  | lexical fault => fault.place
  | _ => Location.none

/-- The wording of an error, without its place and the prefix that all errors share. -/
def detail : ParseError → String
  | expected what none => s!"Expected: {what}, found: EOF"
  | expected what (some found) => s!"Expected: {what}, found: " ++ found.token.render
  | expectedExpression found _ => s!"Expected an expression, found: {found}"
  | nestedTooDeeply => "recursion limit exceeded"
  | lexical fault => fault.cause.message
  | badNumber digits kind reason _ => s!"Could not parse '{digits}' as {kind}: {reason}"
  | strayAngle type next =>
    s!"unmatched > after parsing data type {type}" ++ (next.elim "EOF" Token.render)
  | strayStructAngle _ => "unmatched > in STRUCT definition"
  | missingColumns => "unexpected end of input"
  | refused text _ => text

/-- The wording of an error, without its place. -/
def wording (error : ParseError) : String :=
  "sql parser error: " ++ error.detail

/-- The wording of an error, its place coming last. -/
def message (error : ParseError) : String :=
  error.wording ++ error.place.ending

/-- Whether phrases are nested too deeply, which no reader forgives. -/
def isDeep : ParseError → Bool
  | nestedTooDeeply => true
  | _ => false

/-- An error with the places where tokens begin and end put elsewhere; it is laid to where a
token begins. -/
def relocate (first past : Location → Location) : ParseError → ParseError
  | expected what found =>
    expected what (found.map fun token => ⟨token.token, first token.first, past token.past⟩)
  | expectedExpression found place => expectedExpression found (first place)
  | lexical fault => lexical { fault with place := first fault.place }
  | badNumber digits kind reason place => badNumber digits kind reason (first place)
  | strayStructAngle place => strayStructAngle (first place)
  | refused text place => refused text (first place)
  | error => error

@[simp] theorem isDeep_relocate (first past : Location → Location) (error : ParseError) :
    (error.relocate first past).isDeep = error.isDeep := by
  cases error <;> rfl

theorem place_relocate {first : Location → Location} (placeless : first Location.none = Location.none)
    (past : Location → Location) (error : ParseError) :
    (error.relocate first past).place = first error.place := by
  cases error with
  | expected what found => cases found <;> simp [relocate, place, placeless]
  | nestedTooDeeply | strayAngle | missingColumns => exact placeless.symm
  | expectedExpression | lexical | badNumber | strayStructAngle | refused => rfl

/-- Whether an error is laid to a token, if to anything; no token is the end of the text. -/
def LaidTo (error : ParseError) (found : Option PlacedToken) : Prop :=
  error.place = Location.none ∨ error.place = found.elim Location.none (·.first)

end ParseError

/-- A token as parsers see it: with the keyword that it may be. -/
structure Lexeme where
  placed : PlacedToken
  key : String
  deriving Repr, Inhabited

namespace Lexeme

/-- The place before or behind the token of a number: the token counts as a line, its two
sides as columns. -/
def side (index column : Nat) : Location :=
  ⟨index + 1, column⟩

/-- A lexeme that is placed by its number. -/
def counted (lexeme : Lexeme) (index : Nat) : Lexeme :=
  { lexeme with placed := ⟨lexeme.placed.token, side index 0, side index 1⟩ }

end Lexeme

/-- What a parser reads from: the grammar, the tokens that are not gaps, the gaps before
each of them and before the end, where the statement begins, a bound on the rounds of any
loop that reads a token in each of them, the number of nested phrases that may still be
opened, and whether `PRIOR` is an operator. -/
structure ParserInput where
  grammar : Grammar
  lexemes : Array Lexeme
  gaps : Array (List PlacedToken)
  base : Nat
  fuel : Nat
  depth : Nat
  hasPrior : Bool

namespace ParserInput

/-- How deeply phrases may be nested. -/
def maxDepth : Nat := 50

/-- The gaps before each token that is no gap, and before the end. -/
def gapRuns : List PlacedToken → List (List PlacedToken)
  | [] => [[]]
  | placed :: rest =>
    if placed.token.isGap then
      match gapRuns rest with
      | [] => [[placed]]
      | first :: others => (placed :: first) :: others
    else [] :: gapRuns rest

/-- The lexemes of a list of tokens. -/
def lexemesOf (tokens : List PlacedToken) : List Lexeme :=
  (tokens.filter fun placed => !placed.token.isGap).map fun placed =>
    ⟨placed, match placed.token with
      | .word word => word.key
      | _ => ""⟩

/-- The input that a list of tokens makes up. -/
def ofTokens (grammar : Grammar) (tokens : List PlacedToken) : ParserInput where
  grammar := grammar
  lexemes := (lexemesOf tokens).toArray
  gaps := (gapRuns tokens).toArray
  base := 0
  fuel := (lexemesOf tokens).length + 1
  depth := maxDepth
  hasPrior := false

/-- Whether a statement ends at a position: at a terminator or at the end of the text. -/
def endsAt (input : ParserInput) (position : Nat) : Bool :=
  match input.lexemes[position]? with
  | some lexeme => lexeme.placed.token == .semicolon
  | none => true

/-- Whether a position lies behind the end of the statement. -/
def isBeyond (input : ParserInput) (position : Nat) : Bool :=
  input.base < position && input.endsAt (position - 1)

/-- The lexeme at a position, placed by its number in the statement. -/
def lexeme? (input : ParserInput) (position : Nat) : Option Lexeme :=
  input.lexemes[position]?.map (·.counted (position - input.base))

/-- The lexeme `ahead` places further on in the statement. -/
def ahead? (input : ParserInput) : Nat → Nat → Option Lexeme
  | 0, position => if input.endsAt position then none else input.lexeme? position
  | ahead + 1, position =>
    if input.endsAt position then none else input.ahead? ahead (position + 1)

/-- The gaps before a position. -/
def gapsAt (input : ParserInput) (position : Nat) : List PlacedToken :=
  input.gaps[position]?.getD []

/-- The gaps between two tokens of the statement, the second one being at a position. -/
def gapsInside (input : ParserInput) (position : Nat) : List Token :=
  if position ≤ input.base || input.endsAt position then []
  else (input.gapsAt position).map (·.token)

/-- The gap behind a hyphen that has just been read, if there is one. -/
def gapBehindHyphen? (input : ParserInput) : Nat → Option PlacedToken
  | 0 => none
  | index + 1 =>
    match input.lexemes[index]? with
    | some lexeme =>
      if lexeme.placed.token = .symbol "-" then (input.gapsAt (index + 1)).head? else none
    | none => none

/-- The place in the text of a place that is told by the number of a token. -/
def locate (input : ParserInput) (place : Location) : Location :=
  match place.line with
  | 0 => Location.none
  | index + 1 =>
    match input.lexemes[input.base + index]? with
    | some lexeme => if place.column = 0 then lexeme.placed.first else lexeme.placed.past
    | none => Location.none

/-- The place in the text where the token of a number begins. -/
def beginning (input : ParserInput) (place : Location) : Location :=
  input.locate ⟨place.line, 0⟩

/-- The place in the text of a place that is told by the number of a token, if the token is
one of the first `count`. -/
def locateIn (input : ParserInput) (count : Nat) (place : Location) : Location :=
  if place.line ≤ count then input.locate place else Location.none

/-- The number of tokens from a position to the end of the statement, at most `count`. -/
def width (input : ParserInput) : Nat → Nat → Nat
  | 0, _ => 0
  | count + 1, position =>
    if input.endsAt position then 0 else input.width count (position + 1) + 1

/-- The places that errors are laid to: where a token begins or the gap behind a hyphen, or no
place. -/
inductive ErrorPlace (input : ParserInput) : Location → Prop where
  | none : ErrorPlace input Location.none
  | token {lexeme : Lexeme} (inside : lexeme ∈ input.lexemes) :
      ErrorPlace input lexeme.placed.first
  | gap {position : Nat} {gap : PlacedToken}
      (behind : input.gapBehindHyphen? position = some gap) : ErrorPlace input gap.first

/-- Of an input only the tokens and the gaps matter to the places of errors. -/
theorem ErrorPlace.congr {input other : ParserInput} {place : Location}
    (lays : input.ErrorPlace place) (lexemes : other.lexemes = input.lexemes)
    (gaps : other.gaps = input.gaps) : other.ErrorPlace place := by
  cases lays with
  | none => exact .none
  | token inside => exact .token (lexemes ▸ inside)
  | @gap position gap behind =>
    have same : other.gapBehindHyphen? position = input.gapBehindHyphen? position := by
      cases position <;> simp only [gapBehindHyphen?, gapsAt, lexemes, gaps]
    exact .gap (same.trans behind)

/-- Errors may be laid to the token at a position. -/
theorem errorPlace_of_laidTo {input : ParserInput} {error : ParseError} {position : Nat}
    (laid : error.LaidTo (input.lexemes[position]?.map (·.placed))) :
    input.ErrorPlace error.place := by
  rcases laid with placeless | found
  · exact placeless ▸ .none
  · rw [found]
    cases inside : input.lexemes[position]? with
    | none => exact .none
    | some lexeme => exact .token (Array.mem_of_getElem? inside)

/-- Errors may be laid to where the token of a number begins. -/
theorem errorPlace_beginning (input : ParserInput) (place : Location) :
    input.ErrorPlace (input.beginning place) := by
  obtain ⟨line, column⟩ := place
  unfold beginning locate
  cases line with
  | zero => exact .none
  | succ index =>
    cases inside : input.lexemes[input.base + index]? with
    | none => simpa only [inside] using .none
    | some lexeme => simpa only [inside] using .token (Array.mem_of_getElem? inside)

/-- Two inputs with the same statement of `size` tokens at their bases. -/
structure Alike (size : Nat) (first second : ParserInput) : Prop where
  grammar : first.grammar = second.grammar
  fuel : first.fuel = second.fuel
  depth : first.depth = second.depth
  hasPrior : first.hasPrior = second.hasPrior
  inside : ∀ i < size, first.endsAt (first.base + i) = false ∧
    second.endsAt (second.base + i) = false
  lexeme : ∀ i < size, first.lexeme? (first.base + i) = second.lexeme? (second.base + i)
  gaps : ∀ i < size, 0 < i → (first.gapsAt (first.base + i)).map (·.token) =
    (second.gapsAt (second.base + i)).map (·.token)
  ends : first.endsAt (first.base + size) = true ∧ second.endsAt (second.base + size) = true

namespace Alike

variable {size : Nat} {first second : ParserInput}

theorem symm (alike : Alike size first second) : Alike size second first where
  grammar := alike.grammar.symm
  fuel := alike.fuel.symm
  depth := alike.depth.symm
  hasPrior := alike.hasPrior.symm
  inside i bound := (alike.inside i bound).symm
  lexeme i bound := (alike.lexeme i bound).symm
  gaps i bound positive := (alike.gaps i bound positive).symm
  ends := alike.ends.symm

theorem isBeyond_inside (alike : Alike size first second) {i : Nat} (bound : i ≤ size) :
    first.isBeyond (first.base + i) = false := by
  cases i with
  | zero => simp [isBeyond]
  | succ i =>
    have inside := (alike.inside i (by omega)).1
    simp [isBeyond, ← Nat.add_assoc, inside]

theorem isBeyond_behind (alike : Alike size first second) :
    first.isBeyond (first.base + (size + 1)) = true := by
  simp only [isBeyond, ← Nat.add_assoc, Nat.add_sub_cancel, alike.ends.1, Bool.and_true,
    decide_eq_true_eq]
  omega

theorem ahead?_eq (alike : Alike size first second) (ahead : Nat) {i : Nat} (bound : i ≤ size) :
    first.ahead? ahead (first.base + i) = second.ahead? ahead (second.base + i) := by
  induction ahead generalizing i with
  | zero =>
    by_cases last : i = size
    · simp [ParserInput.ahead?, last, alike.ends]
    · have inside := alike.inside i (by omega)
      simp [ParserInput.ahead?, inside, alike.lexeme i (by omega)]
  | succ ahead ih =>
    by_cases last : i = size
    · simp [ParserInput.ahead?, last, alike.ends]
    · have inside := alike.inside i (by omega)
      have next : first.ahead? ahead (first.base + (i + 1)) =
          second.ahead? ahead (second.base + (i + 1)) := ih (by omega)
      simpa [ParserInput.ahead?, inside, Nat.add_assoc] using next

theorem gapsInside_eq (alike : Alike size first second) {i : Nat} (bound : i ≤ size) :
    first.gapsInside (first.base + i) = second.gapsInside (second.base + i) := by
  unfold gapsInside
  by_cases last : i = size
  · simp [last, alike.ends]
  · have inside := alike.inside i (by omega)
    by_cases start : i = 0
    · simp [start]
    · have left : ¬first.base + i ≤ first.base := by omega
      have right : ¬second.base + i ≤ second.base := by omega
      simp [inside, left, right, alike.gaps i (by omega) (by omega)]

end Alike

end ParserInput

/-- Where a parser stands, and whether it has stepped over the end of the statement. -/
structure ParserState where
  position : Nat
  strayed : Bool

namespace ParserState

/-- The state in which something has been looked at. -/
def look (state : ParserState) (input : ParserInput) : ParserState :=
  { state with strayed := state.strayed || input.isBeyond state.position }

/-- Two states at the same token of a statement of `size` tokens, or just behind its end. -/
def Level (size : Nat) (input input' : ParserInput) (state state' : ParserState) : Prop :=
  ∃ i ≤ size + 1, state = ⟨input.base + i, false⟩ ∧ state' = ⟨input'.base + i, false⟩

end ParserState

/-- What a parser comes to: a value or an error, and the state it has reached. -/
inductive Parsed (α : Type) where
  | done (value : α) (state : ParserState)
  | failed (error : ParseError) (state : ParserState)

namespace Parsed

variable {α β : Type}

/-- The state that has been reached. -/
def state : Parsed α → ParserState
  | done _ state => state
  | failed _ state => state

/-- What becomes of a value or an error. -/
@[inline] def elim (parsed : Parsed α) (value : α → ParserState → Parsed β)
    (error : ParseError → ParserState → Parsed β) : Parsed β :=
  match parsed with
  | done v state => value v state
  | failed e state => error e state

/-- An outcome beyond the statement. -/
def astray : Parsed α → Parsed α
  | done v state => .done v { state with strayed := true }
  | failed e state => .failed e { state with strayed := true }

theorem strayed_astray (parsed : Parsed α) : parsed.astray.state.strayed = true := by
  cases parsed <;> rfl

/-- Two outcomes over the same statement: both have strayed, or they are the same, with
errors told apart only by their depth. -/
inductive Agree (size : Nat) (input input' : ParserInput) : Parsed α → Parsed α → Prop where
  | strayed {first second : Parsed α} (left : first.state.strayed = true)
      (right : second.state.strayed = true) : Agree size input input' first second
  | done {value : α} {state state' : ParserState}
      (level : ParserState.Level size input input' state state') :
      Agree size input input' (.done value state) (.done value state')
  | failed {error error' : ParseError} {state state' : ParserState}
      (level : ParserState.Level size input input' state state')
      (deep : error.isDeep = error'.isDeep) :
      Agree size input input' (.failed error state) (.failed error' state')

/-- A run that a parser may have: once strayed it stays so, and over the same statement it
comes to the same. -/
structure Uniform (run : ParserInput → ParserState → Parsed α) : Prop where
  stays : ∀ input state, state.strayed = true → (run input state).state.strayed = true
  agrees : ∀ size input input', ParserInput.Alike size input input' → ∀ state state',
    ParserState.Level size input input' state state' →
      Agree size input input' (run input state) (run input' state')

/-- An outcome that is no error, or an error laid to a place of the input. -/
def Laid (input : ParserInput) : Parsed α → Prop
  | done _ _ => True
  | failed error _ => input.ErrorPlace error.place

theorem Laid.elim {input : ParserInput} {parsed : Parsed α} (laid : parsed.Laid input)
    {value : α → ParserState → Parsed β} {error : ParseError → ParserState → Parsed β}
    (done : ∀ v state, (value v state).Laid input)
    (failed : ∀ e state, input.ErrorPlace e.place → (error e state).Laid input) :
    (parsed.elim value error).Laid input := by
  cases parsed with
  | done v state => exact done v state
  | failed e state => exact failed e state laid

theorem Laid.congr {input other : ParserInput} {parsed : Parsed α} (laid : parsed.Laid input)
    (lexemes : other.lexemes = input.lexemes) (gaps : other.gaps = input.gaps) :
    parsed.Laid other := by
  cases parsed with
  | done v state => trivial
  | failed e state => exact ParserInput.ErrorPlace.congr laid lexemes gaps

theorem Laid.astray {input : ParserInput} {parsed : Parsed α} (laid : parsed.Laid input) :
    parsed.astray.Laid input := by
  cases parsed <;> exact laid

/-- What becomes of an outcome that has strayed has strayed. -/
theorem strayed_elim {parsed : Parsed α} (strayed : parsed.state.strayed = true)
    {value : α → ParserState → Parsed β} {error : ParseError → ParserState → Parsed β}
    (done : ∀ v state, state.strayed = true → (value v state).state.strayed = true)
    (failed : ∀ e state, state.strayed = true → (error e state).state.strayed = true) :
    (parsed.elim value error).state.strayed = true := by
  cases parsed with
  | done v state => exact done v state strayed
  | failed e state => exact failed e state strayed

/-- Of the inputs only the bases matter. -/
theorem Agree.of_base {size : Nat} {input input' changed changed' : ParserInput}
    {first second : Parsed α} (agree : Agree size changed changed' first second)
    (left : changed.base = input.base) (right : changed'.base = input'.base) :
    Agree size input input' first second := by
  have moved {state state' : ParserState} (level : ParserState.Level size changed changed' state
      state') : ParserState.Level size input input' state state' := by
    rwa [ParserState.Level, left, right] at level
  cases agree with
  | strayed left right => exact .strayed left right
  | done level => exact .done (moved level)
  | failed level deep => exact .failed (moved level) deep

/-- What becomes of outcomes that agree agrees again. -/
theorem Agree.elim {size : Nat} {input input' : ParserInput} {first second : Parsed α}
    (agree : Agree size input input' first second)
    {value value' : α → ParserState → Parsed β} {error error' : ParseError → ParserState → Parsed β}
    (stays : ∀ v state, state.strayed = true → (value v state).state.strayed = true ∧
      (value' v state).state.strayed = true)
    (staysFailed : ∀ e state, state.strayed = true → (error e state).state.strayed = true ∧
      (error' e state).state.strayed = true)
    (done : ∀ v state state', ParserState.Level size input input' state state' →
      Agree size input input' (value v state) (value' v state'))
    (failed : ∀ e e' state state', ParserState.Level size input input' state state' →
      e.isDeep = e'.isDeep → Agree size input input' (error e state) (error' e' state')) :
    Agree size input input' (first.elim value error) (second.elim value' error') := by
  cases agree with
  | strayed left right =>
    apply Agree.strayed
    · exact strayed_elim left (fun v state strayed => (stays v state strayed).1)
        fun e state strayed => (staysFailed e state strayed).1
    · exact strayed_elim right (fun v state strayed => (stays v state strayed).2)
        fun e state strayed => (staysFailed e state strayed).2
  | done level => exact done _ _ _ level
  | failed level deep => exact failed _ _ _ _ level deep

/-- A run that looks where it stands is uniform if it agrees from inside the statement on. -/
theorem uniform_of_look {run : ParserInput → ParserState → Parsed α}
    (looks : ∀ input state, (run input state).state.strayed = (state.look input).strayed)
    (agrees : ∀ size input input', ParserInput.Alike size input input' → ∀ i ≤ size,
      Agree size input input' (run input ⟨input.base + i, false⟩)
        (run input' ⟨input'.base + i, false⟩)) : Uniform run := by
  constructor
  · intro input state strayed
    simp [looks, ParserState.look, strayed]
  · rintro size input input' alike _ _ ⟨i, bound, rfl, rfl⟩
    by_cases behind : i = size + 1
    · subst behind
      apply Agree.strayed
      · simp [looks, ParserState.look, alike.isBeyond_behind]
      · simp [looks, ParserState.look, alike.symm.isBeyond_behind]
    · exact agrees size input input' alike i (by omega)

end Parsed

/-- A parser of values of a type. -/
structure Parser (α : Type) where
  run : ParserInput → ParserState → Parsed α
  uniform : Parsed.Uniform run
  laid : ∀ input state, (run input state).Laid input

namespace Parser

open ParserInput ParserState Parsed

variable {α β : Type}

/-- The parser that reads nothing and gives a value. -/
@[inline] protected def pure (value : α) : Parser α where
  run _ state := .done value state
  uniform := ⟨fun _ _ strayed => strayed, fun _ _ _ _ _ _ level => .done level⟩
  laid _ _ := trivial

/-- One parser after another. -/
@[inline] protected def bind (first : Parser α) (next : α → Parser β) : Parser β where
  run input state := (first.run input state).elim (fun v state => (next v).run input state) .failed
  uniform := by
    constructor
    · intro input state strayed
      exact strayed_elim (first.uniform.stays input state strayed)
        (fun v state => (next v).uniform.stays input state) fun _ _ strayed => strayed
    · intro size input input' alike state state' level
      refine (first.uniform.agrees size input input' alike state state' level).elim ?_ ?_ ?_ ?_
      · exact fun v state strayed =>
          ⟨(next v).uniform.stays _ _ strayed, (next v).uniform.stays _ _ strayed⟩
      · exact fun e state strayed => ⟨strayed, strayed⟩
      · exact fun v state state' level => (next v).uniform.agrees _ _ _ alike _ _ level
      · exact fun e e' state state' level deep => .failed level deep
  laid input state :=
    (first.laid input state).elim (fun v state => (next v).laid input state) fun _ _ marks => marks

instance : Monad Parser where
  pure := Parser.pure
  bind := Parser.bind

/-- What can be told where a parser stands, from the statement alone. -/
@[inline] def observe (view : ParserInput → Nat → α)
    (same : ∀ size input input', Alike size input input' → ∀ i ≤ size,
      view input (input.base + i) = view input' (input'.base + i)) : Parser α where
  run input state := .done (view input state.position) (state.look input)
  uniform := uniform_of_look (fun _ _ => rfl) fun size input input' alike i inside => by
    simp only [look, alike.isBeyond_inside inside, alike.symm.isBeyond_inside inside,
      Bool.or_false, same size input input' alike i inside]
    exact .done ⟨i, by omega, rfl, rfl⟩
  laid _ _ := trivial

/-- What is read without regard to the end of the statement: a parser that does so has
strayed. -/
@[inline] def straying (step : ParserInput → ParserState → Parsed α)
    (laid : ∀ input state, (step input state).Laid input) : Parser α where
  run input state := (step input state).astray
  uniform := ⟨fun _ _ _ => strayed_astray _,
    fun _ _ _ _ _ _ _ => .strayed (strayed_astray _) (strayed_astray _)⟩
  laid input state := (laid input state).astray

/-- The parser that fails where it stands. The error tells places by the numbers of tokens. -/
@[inline] def fail (error : ParseError) : Parser α where
  run input state := .failed (error.relocate input.beginning input.locate) state
  uniform := by
    constructor
    · exact fun input state strayed => strayed
    · exact fun size input input' alike state state' level => .failed level (by simp)
  laid input state := by
    have kept : input.beginning Location.none = Location.none := rfl
    have moved := ParseError.place_relocate kept input.locate error
    simpa only [Parsed.Laid, moved] using input.errorPlace_beginning error.place

/-- The parser that fails where it stands, with an error that depends on the text. -/
@[inline] def failBy (error : ParserInput → Nat → ParseError)
    (shallow : ∀ input position, (error input position).isDeep = false)
    (laid : ∀ (input : ParserInput) position, input.ErrorPlace (error input position).place) :
    Parser α where
  run input state := .failed (error input state.position) state
  uniform := by
    constructor
    · exact fun input state strayed => strayed
    · exact fun size input input' alike state state' level =>
        .failed level (by rw [shallow, shallow])
  laid input state := laid input state.position

/-- Step over the next token. -/
@[inline] def advance : Parser Unit where
  run input state := .done () ⟨state.position + 1, (state.look input).strayed⟩
  uniform := uniform_of_look (fun _ _ => rfl) fun size input input' alike i inside => by
    simp only [look, alike.isBeyond_inside inside, alike.symm.isBeyond_inside inside,
      Bool.or_false, Nat.add_assoc]
    exact .done ⟨i + 1, by omega, rfl, rfl⟩
  laid _ _ := trivial

/-- Step back over the token just read. -/
@[inline] def retreat : Parser Unit where
  run input state := .done () ⟨state.position - 1, state.strayed || state.position ≤ input.base⟩
  uniform := by
    constructor
    · intro input state strayed
      simp [Parsed.state, strayed]
    · rintro size input input' alike _ _ ⟨i, bound, rfl, rfl⟩
      cases i with
      | zero => apply Agree.strayed <;> simp [Parsed.state]
      | succ i =>
        have left : ¬input.base + (i + 1) ≤ input.base := by omega
        have right : ¬input'.base + (i + 1) ≤ input'.base := by omega
        simp only [left, right, decide_false, Bool.or_false]
        exact .done ⟨i, by omega, rfl, rfl⟩
  laid _ _ := trivial

/-- The state from which a parser goes on after an error. -/
def resume (back : Bool → Bool) (error : ParseError) (start failing : ParserState) : ParserState :=
  if back error.isDeep then ⟨start.position, failing.strayed⟩ else failing

theorem strayed_resume {back : Bool → Bool} {error : ParseError} {start failing : ParserState} :
    (resume back error start failing).strayed = failing.strayed := by
  unfold resume
  split <;> rfl

/-- A parser with another one to go on with if it fails, from where it began if `back` and
else from where it failed; both are told whether the error is a deep one. The error stands if
the other parser gives nothing. -/
def recover (first : Parser α) (back : Bool → Bool) (other : Bool → Parser (Option α)) :
    Parser α where
  run input state :=
    (first.run input state).elim .done fun e failing =>
      ((other e.isDeep).run input (resume back e state failing)).elim
        (fun v after => v.elim (.failed e after) (.done · after)) .failed
  uniform := by
    have rethrown (e : ParseError) (v : Option α) (state : ParserState) :
        (v.elim (Parsed.failed e state) (.done · state)).state = state := by cases v <;> rfl
    have keeps (e : ParseError) (input : ParserInput) (state failing : ParserState)
        (strayed : failing.strayed = true) :
        (((other e.isDeep).run input
          (resume back e state failing)).elim
            (fun v after => v.elim (.failed e after) (.done · after)) .failed).state.strayed =
          true := by
      have stays := (other e.isDeep).uniform.stays input (resume back e state failing)
        (strayed_resume.trans strayed)
      exact strayed_elim stays (fun v after strayed => (rethrown e v after).symm ▸ strayed)
        fun _ _ strayed => strayed
    constructor
    · intro input state strayed
      exact strayed_elim (first.uniform.stays input state strayed) (fun _ _ strayed => strayed)
        fun e failing => keeps e input state failing
    · intro size input input' alike state state' level
      refine (first.uniform.agrees size input input' alike state state' level).elim ?_ ?_ ?_ ?_
      · exact fun v state strayed => ⟨strayed, strayed⟩
      · exact fun e failing strayed =>
          ⟨keeps e input state failing strayed, keeps e input' state' failing strayed⟩
      · exact fun v state state' level => .done level
      · intro e e' failing failing' reached deep
        rw [← deep]
        have start : Level size input input' (resume back e state failing)
            (resume back e' state' failing') := by
          obtain ⟨i, bound, rfl, rfl⟩ := level
          obtain ⟨j, bound', rfl, rfl⟩ := reached
          unfold resume
          rw [← deep]
          split
          · exact ⟨i, bound, rfl, rfl⟩
          · exact ⟨j, bound', rfl, rfl⟩
        refine ((other e.isDeep).uniform.agrees size input input' alike _ _ start).elim ?_ ?_ ?_ ?_
        · exact fun v after strayed => ⟨(rethrown e v after).symm ▸ strayed,
            (rethrown e' v after).symm ▸ strayed⟩
        · exact fun e after strayed => ⟨strayed, strayed⟩
        · intro v after after' reached
          cases v with
          | none => exact .failed reached deep
          | some v => exact .done reached
        · exact fun e e' after after' reached deep => .failed reached deep
  laid input state := by
    refine (first.laid input state).elim (fun v state => trivial) fun e failing marks => ?_
    refine ((other e.isDeep).laid input _).elim (fun v after => ?_) fun e after marks => marks
    cases v with
    | none => exact marks
    | some v => trivial

/-- A parser whose errors have words of its own put before them. -/
def reworded (parser : Parser α) (words : String) : Parser α where
  run input state := (parser.run input state).elim .done fun e state =>
    .failed (.refused (words ++ e.wording) e.place) state
  uniform := by
    constructor
    · intro input state strayed
      exact strayed_elim (parser.uniform.stays input state strayed) (fun _ _ strayed => strayed)
        fun _ _ strayed => strayed
    · intro size input input' alike state state' level
      refine (parser.uniform.agrees size input input' alike state state' level).elim ?_ ?_ ?_ ?_
      · exact fun v state strayed => ⟨strayed, strayed⟩
      · exact fun e state strayed => ⟨strayed, strayed⟩
      · exact fun v state state' level => .done level
      · exact fun e e' state state' level deep => .failed level rfl
  laid input state := (parser.laid input state).elim (fun _ _ => trivial) fun _ _ marks => marks

/-- A parser that may give nothing, and then reads nothing. -/
def someOrBack (parser : Parser (Option α)) : Parser (Option α) where
  run input state :=
    (parser.run input state).elim
      (fun v after => if v.isSome then .done v after else .done v ⟨state.position, after.strayed⟩)
      .failed
  uniform := by
    have stays (start after : ParserState) (v : Option α) (strayed : after.strayed = true) :
        (if v.isSome then Parsed.done v after
          else .done v ⟨start.position, after.strayed⟩).state.strayed = true := by
      split <;> exact strayed
    constructor
    · intro input state strayed
      exact strayed_elim (parser.uniform.stays input state strayed)
        (fun v after => stays state after v) fun _ _ strayed => strayed
    · intro size input input' alike state state' level
      refine (parser.uniform.agrees size input input' alike state state' level).elim ?_ ?_ ?_ ?_
      · exact fun v after strayed => ⟨stays state after v strayed, stays state' after v strayed⟩
      · exact fun e state strayed => ⟨strayed, strayed⟩
      · rintro v _ _ ⟨j, bound', rfl, rfl⟩
        obtain ⟨i, bound, rfl, rfl⟩ := level
        split
        · exact .done ⟨j, bound', rfl, rfl⟩
        · exact .done ⟨i, bound, rfl, rfl⟩
      · exact fun e e' state state' level deep => .failed level deep
  laid input state := by
    refine (parser.laid input state).elim (fun v after => ?_) fun e state marks => marks
    split <;> trivial

/-- A parser that is made when it is run. -/
def delay (parser : Unit → Parser α) : Parser α where
  run input state := (parser ()).run input state
  uniform := (parser ()).uniform
  laid := (parser ()).laid

/-- A parser one level of nesting further in. -/
def nested (parser : Parser α) : Parser α where
  run input state :=
    match input.depth with
    | 0 => .failed .nestedTooDeeply state
    | depth + 1 => parser.run { input with depth } state
  uniform := by
    constructor
    · intro input state strayed
      cases input.depth with
      | zero => exact strayed
      | succ depth => exact parser.uniform.stays _ state strayed
    · intro size input input' alike state state' level
      rw [← alike.depth]
      cases input.depth with
      | zero => exact .failed level rfl
      | succ depth =>
        have inner : Alike size { input with depth } { input' with depth } :=
          { alike with depth := rfl }
        exact (parser.uniform.agrees size _ _ inner state state' level).of_base rfl rfl
  laid input state := by
    cases input.depth with
    | zero => exact .none
    | succ depth => exact (parser.laid { input with depth } state).congr rfl rfl

/-- A parser in which `PRIOR` is an operator. -/
def withPrior (parser : Parser α) : Parser α where
  run input state := parser.run { input with hasPrior := true } state
  uniform := by
    constructor
    · exact fun input state strayed => parser.uniform.stays _ state strayed
    · intro size input input' alike state state' level
      have inner : Alike size { input with hasPrior := true } { input' with hasPrior := true } :=
        { alike with hasPrior := rfl }
      exact (parser.uniform.agrees size _ _ inner state state' level).of_base rfl rfl
  laid input state := (parser.laid { input with hasPrior := true } state).congr rfl rfl

/-- The grammar that is read. -/
@[inline] def grammar : Parser Grammar :=
  observe (fun input _ => input.grammar) fun _ _ _ alike _ _ => alike.grammar

/-- A bound on the rounds of a loop. -/
@[inline] def fuel : Parser Nat :=
  observe (fun input _ => input.fuel) fun _ _ _ alike _ _ => alike.fuel

/-- Whether `PRIOR` is an operator. -/
def hasPrior : Parser Bool :=
  observe (fun input _ => input.hasPrior) fun _ _ _ alike _ _ => alike.hasPrior

/-- The token `ahead` places further on; none at the end of the statement. -/
@[inline] def peekAt (ahead : Nat) : Parser (Option Lexeme) :=
  observe (fun input position => input.ahead? ahead position)
    fun _ _ _ alike _ bound => alike.ahead?_eq ahead bound

/-- The next token; none at the end of the statement. -/
@[inline] def peek : Parser (Option Lexeme) :=
  peekAt 0

/-- The place where the next token begins, told by its number. -/
def place : Parser Location :=
  observe (fun input position => Lexeme.side (position - input.base) 0)
    fun _ _ _ _ _ _ => by simp

/-- The token `ahead` places further on in the text, be it a terminator. -/
def peekOfText (ahead : Nat) : Parser (Option Lexeme) := do
  match ← peekAt ahead with
  | some found => pure (some found)
  | none =>
    straying (fun input state => .done (input.lexeme? (state.position + ahead)) state)
      fun _ _ => trivial

/-- The gaps between the token just read and the next one, be it a terminator. -/
def gaps : Parser (List Token) := do
  match ← peek with
  | some _ =>
    observe (fun input position => input.gapsInside position)
      fun _ _ _ alike _ bound => alike.gapsInside_eq bound
  | none =>
    straying (fun input state => .done ((input.gapsAt state.position).map (·.token)) state)
      fun _ _ => trivial

/-- Whether there is a gap between the token just read and the next one. -/
def hasGap : Parser Bool := do
  pure !(← gaps).isEmpty

/-- Fail with an error about the next token, be it a terminator. -/
@[inline] def failWith (error : Option PlacedToken → ParseError)
    (shallow : ∀ found, (error found).isDeep = false := by exact fun _ => rfl)
    (laid : ∀ found, (error found).LaidTo found := by exact fun
      | none => .inl rfl
      | some _ => .inr rfl) : Parser α :=
  failBy (fun input position => error (input.lexemes[position]?.map (·.placed)))
    (fun _ _ => shallow _) fun _ _ => errorPlace_of_laidTo (laid _)

/-- Fail with an error about the token just read, be it a terminator. -/
@[inline] def failOver (error : Option PlacedToken → ParseError)
    (shallow : ∀ found, (error found).isDeep = false := by exact fun _ => rfl)
    (laid : ∀ found, (error found).LaidTo found := by exact fun
      | none => .inl rfl
      | some _ => .inr rfl) : Parser α :=
  failBy (fun input position => error (input.lexemes[position - 1]?.map (·.placed)))
    (fun _ _ => shallow _) fun _ _ => errorPlace_of_laidTo (laid _)

/-- Read a terminator if it is next. -/
def terminator : Parser Bool := do
  match ← peek with
  | some _ => pure false
  | none =>
    straying (fun input state =>
      match input.lexemes[state.position]? with
      | some _ => .done true { state with position := state.position + 1 }
      | none => .done false state) fun input state => by split <;> trivial

/-- Read a terminator, which has to be next. -/
def expectTerminator : Parser Unit := do
  unless ← terminator do
    failWith (.expected ";")

/-- Fail because there is a gap behind a hyphen, where there may be none. -/
def expectedNoGap (what : String) : Parser α :=
  failBy (fun input position => .expected what (input.gapBehindHyphen? position)) (fun _ _ => rfl)
    fun input position => by
      cases behind : input.gapBehindHyphen? position with
      | none => exact .none
      | some gap => exact .gap behind

/-- The keyword that the token `ahead` places further on may be. -/
def peekKeyAt (ahead : Nat) : Parser String := do
  pure ((← peekAt ahead).elim "" (·.key))

/-- The next token, read; none at the end of the statement. -/
@[inline] def next : Parser (Option Lexeme) := do
  let token ← peek
  advance
  pure token

/-- The next token of the text, read, be it a terminator. -/
def nextOfText : Parser (Option Lexeme) := do
  let token ← peekOfText 0
  advance
  pure token

/-- Fail for want of `what`, naming a token that has just been read. -/
@[inline] def expectedAt (what : String) (found : Option Lexeme) : Parser α :=
  match found with
  | some found => fail (.expected what (some found.placed))
  | none => failOver (.expected what)

/-- Fail for want of `what`, naming the next token. -/
def expected (what : String) : Parser α :=
  failWith (.expected what)

/-- Fail with words of its own at the next token. -/
def refusedHere (text : String) : Parser α :=
  failWith fun found => .refused text (found.elim Location.none (·.first))

/-- What a parser comes to, its position kept even if it fails. -/
def attempt (parser : Parser α) : Parser (Option α) :=
  recover (do pure (some (← parser))) (fun _ => false) fun _ => pure (some none)

/-- What a parser comes to, with nothing read if it fails. -/
def attemptBack (parser : Parser α) : Parser (Option α) :=
  recover (do pure (some (← parser))) (fun _ => true) fun _ => pure (some none)

/-- A parser that may give nothing, and then reads nothing. Nesting too deeply is not
forgiven. -/
def optional (parser : Parser α) : Parser (Option α) :=
  recover (do pure (some (← parser))) (!·) fun deep => pure (if deep then none else some none)

/-- Two parsers, one after another, the second being run even if the first has failed. -/
def despite (first : Parser α) (second : Parser β) : Parser (α × β) := do
  let value ← recover first (fun _ => false) fun _ => do
    let _ ← second
    pure none
  pure (value, ← second)

/-- Whether the grammar is among those given. -/
def grammarIn (grammars : List Grammar) : Parser Bool := do
  pure (grammars.contains (← grammar))

/-- The keyword that the next token may be; the empty text for any other token. -/
def peekKey : Parser String := do
  pure ((← peek).elim "" (·.key))

/-- A test that is made under a condition only. -/
@[inline] def onlyIf (condition : Bool) (test : Parser Bool) : Parser Bool :=
  if condition then test else pure false

/-- Whether the next token is a keyword. -/
def sees (keyword : String) : Parser Bool := do
  pure ((← peekKey) == keyword)

/-- The spelling of the next token if it is a symbol. -/
def peekSymbol : Parser (Option String) := do
  match ← peek with
  | some ⟨⟨.symbol text, _, _⟩, _⟩ => pure (some text)
  | _ => pure none

/-- Whether the next token is a symbol. -/
def seesSymbol (text : String) : Parser Bool := do
  pure ((← peekSymbol) == some text)

/-- Read a keyword if it is next. -/
def keyword (word : String) : Parser Bool := do
  if ← sees word then
    advance
    pure true
  else pure false

/-- Read a keyword if it is next and the grammar, one of those given, has it there. -/
def keywordIn (grammars : List Grammar) (word : String) : Parser Bool := do
  if ← grammarIn grammars then keyword word else pure false

/-- Whether the tokens from `ahead` on pass tests, one each. -/
def seesAll (tests : List (Lexeme → Bool)) (ahead : Nat) : Parser Bool := do
  match tests with
  | [] => pure true
  | test :: tests => if (← peekAt ahead).any test then seesAll tests (ahead + 1) else pure false

/-- Read tokens that pass tests, one each, if all of them are next. -/
def readAll (tests : List (Lexeme → Bool)) : Parser Bool := do
  if ← seesAll tests 0 then
    tests.forM fun _ => advance
    pure true
  else pure false

/-- Read a sequence of keywords if all of it is next. -/
def keywords (words : List String) : Parser Bool :=
  readAll (words.map fun word lexeme => lexeme.key == word)

/-- Read one of several keywords if one is next. -/
def oneOf (words : List String) : Parser (Option String) := do
  let key ← peekKey
  if !key.isEmpty && words.contains key then
    advance
    pure (some key)
  else pure none

/-- Read a symbol if it is next. -/
def symbol (text : String) : Parser Bool := do
  if ← seesSymbol text then
    advance
    pure true
  else pure false

/-- Read a sequence of symbols if all of it is next. -/
def symbols (texts : List String) : Parser Bool :=
  readAll (texts.map fun text lexeme => lexeme.placed.token == .symbol text)

/-- Read a keyword, which has to be next. -/
def expectKeyword (word : String) : Parser Unit := do
  unless ← keyword word do expected word

/-- Read keywords, which have to be next. -/
def expectKeywords (words : List String) : Parser Unit :=
  words.forM expectKeyword

/-- Read one of several keywords, which has to be next. -/
def expectOneOf (words : List String) : Parser String := do
  match ← oneOf words with
  | some word => pure word
  | none => expected ("one of " ++ " or ".intercalate words)

/-- Read a symbol, which has to be next. -/
def expectSymbol (text : String) : Parser Unit := do
  unless ← symbol text do expected text

/-- Rounds of a parser until it gives nothing, at most `fuel` of them. -/
def gather (parser : Parser (Option α)) : Nat → Parser (List α)
  | 0 => pure []
  | fuel + 1 => do
    match ← parser with
    | none => pure []
    | some value =>
      let rest ← gather parser fuel
      pure (value :: rest)

/-- The values of a parser until it gives nothing. -/
def many (parser : Parser (Option α)) : Parser (List α) := do
  gather parser (← fuel)

/-- Whether a list may end with a separator in every place. -/
def trailingCommas : Grammar → Bool
  | .duckDb => true
  | _ => false

/-- Whether a select list may end with a separator. -/
def trailingSelectCommas : Grammar → Bool
  | .bigQuery | .duckDb | .snowflake => true
  | _ => false

/-- Read the separator of a list. The list ends without one and, if `closers` are given,
after a separator too, namely before a closing mark or one of those words. -/
def listEnds (closers : Option (List String)) : Parser Bool := do
  if !(← symbol ",") then pure true
  else
    match closers with
    | none => pure false
    | some words =>
      match ← peek with
      | none => pure true
      | some ⟨⟨.symbol text, _, _⟩, _⟩ => pure ([")", "]", "\x7d"].contains text)
      | some found => pure (words.contains found.key)

/-- The items of a list with separators, at least one. -/
def separatedBy (closers : Option (List String)) (parser : Parser α) : Parser (List α) := do
  let rec loop : Nat → Parser (List α)
    | 0 => pure []
    | fuel + 1 => do
      let value ← parser
      if ← listEnds closers then pure [value]
      else
        let rest ← loop fuel
        pure (value :: rest)
  loop (← fuel)

/-- The words before which a list may end with a separator, in a grammar that allows
one. -/
def closers (grammar : Grammar) : Option (List String) :=
  if trailingCommas grammar then some Keyword.notColumnAlias else none

/-- The items of a list with separators, under the rule of the grammar for its end. -/
def separated (parser : Parser α) : Parser (List α) := do
  separatedBy (closers (← grammar)) parser

/-- The items of a list with separators, none if the closing mark is next. -/
def separatedOrNone (parser : Parser α) (close : String) : Parser (List α) := do
  if ← seesSymbol close then pure []
  else if trailingCommas (← grammar) && (← symbols [",", close]) then
    retreat
    pure []
  else separated parser

/-- What follows keywords, if they are next. -/
def after? (words : List String) (parser : Parser α) : Parser (Option α) := do
  if ← keywords words then pure (some (← parser)) else pure none

/-- A clause that keywords begin, with a blank before it; nothing if it is missing. -/
def clause (words : List String) (body : Parser String) : Parser String := do
  if ← keywords words then
    pure (" " ++ " ".intercalate words ++ " " ++ (← body))
  else pure ""

/-- A parser between parentheses. -/
def parenthesized (parser : Parser α) : Parser α := do
  expectSymbol "("
  let value ← parser
  expectSymbol ")"
  pure value

end Parser

end TableCatalog
