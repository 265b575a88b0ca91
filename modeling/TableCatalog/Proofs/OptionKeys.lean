import TableCatalog.Proofs.BlankScript

/-!
# The words that options begin with

Of the words that may follow the type of a column, its grammar lets only some begin an option or
a collation. Before any other token the parsers of options give nothing and read nothing.
-/

namespace TableCatalog

namespace Parser

variable {α β : Type}

/-- Parsers that give the same on every input are one parser. -/
theorem ext_run {first second : Parser α}
    (same : ∀ input state, first.run input state = second.run input state) : first = second := by
  cases first
  cases second
  congr
  funext input state
  exact same input state

instance : LawfulMonad Parser := LawfulMonad.mk' Parser
  (fun parser => ext_run fun input state => by
    change (parser.run input state).elim _ _ = _
    cases parser.run input state <;> rfl)
  (fun _ _ => rfl)
  (fun parser _ _ => ext_run fun input state => by
    simp only [run_bind]
    cases parser.run input state <;> rfl)

variable {input : ParserInput} {position : Nat} {word : String}

/-- A parser gives a value where it stands and reads nothing. -/
def Idle (input : ParserInput) (position : Nat) (parser : Parser α) (value : α) : Prop :=
  ∀ strayed, ∃ strayed', parser.run input ⟨position, strayed⟩ = .done value ⟨position, strayed'⟩

/-- The keyword that the token at a position may be; the empty text for any other token. -/
def keyAt (input : ParserInput) (position : Nat) : String :=
  (input.ahead? 0 position).elim "" (·.key)

theorem idle_pure (value : α) : Idle input position (pure value) value :=
  fun strayed => ⟨strayed, rfl⟩

/-- What reads nothing in both of its steps reads nothing. -/
theorem Idle.bind {first : Parser α} {next : α → Parser β} {value : α} {result : β}
    (idle : Idle input position first value) (later : Idle input position (next value) result) :
    Idle input position (first >>= next) result := by
  intro strayed
  obtain ⟨strayed', here⟩ := idle strayed
  obtain ⟨strayed'', there⟩ := later strayed'
  exact ⟨strayed'', by rw [run_bind, here]; exact there⟩

/-- A parser goes on with its other branch where a test fails and reads nothing. -/
theorem Idle.otherwise {test : Parser Bool} {first other : Parser α} {value : α}
    (idle : Idle input position test false) (later : Idle input position other value) :
    Idle input position (test >>= fun found => if found = true then first else other) value :=
  idle.bind (by simpa using later)

theorem idle_grammar : Idle input position grammar input.grammar :=
  fun _ => ⟨_, rfl⟩

theorem idle_grammarIn (grammars : List Grammar) :
    Idle input position (grammarIn grammars) (grammars.contains input.grammar) :=
  fun _ => ⟨_, rfl⟩

theorem idle_fuel : Idle input position fuel input.fuel :=
  fun _ => ⟨_, rfl⟩

/-- To look ahead reads nothing, however far. -/
theorem idle_peekAt (ahead : Nat) :
    Idle input position (peekAt ahead) (input.ahead? ahead position) :=
  fun _ => ⟨_, rfl⟩

/-- To look for a word reads nothing, whether it is there or not. -/
theorem idle_sees (word : String) :
    Idle input position (sees word) (keyAt input position == word) :=
  fun _ => ⟨_, rfl⟩

/-- A keyword that is not next is not read. -/
theorem idle_keyword (other : keyAt input position ≠ word) :
    Idle input position (keyword word) false := by
  refine (idle_sees word).bind ?_
  rw [beq_false_of_ne other]
  exact idle_pure false

/-- Several keywords are not read if the first of them is not next. -/
theorem idle_keywords (other : keyAt input position ≠ word) (words : List String) :
    Idle input position (keywords (word :: words)) false := by
  intro strayed
  refine ⟨_, run_keywords_other words ⟨position, strayed⟩ ?_⟩
  unfold keyAt at other
  cases found : input.ahead? 0 position with
  | none => rfl
  | some lexeme => simpa [found] using other

/-- A test that applies under a condition fails without reading if it does wherever it applies. -/
theorem idle_onlyIf {condition : Bool} {test : Parser Bool}
    (idle : condition = true → Idle input position test false) :
    Idle input position (onlyIf condition test) false := by
  unfold onlyIf
  split
  · exact idle ‹_›
  · exact idle_pure false

end Parser

namespace ColumnDefinition

variable {input : ParserInput} {position : Nat} {word : String}

/-- The words that begin an option or a collation in every grammar, in upper case. -/
def commonKeys : List String :=
  ["AS", "ASC", "AUTOINCREMENT", "AUTO_INCREMENT", "CHARACTER", "CHECK", "COLLATE", "COMMENT",
    "CONSTRAINT", "DEFAULT", "DESC", "GENERATED", "IDENTITY", "NOT", "NULL", "ON", "PRIMARY",
    "REFERENCES", "UNIQUE"]

/-- The words that do so in some grammars only. -/
def furtherKeys (grammar : Grammar) : List String :=
  match grammar with
  | .clickHouse => ["ALIAS", "EPHEMERAL", "MATERIALIZED"]
  | .bigQuery => ["OPTIONS"]
  | .generic => ["ALIAS", "EPHEMERAL", "MATERIALIZED", "OPTIONS"]
  | .snowflake => ["MASKING", "PROJECTION", "TAG", "WITH"]
  | _ => []

/-- The words that begin an option or a collation. -/
def optionKeys (grammar : Grammar) : List String :=
  commonKeys ++ furtherKeys grammar

/-- No option of a column begins at a position. -/
def Optionless (input : ParserInput) (position : Nat) : Prop :=
  Parser.keyAt input position ∉ optionKeys input.grammar

/-- Where no option begins, none of the words is next that begin one in every grammar. -/
theorem Optionless.ne_common (optionless : Optionless input position) (listed : word ∈ commonKeys) :
    Parser.keyAt input position ≠ word := by
  rintro rfl
  exact optionless (List.mem_append_left _ listed)

/-- Nor is one of the words next that begin one in this grammar. -/
theorem Optionless.ne_further (optionless : Optionless input position)
    (listed : word ∈ furtherKeys input.grammar) : Parser.keyAt input position ≠ word := by
  rintro rfl
  exact optionless (List.mem_append_right _ listed)

variable (inner : Phrases)

/-- Before a word that begins no option, the options of one word are not read. -/
theorem idle_wordOption? (optionless : Optionless input position) :
    Parser.Idle input position (wordOption? inner) none := by
  have other {word : String} (listed : word ∈ commonKeys) := optionless.ne_common listed
  have marked {word : String} (listed : word ∈ commonKeys) (words : List String) (test : Bool) :
      Parser.Idle input position (do pure ((← Parser.keywords (word :: words)) && test)) false :=
    (Parser.idle_keywords (other listed) words).bind (Parser.idle_pure _)
  unfold wordOption?
  refine Parser.idle_grammar.bind ?_
  dsimp only
  refine .otherwise (marked (by decide) _ _) ?_
  refine .otherwise (marked (by decide) _ _) ?_
  refine .otherwise (marked (by decide) _ _) ?_
  refine .otherwise (marked (by decide) _ _) ?_
  refine .otherwise (marked (by decide) _ _) ?_
  refine .otherwise (Parser.idle_keyword (other (by decide))) ?_
  -- Only some grammars have OPTIONS, so that the word may well come next in the others.
  refine (Parser.idle_sees "OPTIONS").bind ?_
  rw [if_neg]
  · refine .otherwise (marked (by decide) _ _) ?_
    refine .otherwise (marked (by decide) _ _) ?_
    refine .otherwise (Parser.idle_onlyIf fun _ => Parser.idle_keywords (other (by decide)) _) ?_
    exact Parser.idle_pure none
  · rw [Bool.and_eq_true, beq_iff_eq]
    rintro ⟨grammars, same⟩
    refine optionless.ne_further ?_ same
    revert grammars
    cases input.grammar <;> decide

/-- The options that only Snowflake has are not read either. -/
theorem idle_snowflakeOption? (optionless : Optionless input position)
    (language : input.grammar = .snowflake) :
    Parser.Idle input position snowflakeOption? none := by
  have other {word : String} (listed : word ∈ commonKeys) := optionless.ne_common listed
  have further {word : String} (listed : word ∈ furtherKeys .snowflake) :
      Parser.keyAt input position ≠ word :=
    optionless.ne_further (language ▸ listed)
  unfold snowflakeOption?
  refine (Parser.idle_sees "WITH").bind ?_
  rw [beq_false_of_ne (further (by decide))]
  refine (Parser.idle_peekAt 0).bind ?_
  refine (Parser.idle_peekAt 1).bind ?_
  dsimp only
  split
  case h_1 same | h_2 same => exact absurd same (other (by decide))
  case h_3 same _ | h_4 same _ | h_5 same => exact absurd same (further (by decide))
  case h_6 => exact Parser.idle_pure none

/-- Before a word that begins no option, there is no option. -/
theorem idle_option? (optionless : Optionless input position) :
    Parser.Idle input position (option? inner) none := by
  have other {word : String} (listed : word ∈ commonKeys) := optionless.ne_common listed
  have clickHouse {word : String} (listed : word ∈ furtherKeys .clickHouse)
      (grammars : (input.grammar == .clickHouse || input.grammar == .generic) = true) :
      Parser.keyAt input position ≠ word := by
    refine optionless.ne_further ?_
    have known : input.grammar = .clickHouse ∨ input.grammar = .generic := by simpa using grammars
    rcases known with same | same <;> rw [same]
    · exact listed
    · exact List.mem_append_left ["OPTIONS"] listed
  unfold option?
  refine Parser.idle_grammar.bind ?_
  by_cases language : (input.grammar == .snowflake) = true
  case' pos =>
    rw [if_pos language]
    refine (idle_snowflakeOption? optionless (by simpa using language)).bind ?_
  case' neg =>
    rw [if_neg language]
    refine (Parser.idle_pure none).bind ?_
  all_goals
    refine .otherwise (Parser.idle_keywords (other (by decide)) _) ?_
    refine .otherwise (Parser.idle_keywords (other (by decide)) _) ?_
    refine .otherwise (Parser.idle_keyword (other (by decide))) ?_
    refine .otherwise (Parser.idle_keyword (other (by decide))) ?_
    refine .otherwise (Parser.idle_keyword (other (by decide))) ?_
    refine .otherwise (Parser.idle_onlyIf fun has =>
      Parser.idle_keyword (clickHouse (by decide) has)) ?_
    refine .otherwise (Parser.idle_onlyIf fun has =>
      Parser.idle_keyword (clickHouse (by decide) has)) ?_
    refine .otherwise (Parser.idle_onlyIf fun has =>
      Parser.idle_keyword (clickHouse (by decide) has)) ?_
    refine .otherwise (Parser.idle_keywords (other (by decide)) _) ?_
    refine .otherwise (Parser.idle_keyword (other (by decide))) ?_
    refine .otherwise (Parser.idle_keyword (other (by decide))) ?_
    refine .otherwise (Parser.idle_keyword (other (by decide))) ?_
    exact idle_wordOption? inner optionless

/-- Before a word that begins no option, the options of a column are at their end. -/
theorem idle_optionsOf (optionless : Optionless input position) (collates : Bool) (fuel : Nat)
    (collation : Option ObjectName) :
    Parser.Idle input position (optionsOf inner collates fuel collation) ([], collation) := by
  have other {word : String} (listed : word ∈ commonKeys) := optionless.ne_common listed
  cases fuel with
  | zero => exact Parser.idle_pure _
  | succ fuel =>
    unfold optionsOf
    refine .otherwise (Parser.idle_keyword (other (by decide))) ?_
    refine (idle_option? inner optionless).bind ?_
    refine .otherwise (Parser.idle_onlyIf fun _ => Parser.idle_keyword (other (by decide))) ?_
    exact Parser.idle_pure _

/-- What a definition says of a column behind its name: its type, if it has one. -/
def typeOf : Parser DataType := do
  if ← lacksType then pure .unspecified else DataType.parserOf inner.column

/-- What a definition says of a column behind its type: collation and options. -/
def further : Parser (List NamedOption × Option ObjectName) := do
  let collation ←
    if ← Parser.keyword "COLLATE" then pure (some (← ObjectName.parser)) else pure none
  let collates ← Parser.grammarIn [.mysql, .snowflake, .generic]
  optionsOf inner collates (← Parser.fuel) collation

/-- Behind the type nothing is read, if a word comes next that begins neither collation nor
option. -/
theorem idle_further (optionless : Optionless input position) :
    Parser.Idle input position (further inner) ([], none) := by
  have other {word : String} (listed : word ∈ commonKeys) := optionless.ne_common listed
  unfold further
  refine .otherwise (Parser.idle_keyword (other (by decide))) ?_
  refine (Parser.idle_pure none).bind ?_
  refine (Parser.idle_grammarIn _).bind ?_
  exact Parser.idle_fuel.bind (idle_optionsOf inner optionless _ _ _)

/-- A definition is a name, a type and what else is said of the column. -/
theorem parser_eq : parser inner = (do
    let name ← Identifier.parser
    let type ← typeOf inner
    let said ← further inner
    pure ⟨name, type, said.2, said.1⟩) := by
  have branch {α β : Type} (found : Bool) (first other : Parser α) (next : α → Parser β) :
      (if found = true then first else other) >>= next =
        if found = true then first >>= next else other >>= next := by
    cases found <;> rfl
  simp only [parser, typeOf, further, bind_assoc, branch, pure_bind]

/-- What is said of a column behind its type begins with one of the words for that. -/
theorem mem_optionKeys {start middle finish : ParserState} {name : Identifier} {named : ParserState}
    {type : DataType} {column : ColumnDefinition}
    (nameRead : Identifier.parser.run input start = .done name named)
    (typeRead : (typeOf inner).run input named = .done type middle)
    (read : (parser inner).run input start = .done column finish)
    (goesOn : finish.position ≠ middle.position) :
    Parser.keyAt input middle.position ∈ optionKeys input.grammar := by
  by_contra optionless
  obtain ⟨strayed, idle⟩ := idle_further inner optionless middle.strayed
  rw [parser_eq] at read
  simp only [Parser.run_bind, nameRead, typeRead, Parsed.elim, idle, Parser.run_pure,
    Parsed.done.injEq] at read
  exact goesOn (read.2 ▸ rfl)

end ColumnDefinition

end TableCatalog
