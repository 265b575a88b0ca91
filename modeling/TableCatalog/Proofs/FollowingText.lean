import TableCatalog.Proofs.Alone
import TableCatalog.Proofs.NextLine
import TableCatalog.Proofs.OpenType

/-!
# The text behind a statement

What follows a statement behind its terminator has no part in the definition that the statement
is read as. It shows in the types of columns, which are quoted from the text: exactly where a
type does not end inside the statement, since a quote or a bracket is taken to be open there.
-/

namespace TableCatalog

open Token PartitionClause

variable {grammar : Grammar} {database : Database} {text : List Char}
  {run tokens : List PlacedToken} {statement : Statement}

namespace Location

/-- A place in a text is a place in any longer one. -/
theorem rest?_append {place : Location} {rest : List Char} (found : place.rest? text = some rest)
    (more : List Char) : place.rest? (text ++ more) = some (rest ++ more) := by
  obtain ⟨front, rfl, standing⟩ := exists_before found
  rw [List.append_assoc]
  exact standing (rest ++ more)

/-- A place in a text, or no place at all. -/
def Inside (text : List Char) (place : Location) : Prop :=
  place = none ∨ (place.rest? text).isSome = true

theorem Inside.rest?_append {place : Location} (inside : Inside text place) (more : List Char) :
    place.rest? (text ++ more) = (place.rest? text).map (· ++ more) := by
  rcases inside with rfl | found
  · rfl
  · obtain ⟨rest, found⟩ := Option.isSome_iff_exists.1 found
    rw [Location.rest?_append found, found, Option.map_some]

end Location

/-- A token with both of its sides in a text. -/
def PlacedToken.Inside (text : List Char) (placed : PlacedToken) : Prop :=
  Location.Inside text placed.first ∧ Location.Inside text placed.past

namespace Lexer

/-- Tokens with their spellings stand in the text that they are read from. -/
theorem inside_placed (lexemes : List (Token × List Char)) (front : List Char) :
    ∀ token ∈ placed (Location.start.after front) lexemes,
      token.Inside (front ++ spelled lexemes) := by
  induction lexemes generalizing front with
  | nil => simp [placed]
  | cons lexeme lexemes ih =>
    obtain ⟨token, run⟩ := lexeme
    have whole :
        front ++ spelled ((token, run) :: lexemes) = (front ++ run) ++ spelled lexemes := by
      simp [spelled]
    have behind := ih (front ++ run)
    rw [Location.after_append] at behind
    intro found member
    rcases List.mem_cons.1 member with rfl | later
    · refine ⟨.inr ?_, .inr ?_⟩
      · rw [Location.rest?_after]
        rfl
      · rw [whole, ← Location.after_append, Location.rest?_after]
        rfl
    · rw [whole]
      exact behind found later

end Lexer

/-- The tokens of a text stand in it. -/
theorem Token.inside_of_scan (scanned : Token.scan grammar text = .ok tokens) :
    ∀ placed ∈ tokens, placed.Inside text := by
  obtain ⟨place, reads⟩ := reads_of_scan scanned
  obtain ⟨lexemes, rfl, whole, -, -⟩ := reads.settled
  have whole : text = Lexer.spelled lexemes := by simpa [Cursor.ofText] using whole
  have all := Lexer.inside_placed lexemes []
  rw [List.nil_append, ← whole] at all
  exact all

namespace ParserInput

/-- A place that is told by the number of a token of a run is a side of that token. -/
theorem inside_locateIn (inside : ∀ placed ∈ run, placed.Inside text) (grammar : Grammar)
    (count : Nat) (place : Location) :
    Location.Inside text ((ofTokens grammar run).locateIn count place) := by
  unfold locateIn
  split
  swap
  · exact .inl rfl
  unfold locate
  split
  · exact .inl rfl
  · split
    · rename_i lexeme found
      have member : lexeme ∈ lexemesOf run := by
        simp only [ofTokens, List.getElem?_toArray] at found
        exact List.mem_of_getElem? found
      obtain ⟨first, past⟩ := inside _ (mem_of_mem_lexemesOf member)
      split
      · exact first
      · exact past
    · exact .inl rfl

end ParserInput

namespace Statement

/-- The names of columns stand in the text that the definition is read from. -/
theorem inside_of_ofRun? {definition : TableDefinition}
    (inside : ∀ placed ∈ run, placed.Inside text)
    (read : ofRun? grammar run = some (.createTable definition)) (database : Database) :
    ∀ column ∈ Table.reported database definition, Location.Inside text column.name.past := by
  obtain ⟨statement, -, shape⟩ := Option.map_eq_some_iff.1 read
  cases statement with
  | dropTable | explanation | other => cases shape
  | createTable begun =>
    obtain rfl := Statement.createTable.inj shape
    have placed (columns : List ColumnDefinition) :
        ∀ column ∈ columns.map (·.relocate ((ParserInput.ofTokens grammar run).locateIn
          (ParserInput.lexemesOf run).length)), Location.Inside text column.name.past := by
      intro column member
      obtain ⟨other, -, rfl⟩ := List.mem_map.1 member
      exact ParserInput.inside_locateIn inside grammar _ _
    intro column member
    rcases List.mem_append.1 member with declared | partition
    · exact placed begun.columns column declared
    · split at partition
      · cases parts : begun.partitions with
        | none => simp [TableDefinition.relocate, parts] at partition
        | some partitions =>
          simp only [TableDefinition.relocate, parts, Option.map_some, Option.getD_some]
            at partition
          exact placed partitions column partition
      · simp at partition

end Statement

namespace Column

/-- Whether the type of a column goes on behind a text. -/
def isOpen (text : List Char) (definition : ColumnDefinition) : Bool :=
  (definition.name.past.rest? text).any DeclaredType.isOpenAt

/-- A terminator on the next line leaves exactly the types that end. -/
theorem type_append_iff {definition : ColumnDefinition}
    (inside : Location.Inside text definition.name.past) (more : List Char) :
    (ofDefinition (text ++ '\n' :: ';' :: more) definition).type =
        (ofDefinition text definition).type ↔
      isOpen text definition = false := by
  have behind := inside.rest?_append ('\n' :: ';' :: more)
  unfold ofDefinition ofParts isOpen declaredType?
  cases found : definition.name.past.rest? text with
  | none => simp [behind, found]
  | some rest =>
    rw [found, Option.map_some] at behind
    simp only [behind, Option.any_some]
    cases opened : DeclaredType.isOpenAt rest with
    | false => simp [DeclaredType.ofText_append_of_closed opened]
    | true =>
      have longer := DeclaredType.length_ofText_append_of_open opened more
      have begun := DeclaredType.ofText_ne_nil opened
      cases first : DeclaredType.ofText rest with
      | nil => exact absurd first begun
      | cons c type =>
        cases second : DeclaredType.ofText (rest ++ '\n' :: ';' :: more) with
        | nil => simp [second] at longer
        | cons d goesOn =>
          have differs : d :: goesOn ≠ c :: type := by
            intro same
            simp [first, second, same] at longer
          have types : String.ofList (d :: goesOn) ≠ String.ofList (c :: type) :=
            fun same => differs (String.ofList_injective same)
          simp only [Option.getD_some, types, reduceCtorEq]

end Column

namespace Table

/-- A terminator on the next line leaves a table as it is exactly if all of its types end. -/
theorem ofDefinition_append_iff {definition : TableDefinition}
    (inside : ∀ column ∈ reported database definition, Location.Inside text column.name.past)
    (more : List Char) :
    ofDefinition (text ++ '\n' :: ';' :: more) database definition =
        ofDefinition text database definition ↔
      ∀ column ∈ reported database definition, Column.isOpen text column = false := by
  rw [ofDefinition_eq_iff]
  exact forall₂_congr fun column member => Column.type_append_iff (inside column member) more

end Table

namespace Catalog

/-- A text and another one with a terminator between them: the tokens of the first, up to gaps
at their end, stand before the terminator. -/
theorem exists_followed {first more : List Char}
    (scanned : Token.scan grammar first = .ok tokens)
    (solid : ∀ final, tokens.getLast? = some final → Lexer.takesLine grammar final.token = false)
    {all : List PlacedToken} (whole : Token.scan grammar (first ++ '\n' :: ';' :: more) = .ok all) :
    ∃ core run terminator rest, Framed core tokens ∧ Framed core run ∧
      terminator.token = .semicolon ∧ all = run ++ terminator :: rest := by
  obtain ⟨core, run, framed, framed', reads⟩ := exists_nextLine scanned solid more
  obtain ⟨place, readsAll⟩ := reads_of_scan whole
  obtain ⟨others, rfl, goesOn⟩ := reads.exists_rest readsAll rfl
  cases goesOn with
  | step found later =>
    obtain ⟨rfl, -⟩ := Prod.mk.inj (Except.ok.inj (found.symm.trans (Lexer.next_terminator ..)))
    exact ⟨core, run, _, _, framed, framed', rfl, rfl⟩

/-- The first statement of a script is defined alike whether or not the script goes on behind
its terminator; its table is the same exactly if none of its types is open at its end. -/
theorem firstTable_followed {first second : String} {table table' : Table}
    (scanned : Token.scan database.grammar first.toList = .ok tokens)
    (unterminated : ∀ placed ∈ tokens, placed.token ≠ .semicolon)
    (alone : firstTable first database = .ok table)
    (followed : firstTable (first ++ "\n;\n" ++ second) database = .ok table')
    (contained : Script.isContained database.grammar tokens = true)
    (solid : ∀ final, tokens.getLast? = some final →
      Lexer.takesLine database.grammar final.token = false)
    (agrees : Script.Agrees (first ++ "\n;\n" ++ second).toList database tokens) :
    ∃ definition, table = Table.ofDefinition first.toList database definition ∧
      table' = Table.ofDefinition (first ++ "\n;\n" ++ second).toList database definition ∧
      (table' = table ↔
        ∀ column ∈ Table.reported database definition,
          Column.isOpen first.toList column = false) := by
  have shape : (first ++ "\n;\n" ++ second).toList =
      first.toList ++ '\n' :: ';' :: ('\n' :: second.toList) := by
    simp [String.toList_append]
  obtain ⟨definition, others, readAlone, rfl⟩ := exists_definition_of_firstTable alone
  obtain ⟨definition', others', readWhole, rfl⟩ := exists_definition_of_firstTable followed
  rw [Script.ofText_of_scan scanned] at readAlone
  have content : hasContent tokens = true := by
    cases content : hasContent tokens with
    | true => rfl
    | false => cases (Script.ofTokens_blank _ content).symm.trans readAlone
  -- Alone, the statement is read as it stands or without its clauses.
  obtain ⟨statement, found, single⟩ :=
    (Script.ofTokens_run_eq_ok_iff unterminated content contained _).1 readAlone
  obtain ⟨rfl, -⟩ := List.cons.inj single
  -- Before a terminator it is read in one of these two ways too.
  have again : Statement.ofRun? database.grammar tokens = some (.createTable definition') ∨
      Statement.ofRun? database.grammar (kept State.initial tokens) =
        some (.createTable definition') := by
    cases whole : Token.scan database.grammar (first ++ "\n;\n" ++ second).toList with
    | error fault => cases (Script.ofText_of_fault whole).symm.trans readWhole
    | ok all =>
      rw [Script.ofText_of_scan whole] at readWhole
      rw [shape] at whole
      obtain ⟨core, run, terminator, rest, framed, framed', terminates, rfl⟩ :=
        exists_followed scanned solid whole
      have stands := Script.standsFor_of_framed framed framed' unterminated content contained
      obtain ⟨statement', others'', begins, read⟩ := Script.exists_cons_of_ofTokens
        stands.unterminated stands.content terminates stands.contained readWhole
      obtain ⟨rfl, -⟩ := List.cons.inj begins
      rwa [stands.whole, stands.part] at read
  -- Both ways give the same table, also where they differ in the definition.
  have same : Script.table? (first ++ "\n;\n" ++ second).toList database tokens =
      some (Table.ofDefinition (first ++ "\n;\n" ++ second).toList database definition') := by
    rcases again with whole | part
    · rw [Script.table?, Script.statement?, whole, Option.some_or]
      rfl
    · exact agrees.table?_eq part
  rw [Script.table?, found] at same
  have inside : ∀ column ∈ Table.reported database definition,
      Location.Inside first.toList column.name.past := by
    have stands := Token.inside_of_scan scanned
    rcases Option.or_eq_some_iff.1 found with whole | ⟨-, part⟩
    · exact Statement.inside_of_ofRun? stands whole database
    · exact Statement.inside_of_ofRun?
        (fun placed member => stands placed ((kept_sublist _ _).subset member)) part database
  rw [← Option.some.inj same]
  refine ⟨definition, rfl, rfl, ?_⟩
  rw [shape]
  exact Table.ofDefinition_append_iff inside _

/-- A table that is read without its clause, before another statement. -/
theorem firstTable_followed_partitioned :
    let first := "CREATE TABLE a (b ENUM('c,''d') COMMENT 'e', f DECIMAL(1, 2)) PARTITION BY HASH (b)"
    let second := "DROP TABLE a"
    ∃ tokens table table',
      Token.scan Database.mysql.grammar first.toList = .ok tokens ∧
        (∀ placed ∈ tokens, placed.token ≠ .semicolon) ∧
        firstTable first .mysql = .ok table ∧
        firstTable (first ++ "\n;\n" ++ second) .mysql = .ok table' ∧
        Script.isContained Database.mysql.grammar tokens = true ∧
        (∀ final, tokens.getLast? = some final →
          Lexer.takesLine Database.mysql.grammar final.token = false) ∧
        Script.Agrees (first ++ "\n;\n" ++ second).toList .mysql tokens ∧
        ∃ definition, table = Table.ofDefinition first.toList .mysql definition ∧
          table' = Table.ofDefinition (first ++ "\n;\n" ++ second).toList .mysql definition ∧
          (table' = table ↔
            ∀ column ∈ Table.reported .mysql definition,
              Column.isOpen first.toList column = false) := by
  intro first second
  have tests : (Token.scan Database.mysql.grammar first.toList).toOption.any (fun tokens =>
      tokens.all (·.token != .semicolon) && Script.isContained Database.mysql.grammar tokens &&
        (tokens.getLast?.all fun final =>
          !Lexer.takesLine Database.mysql.grammar final.token) &&
        decide (Script.Agrees (first ++ "\n;\n" ++ second).toList .mysql tokens)) = true := by
    decide +kernel
  have alone : (firstTable first .mysql).isOk = true := by decide +kernel
  have followed : (firstTable (first ++ "\n;\n" ++ second) .mysql).isOk = true := by decide +kernel
  obtain ⟨tokens, scanned, tests⟩ := exists_ok_of_any tests
  obtain ⟨table, alone⟩ := exists_ok_of_isOk alone
  obtain ⟨table', followed⟩ := exists_ok_of_isOk followed
  simp only [Bool.and_eq_true, List.all_eq_true, bne_iff_ne, decide_eq_true_eq] at tests
  obtain ⟨⟨⟨unterminated, contained⟩, last⟩, agrees⟩ := tests
  have solid : ∀ final, tokens.getLast? = some final →
      Lexer.takesLine Database.mysql.grammar final.token = false := by
    intro final found
    simpa [found] using last
  exact ⟨tokens, table, table', scanned, unterminated, alone, followed, contained, solid, agrees,
    firstTable_followed scanned unterminated alone followed contained solid agrees⟩

/-- A quote behind a backslash is taken to end quoted text, and the next one to open another
one. So the type goes on behind the statement. -/
theorem escaped_quote_opens_type :
    let first := "CREATE TABLE a (b ENUM('c\\'d'))"
    let second := "DROP TABLE a"
    ∃ tokens table table',
      Token.scan Database.mysql.grammar first.toList = .ok tokens ∧
        (∀ placed ∈ tokens, placed.token ≠ .semicolon) ∧
        firstTable first .mysql = .ok table ∧
        firstTable (first ++ "\n;\n" ++ second) .mysql = .ok table' ∧ table' ≠ table := by
  intro first second
  have plain : (Token.scan Database.mysql.grammar first.toList).toOption.any (fun tokens =>
      tokens.all (·.token != .semicolon)) = true := by
    decide +kernel
  have alone : firstTable first .mysql =
      .ok ⟨"a", .mysql, [⟨"b", "ENUM('c\\'d'))", none, false⟩], []⟩ := by
    decide +kernel
  have followed : firstTable (first ++ "\n;\n" ++ second) .mysql =
      .ok ⟨"a", .mysql, [⟨"b", "ENUM('c\\'d'))\n;\nDROP TABLE a", none, false⟩], []⟩ := by
    decide +kernel
  obtain ⟨tokens, scanned, plain⟩ := exists_ok_of_any plain
  exact ⟨tokens, _, _, scanned, by simpa using plain, alone, followed, by decide⟩

end Catalog

end TableCatalog
