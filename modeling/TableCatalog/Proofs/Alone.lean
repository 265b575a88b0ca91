import TableCatalog.Proofs.Clauses
import TableCatalog.Proofs.Moved

/-!
# A statement for itself

A run that is contained with its partition clauses and without them makes up one statement or
none. Gaps around it change nothing, and in another text it defines the same table.
-/

namespace TableCatalog

open ParserInput PartitionClause

variable {grammar : Grammar} {database : Database} {text text' : List Char}
  {core run run' front back tokens : List PlacedToken} {state : State}

open Token

namespace PartitionClause

/-- What follows a statement is kept from its terminator on. -/
theorem ends_kept_terminator {terminator : PlacedToken} (terminates : terminator.token = .semicolon)
    (state : State) (rest : List PlacedToken) : Ends (kept state (terminator :: rest)) := by
  by_cases closed : state.depth = 0
  · rw [kept_terminator_closed terminates closed]
    exact ends_terminator terminates _
  · rw [kept_terminator_open terminates closed]
    split
    · rename_i dropping
      rcases kept_dropping_cases dropping rest with nothing | ⟨later, others, shape, terminates⟩
      · rw [nothing]
        exact ends_nil
      · rw [shape]
        exact ends_terminator terminates others
    · exact ends_terminator terminates _

/-- Gaps at the beginning are kept. -/
theorem kept_blank_append (keeping : state.dropping = false) (blank : hasContent front = false)
    (run : List PlacedToken) : kept state (front ++ run) = front ++ kept state run := by
  induction front with
  | nil => rfl
  | cons placed front ih =>
    obtain ⟨gap, blank⟩ : placed.token.isGap = true ∧ hasContent front = false := by
      simpa [hasContent] using blank
    simp only [List.cons_append, kept, enter_gap gap, keeping, ih blank, Bool.false_eq_true,
      if_false]

theorem leadsWith_append_blank (keyword : String) (run : List PlacedToken)
    (blank : hasContent back = false) :
    leadsWith keyword (run ++ back) = leadsWith keyword run := by
  have nothing : back.find? (fun placed => !placed.token.isGap) = none :=
    List.find?_eq_none.2 (List.any_eq_false.1 blank)
  rw [leadsWith, List.find?_append, nothing, Option.or_none]
  rfl

/-- Gaps at the end are kept or not; what is kept before them is the same. -/
theorem kept_append_blank (state : State) (run : List PlacedToken)
    (blank : hasContent back = false) :
    ∃ left, hasContent left = false ∧ kept state (run ++ back) = kept state run ++ left := by
  induction run generalizing state with
  | nil =>
    refine ⟨kept state back, ?_, rfl⟩
    rw [hasContent, List.any_eq_false] at blank ⊢
    exact fun placed member => blank placed ((kept_sublist state back).subset member)
  | cons placed run ih =>
    have same : state.enter placed.token (run ++ back) = state.enter placed.token run := by
      unfold State.enter
      rw [leadsWith_append_blank "BY" run blank]
    obtain ⟨left, blank, later⟩ := ih (state.enter placed.token run)
    refine ⟨left, blank, ?_⟩
    simp only [List.cons_append, kept, same, later]
    split <;> rfl

/-- What is kept of a run with gaps around it. -/
theorem framed_kept (framed : Framed core run) :
    Framed (kept State.initial core) (kept State.initial run) := by
  obtain ⟨front, back, before, behind⟩ := framed
  obtain ⟨left, blank, later⟩ := kept_append_blank State.initial core behind
  rw [List.append_assoc, kept_blank_append rfl before, later, ← List.append_assoc]
  exact .intro front left before blank

end PartitionClause

namespace Statement

theorem isContained_of_framed (framed : Framed core run)
    (unterminated : ∀ placed ∈ core, placed.token ≠ .semicolon) :
    isContained grammar run = isContained grammar core := by
  obtain ⟨front, back, before, behind⟩ := framed
  exact isContained_of_same grammar rfl unterminated (lexemesOf_blank before)
    (lexemesOf_blank behind)

/-- Gaps around a run change nothing. -/
theorem ofRun?_of_framed (framed : Framed core run)
    (unterminated : ∀ placed ∈ core, placed.token ≠ .semicolon)
    (contained : isContained grammar core = true) : ofRun? grammar run = ofRun? grammar core := by
  obtain ⟨front, back, before, behind⟩ := framed
  have before := lexemesOf_blank before
  have behind := lexemesOf_blank behind
  have places := locateIn_behind grammar front core back
  rw [before] at places
  have places : (ParserInput.ofTokens grammar (front ++ core ++ back)).locateIn
      (lexemesOf core).length =
        (ParserInput.ofTokens grammar core).locateIn (lexemesOf core).length :=
    places
  have whole : lexemesOf (front ++ core ++ back) = lexemesOf core := by
    simp only [lexemesOf_append, before, behind, List.nil_append, List.append_nil]
  unfold ofRun?
  rw [read?_of_same rfl unterminated before behind contained, whole, places]

/-- In another text a run makes up the same statement, its places being those of the same
text. -/
theorem ofRun?_of_moved (moved : List.Forall₂ (PlacedToken.Moved text text') run run')
    (unterminated : ∀ placed ∈ run, placed.token ≠ .semicolon)
    (contained : isContained grammar run = true) :
    isContained grammar run' = true ∧ ∃ (read : Option Statement) (put put' : Location → Location),
      ofRun? grammar run = read.map (·.relocate put) ∧
        ofRun? grammar run' = read.map (·.relocate put') ∧
          ∀ place, (put place).rest? text = (put' place).rest? text' := by
  have same := (tokens_of_moved moved).symm
  have unterminated' := unterminated_of_same same.symm unterminated
  have size : (lexemesOf run').length = (lexemesOf run).length := by
    simpa using congrArg List.length (lexemesOf_counted same 0)
  have nothing : lexemesOf [] = [] := rfl
  have contained' := isContained_of_same grammar same unterminated' nothing nothing
  have read := read?_of_same same unterminated' nothing nothing contained
  rw [List.nil_append, List.append_nil] at contained' read
  refine ⟨contained'.trans contained, read? grammar run, _, _, rfl, ?_,
    locateIn_of_moved grammar moved (lexemesOf run).length⟩
  rw [ofRun?, read, size]

/-- A statement at other places defines the same table if the same text stands there. -/
theorem table_relocate {put put' : Location → Location}
    (same : ∀ place, (put place).rest? text = (put' place).rest? text') (database : Database)
    (statement : Statement) :
    (statement.relocate put).definition?.map (Table.ofDefinition text database) =
      (statement.relocate put').definition?.map (Table.ofDefinition text' database) := by
  cases statement with
  | createTable definition =>
    exact congrArg some (Table.ofDefinition_relocate same database definition)
  | dropTable | explanation | other => rfl

end Statement

namespace Script

/-- The statement that all of a run makes up, as it stands or else without its partition
clauses. -/
def statement? (grammar : Grammar) (run : List PlacedToken) : Option Statement :=
  (Statement.ofRun? grammar run).or (Statement.ofRun? grammar (kept State.initial run))

/-- Whether the statement of a run is contained in it, with its partition clauses and without
them. -/
def isContained (grammar : Grammar) (run : List PlacedToken) : Bool :=
  Statement.isContained grammar run && Statement.isContained grammar (kept State.initial run)

theorem contained_iff : isContained grammar run = true ↔
    Statement.isContained grammar run = true ∧
      Statement.isContained grammar (kept State.initial run) = true := by
  simp [isContained]

/-- Tokens are read as they stand or else without their partition clauses. -/
theorem ofTokens_eq_ok_iff (statements : List Statement) :
    ofTokens grammar tokens = .ok statements ↔
      Statement.ofTokens grammar tokens = .ok statements ∨
        (∃ error, Statement.ofTokens grammar tokens = .error error) ∧
          Statement.ofTokens grammar (kept State.initial tokens) = .ok statements := by
  rw [ofTokens_eq]
  cases Statement.ofTokens grammar tokens <;>
    cases Statement.ofTokens grammar (kept State.initial tokens) <;> simp

/-- A run for itself makes up one statement or none. -/
theorem ofTokens_run_eq_ok_iff (unterminated : ∀ placed ∈ run, placed.token ≠ .semicolon)
    (content : hasContent run = true) (contained : isContained grammar run = true)
    (statements : List Statement) :
    ofTokens grammar run = .ok statements ↔
      ∃ statement, statement? grammar run = some statement ∧ statements = [statement] := by
  obtain ⟨plain, stripped⟩ := contained_iff.1 contained
  have whole := Statement.ofTokens_run_eq_ok_iff unterminated content plain
  have part := Statement.ofTokens_run_eq_ok_iff (unterminated_kept unterminated State.initial)
    ((hasContent_kept fresh_initial run).trans content) stripped
  rw [ofTokens_eq_ok_iff, whole, part, statement?]
  cases found : Statement.ofRun? grammar run with
  | some statement =>
    have read := (whole [statement]).2 ⟨statement, found, rfl⟩
    simp [read]
  | none =>
    have unread : ∃ error, Statement.ofTokens grammar run = .error error := by
      cases read : Statement.ofTokens grammar run with
      | error error => exact ⟨error, rfl⟩
      | ok others =>
        obtain ⟨statement, here, -⟩ := (whole others).1 read
        simp [found] at here
    simp [unread]

/-- The table that a run for itself defines. -/
def table? (text : List Char) (database : Database) (run : List PlacedToken) : Option Table :=
  ((statement? database.grammar run).bind Statement.definition?).map
    (Table.ofDefinition text database)

/-- A run that is read as it stands and without its partition clauses defines the same table in
both ways. -/
def Agrees (text : List Char) (database : Database) (run : List PlacedToken) : Prop :=
  ∀ whole ∈ Statement.ofRun? database.grammar run,
    ∀ part ∈ Statement.ofRun? database.grammar (kept State.initial run),
      whole.definition?.map (Table.ofDefinition text database) =
        part.definition?.map (Table.ofDefinition text database)

instance (text : List Char) (database : Database) (run : List PlacedToken) :
    Decidable (Agrees text database run) :=
  inferInstanceAs (Decidable (∀ whole ∈ Statement.ofRun? database.grammar run, _))

/-- Where both ways agree, a run defines the table that it defines without its clauses, if it is
read so. -/
theorem Agrees.table?_eq {text : List Char} {database : Database} {statement : Statement}
    (agrees : Agrees text database run)
    (part : Statement.ofRun? database.grammar (kept State.initial run) = some statement) :
    table? text database run = statement.definition?.map (Table.ofDefinition text database) := by
  unfold table? statement?
  cases whole : Statement.ofRun? database.grammar run with
  | none => rw [Option.none_or, part, Option.bind_some]
  | some other => exact agrees other whole statement part

/-- Gaps around a run change nothing. -/
theorem isContained_of_framed (framed : Framed core run)
    (unterminated : ∀ placed ∈ core, placed.token ≠ .semicolon) :
    isContained grammar run = isContained grammar core := by
  unfold isContained
  rw [Statement.isContained_of_framed framed unterminated,
    Statement.isContained_of_framed (framed_kept framed) (unterminated_kept unterminated _)]

theorem statement?_of_framed (framed : Framed core run)
    (unterminated : ∀ placed ∈ core, placed.token ≠ .semicolon)
    (contained : isContained grammar core = true) :
    statement? grammar run = statement? grammar core := by
  obtain ⟨plain, stripped⟩ := contained_iff.1 contained
  unfold statement?
  rw [Statement.ofRun?_of_framed framed unterminated plain,
    Statement.ofRun?_of_framed (framed_kept framed) (unterminated_kept unterminated _) stripped]

/-- A run stands for another one: it is contained and without a terminator, and it makes up
the same statements. -/
structure StandsFor (grammar : Grammar) (run begun : List PlacedToken) : Prop where
  unterminated : ∀ placed ∈ run, placed.token ≠ .semicolon
  content : hasContent run = true
  contained : isContained grammar run = true
  whole : Statement.ofRun? grammar run = Statement.ofRun? grammar begun
  part : Statement.ofRun? grammar (kept State.initial run) =
    Statement.ofRun? grammar (kept State.initial begun)

theorem StandsFor.statement?_eq {begun : List PlacedToken} (stands : StandsFor grammar run begun) :
    statement? grammar run = statement? grammar begun := by
  rw [statement?, statement?, stands.whole, stands.part]

/-- A run stands for another one that differs from it by gaps around it. -/
theorem standsFor_of_framed {begun : List PlacedToken} (framed : Framed core begun)
    (framed' : Framed core run) (unterminated : ∀ placed ∈ begun, placed.token ≠ .semicolon)
    (content : hasContent begun = true) (contained : isContained grammar begun = true) :
    StandsFor grammar run begun := by
  have plain : ∀ placed ∈ core, placed.token ≠ .semicolon :=
    fun placed member => unterminated placed (framed.subset member)
  have plainKept := unterminated_kept plain State.initial
  have inside : isContained grammar core = true :=
    (isContained_of_framed framed plain).symm.trans contained
  obtain ⟨whole, part⟩ := contained_iff.1 inside
  refine ⟨framed'.unterminated plain, ?_, (isContained_of_framed framed' plain).trans inside, ?_, ?_⟩
  · exact framed'.hasContent_eq.trans (framed.hasContent_eq.symm.trans content)
  · rw [Statement.ofRun?_of_framed framed' plain whole,
      Statement.ofRun?_of_framed framed plain whole]
  · rw [Statement.ofRun?_of_framed (framed_kept framed') plainKept part,
      Statement.ofRun?_of_framed (framed_kept framed) plainKept part]

/-- In another text a run defines the same table. -/
theorem table?_of_moved (moved : List.Forall₂ (PlacedToken.Moved text text') run run')
    (unterminated : ∀ placed ∈ run, placed.token ≠ .semicolon)
    (contained : isContained database.grammar run = true) :
    isContained database.grammar run' = true ∧
      table? text database run = table? text' database run' := by
  obtain ⟨plain, stripped⟩ := contained_iff.1 contained
  obtain ⟨plain', read, put, put', first, second, same⟩ :=
    Statement.ofRun?_of_moved moved unterminated plain
  obtain ⟨stripped', readKept, putKept, putKept', firstKept, secondKept, sameKept⟩ :=
    Statement.ofRun?_of_moved (kept_of_moved moved State.initial)
      (unterminated_kept unterminated State.initial) stripped
  refine ⟨contained_iff.2 ⟨plain', stripped'⟩, ?_⟩
  unfold table? statement?
  rw [first, second, firstKept, secondKept]
  cases read with
  | some statement => exact Statement.table_relocate same database statement
  | none =>
    cases readKept with
    | some statement => exact Statement.table_relocate sameKept database statement
    | none => rfl

/-- A script with a statement that is contained begins with it, in one of its two forms, or is
not read. -/
theorem exists_cons_of_ofTokens {terminator : PlacedToken} {rest : List PlacedToken}
    {statements : List Statement} (unterminated : ∀ placed ∈ run, placed.token ≠ .semicolon)
    (content : hasContent run = true) (terminates : terminator.token = .semicolon)
    (contained : isContained grammar run = true)
    (read : ofTokens grammar (run ++ terminator :: rest) = .ok statements) :
    ∃ statement others, statements = statement :: others ∧
      (Statement.ofRun? grammar run = some statement ∨
        Statement.ofRun? grammar (kept State.initial run) = some statement) := by
  obtain ⟨plain, stripped⟩ := contained_iff.1 contained
  rcases (ofTokens_eq_ok_iff statements).1 read with whole | ⟨-, part⟩
  · obtain ⟨statement, others, found, shape⟩ :=
      Statement.exists_cons_of_ofTokens unterminated content (ends_terminator terminates rest) plain
        whole
    exact ⟨statement, others, shape, .inl found⟩
  · rw [kept_append terminates] at part
    obtain ⟨statement, others, found, shape⟩ :=
      Statement.exists_cons_of_ofTokens (unterminated_kept unterminated State.initial)
        ((hasContent_kept fresh_initial run).trans content)
        (ends_kept_terminator terminates (State.initial.through run) rest) stripped part
    exact ⟨statement, others, shape, .inr found⟩

end Script

end TableCatalog
