import TableCatalog.Proofs.Fault
import TableCatalog.Proofs.OneStatement
import TableCatalog.Proofs.Tables

/-!
# What a fault leaves of a script

Of a script that breaks off inside a token, the statements before the last terminator are
recovered exactly if the fault is laid to the opening mark of that token. The tables are then
those of the script cut at that terminator, as far as both show the same types.
-/

namespace TableCatalog.Catalog

open Lexer

variable {grammar : Grammar} {fault : LexicalFault} {script : List Char}
  {tokens complete begun : List PlacedToken} {terminator : PlacedToken}

/-- What follows the last terminator is dropped with it. -/
theorem beforeLastTerminator_append (terminates : terminator.token = .semicolon)
    (unterminated : ∀ placed ∈ begun, placed.token ≠ .semicolon) :
    beforeLastTerminator (complete ++ terminator :: begun) = complete := by
  have skipped : begun.reverse.dropWhile (·.token != .semicolon) = [] := by
    simpa [List.dropWhile_eq_nil_iff] using unterminated
  have whole : (complete ++ terminator :: begun).reverse =
      begun.reverse ++ terminator :: complete.reverse := by simp
  rw [beforeLastTerminator, whole, List.dropWhile_append, skipped]
  simp [terminates]

/-- Tokens with a terminator have a last one. -/
theorem exists_last_terminator (inside : ∃ placed ∈ tokens, placed.token = .semicolon) :
    ∃ complete terminator begun, tokens = complete ++ terminator :: begun ∧
      terminator.token = .semicolon ∧ ∀ placed ∈ begun, placed.token ≠ .semicolon := by
  induction tokens with
  | nil => simp at inside
  | cons placed tokens ih =>
    by_cases later : ∃ placed ∈ tokens, placed.token = .semicolon
    · obtain ⟨complete, terminator, begun, rfl, found⟩ := ih later
      exact ⟨placed :: complete, terminator, begun, rfl, found⟩
    · obtain ⟨other, member, terminates⟩ := inside
      rcases List.mem_cons.1 member with rfl | deeper
      · exact ⟨[], other, tokens, rfl, terminates, fun next within ends => later ⟨next, within, ends⟩⟩
      · exact absurd ⟨other, deeper, terminates⟩ later

/-- Tokens without a terminator complete nothing. -/
theorem beforeLastTerminator_append_unterminated
    (unterminated : ∀ placed ∈ begun, placed.token ≠ .semicolon) :
    beforeLastTerminator (tokens ++ begun) = beforeLastTerminator tokens := by
  have skipped : begun.reverse.dropWhile (·.token != .semicolon) = [] := by
    simpa [List.dropWhile_eq_nil_iff] using unterminated
  simp [beforeLastTerminator, List.dropWhile_append, skipped]

/-- What is recovered of a script with a fault: all that precedes the last terminator if the
fault is laid to the mark that opens the faulty token, and nothing otherwise. -/
theorem completeTokens_of_fault {c : Char} {rest : List Char} {place : Location}
    (reads : Reads grammar (Cursor.ofText script) tokens ⟨c :: rest, place⟩)
    (failed : next grammar c rest ⟨c :: rest, place⟩ = .error fault) :
    completeTokens grammar script =
      (if laidToOpening grammar c then beforeLastTerminator tokens else [], some fault) := by
  have faulty : Token.scan grammar script = .error fault :=
    Token.scan_of_faultsAt reads ⟨c, rest, rfl, failed⟩
  obtain ⟨lexemes, rfl, whole, reached, again⟩ := reads.settled
  have reached : place = Location.start.after (spelled lexemes) := reached
  have whole : script = spelled lexemes ++ c :: rest := whole
  have laid := fault_cases failed
  split at laid
  · rename_i opening
    obtain ⟨part, more, others, last, shape, laid, unterminated, goesOn⟩ := laid
    have before : fault.place.before? script = some (spelled lexemes ++ part) := by
      rw [laid, reached, ← Location.after_append, whole, shape, ← List.append_assoc]
      exact Location.before?_after _ more
    have scanned : Token.scan grammar (spelled lexemes ++ part) =
        .ok (placed Location.start lexemes ++ others) := by
      have first := again part Location.start (shape ▸ List.prefix_append part more)
      exact Token.scan_of_reads (first.trans (reached ▸ goesOn))
    simp only [completeTokens, faulty, before, scanned, if_pos opening]
    rw [beforeLastTerminator_append_unterminated unterminated]
    rfl
  · rename_i inside
    obtain ⟨part, more, shape, laid, other, remains⟩ := laid
    have before : fault.place.before? script = some (spelled lexemes ++ c :: part) := by
      rw [laid, reached, ← Location.after_append, whole, shape, ← List.cons_append,
        ← List.append_assoc]
      exact Location.before?_after _ more
    have scanned : Token.scan grammar (spelled lexemes ++ c :: part) = .error other := by
      have first := again (c :: part) Location.start (shape ▸ List.prefix_append (c :: part) more)
      exact Token.scan_of_faultsAt first ⟨c, part, rfl, reached ▸ remains⟩
    simp only [completeTokens, faulty, before, scanned, if_neg inside]

/-- A text in which a terminator has been read is not blank. -/
theorem allBlank_of_reads {cursor finish : Cursor} (reads : Reads grammar cursor tokens finish)
    (inside : ∃ placed ∈ tokens, placed.token = .semicolon) :
    Text.allBlank cursor.rest = false := by
  induction reads with
  | refl => simp at inside
  | @step c rest place token after finish tokens found more ih =>
    obtain ⟨run, shape, -⟩ := stands_next false (by simp) found
    obtain ⟨placed, here | later, terminates⟩ := by simpa only [List.mem_cons] using inside
    · subst here
      obtain rfl : token = .semicolon := terminates
      simp [Text.allBlank, isBlank_of_semicolon found]
    · have visible := ih ⟨placed, later, terminates⟩
      simp only [Text.allBlank, List.all_eq_false] at visible ⊢
      obtain ⟨d, within, seen⟩ := visible
      exact ⟨d, List.mem_cons_of_mem c (shape ▸ List.mem_append_right run within), seen⟩

/-- The piece that a terminator opens at the end is empty. -/
theorem runs_append_terminator (terminates : terminator.token = .semicolon)
    (tokens : List PlacedToken) :
    Token.runs (tokens ++ [terminator]) = Token.runs tokens := by
  have pieces : Token.pieces (tokens ++ [terminator]) = Token.pieces tokens ++ [[]] := by
    induction tokens with
    | nil => simp [Token.pieces, terminates]
    | cons placed tokens ih =>
      simp only [List.cons_append, Token.pieces, ih]
      split
      · rfl
      · cases shape : Token.pieces tokens with
        | nil => exact absurd shape (Token.pieces_ne_nil tokens)
        | cons first others => rfl
  simp [Token.runs, pieces, Token.hasContent]

/-- A script that cannot be read whole is read run by run. -/
theorem tables_every_of_error {script : String} {database : Database} {error : ParseError}
    (visible : Text.allBlank script.toList = false)
    (malformed : Script.ofText database.grammar script.toList = .error error)
    (schedule : Schedule) :
    (every script database schedule).tables = (byRuns script.toList database schedule).tables := by
  rw [every_of_error visible malformed]

/-- A script that breaks off inside a token which begins with `opening`, behind complete
statements: `cut` is the script up to its last terminator, `complete` what stands before it. -/
inductive BreaksOff (grammar : Grammar) (script cut : String) (complete : List PlacedToken)
    (opening : Char) : Prop where
  | intro {more rest : List Char} {terminator : PlacedToken} {begun : List PlacedToken}
      {middle place : Location} {fault : LexicalFault}
      (whole : script.toList = cut.toList ++ more)
      (reads : Reads grammar (Cursor.ofText script.toList) (complete ++ [terminator])
        ⟨more, middle⟩)
      (terminates : terminator.token = .semicolon)
      (begins : Reads grammar ⟨more, middle⟩ begun ⟨opening :: rest, place⟩)
      (unterminated : ∀ placed ∈ begun, placed.token ≠ .semicolon)
      (failed : next grammar opening rest ⟨opening :: rest, place⟩ = .error fault) :
      BreaksOff grammar script cut complete opening

/-- Every script with a fault behind a terminator breaks off so. -/
theorem breaksOff_of_reads {script : String} {opening : Char} {rest : List Char} {place : Location}
    (reads : Reads grammar (Cursor.ofText script.toList) tokens ⟨opening :: rest, place⟩)
    (failed : next grammar opening rest ⟨opening :: rest, place⟩ = .error fault)
    (inside : ∃ placed ∈ tokens, placed.token = .semicolon) :
    ∃ cut, BreaksOff grammar script cut (beforeLastTerminator tokens) opening := by
  obtain ⟨complete, terminator, begun, rfl, terminates, unterminated⟩ :=
    exists_last_terminator inside
  rw [← List.singleton_append, ← List.append_assoc] at reads
  obtain ⟨⟨more, middle⟩, first, second⟩ := reads.split
  obtain ⟨lexemes, -, whole, -⟩ := first.settled
  refine ⟨String.ofList (spelled lexemes), ?_⟩
  rw [beforeLastTerminator_append terminates unterminated]
  refine .intro ?_ first terminates second unterminated failed
  simpa [Cursor.ofText] using whole

/-- A script that does not scan breaks off behind its last complete statement, if it has one. -/
theorem breaksOff_of_fault {script : String}
    (failed : Token.scan grammar script.toList = .error fault) :
    ∃ tokens finish, Reads grammar (Cursor.ofText script.toList) tokens finish ∧
      ((∀ placed ∈ tokens, placed.token ≠ .semicolon) ∨
        ∃ cut opening, BreaksOff grammar script cut (beforeLastTerminator tokens) opening) := by
  obtain ⟨tokens, finish, reads, opening, rest, shape, fails⟩ := Token.reads_of_fault failed
  obtain ⟨unread, place⟩ := finish
  obtain rfl : unread = opening :: rest := shape
  refine ⟨tokens, _, reads, ?_⟩
  by_cases inside : ∃ placed ∈ tokens, placed.token = .semicolon
  · obtain ⟨cut, breaks⟩ := breaksOff_of_reads reads fails inside
    exact .inr ⟨cut, opening, breaks⟩
  · exact .inl fun placed member terminates => inside ⟨placed, member, terminates⟩

namespace BreaksOff

variable {script cut : String} {opening : Char} {database : Database}

/-- What is recovered of a script that breaks off. -/
theorem completeTokens_eq (breaks : BreaksOff grammar script cut complete opening) :
    ∃ fault, completeTokens grammar script.toList =
      (if laidToOpening grammar opening then complete else [], some fault) := by
  obtain @⟨more, rest, terminator, begun, middle, place, fault, -, reads, terminates, begins,
    unterminated, failed⟩ := breaks
  refine ⟨fault, ?_⟩
  rw [completeTokens_of_fault (reads.trans begins) failed, List.append_assoc, List.singleton_append,
    beforeLastTerminator_append terminates unterminated]

/-- What stands before the last terminator scans. -/
theorem scan_cut (breaks : BreaksOff grammar script cut complete opening) :
    ∃ terminator, terminator.token = .semicolon ∧
      Token.scan grammar cut.toList = .ok (complete ++ [terminator]) := by
  obtain @⟨more, rest, terminator, begun, middle, place, fault, whole, reads, terminates, -, -, -⟩ :=
    breaks
  obtain ⟨lexemes, tokens, spells, -, again⟩ := reads.settled
  have spells : script.toList = spelled lexemes ++ more := spells
  have cut_eq : cut.toList = spelled lexemes := by
    rw [whole] at spells
    exact List.append_cancel_right spells
  have ended := again [] Location.start List.nil_prefix
  have start : (Cursor.ofText script.toList).place = Location.start := rfl
  rw [start] at tokens
  refine ⟨terminator, terminates, ?_⟩
  rw [cut_eq, tokens]
  exact Token.scan_of_reads (by simpa [Cursor.ofText] using ended)

/-- The tables of a script that breaks off. -/
theorem tables_every (breaks : BreaksOff database.grammar script cut complete opening)
    (schedule : Schedule) :
    (every script database schedule).tables =
      (separateDefinitions database.grammar
        (if laidToOpening database.grammar opening then complete else [])).map
          (Table.ofDefinition script.toList database) := by
  obtain ⟨fault, recovered⟩ := breaks.completeTokens_eq
  obtain @⟨more, rest, terminator, begun, middle, place, fault, -, reads, terminates, begins, -,
    failed⟩ := breaks
  have visible : Text.allBlank script.toList = false :=
    allBlank_of_reads reads ⟨terminator, by simp, terminates⟩
  have faulty : Token.scan database.grammar script.toList = .error fault :=
    Token.scan_of_faultsAt (reads.trans begins) ⟨opening, rest, rfl, failed⟩
  rw [tables_every_of_error visible (Script.ofText_of_fault faulty), tables_byRuns, recovered]

/-- The tables of the script cut at its last terminator, if it is read run by run. -/
theorem tables_every_cut (breaks : BreaksOff database.grammar script cut complete opening)
    {error : ParseError} (malformed : Script.ofText database.grammar cut.toList = .error error)
    (schedule : Schedule) :
    (every cut database schedule).tables =
      (separateDefinitions database.grammar complete).map
        (Table.ofDefinition cut.toList database) := by
  obtain ⟨terminator, terminates, scanned⟩ := breaks.scan_cut
  obtain ⟨place, reads⟩ := Token.reads_of_scan scanned
  have visible : Text.allBlank cut.toList = false :=
    allBlank_of_reads reads ⟨terminator, by simp, terminates⟩
  have recovered : completeTokens database.grammar cut.toList = (complete ++ [terminator], none) := by
    simp [completeTokens, scanned]
  rw [tables_every_of_error visible malformed, tables_byRuns, recovered, separateDefinitions,
    runs_append_terminator terminates, ← separateDefinitions]

end BreaksOff

/-- Of a script that breaks off, the complete statements are recovered exactly if the fault is
laid to the mark that opens the faulty token. The tables are then those of the script without
its incomplete statement, up to types that reach beyond the last terminator. -/
theorem recovers_iff {script cut : String} {opening : Char} {database : Database}
    (breaks : BreaksOff database.grammar script cut complete opening) :
    (complete ⊆ (completeTokens database.grammar script.toList).1 ↔
      complete = [] ∨ laidToOpening database.grammar opening = true) ∧
    ∀ error schedule, Script.ofText database.grammar cut.toList = .error error →
      ((every script database schedule).tables = (every cut database schedule).tables ↔
        ∀ definition ∈ separateDefinitions database.grammar complete,
          laidToOpening database.grammar opening = true ∧
            Table.SameTypes database script.toList cut.toList definition) := by
  obtain ⟨fault, recovered⟩ := breaks.completeTokens_eq
  refine ⟨?_, fun error schedule malformed => ?_⟩
  · rw [recovered]
    by_cases laid : laidToOpening database.grammar opening = true
    · simp [laid]
    · simp [laid, List.subset_nil]
  · rw [breaks.tables_every, breaks.tables_every_cut malformed]
    by_cases laid : laidToOpening database.grammar opening = true
    · simp [laid, Table.ofDefinition_eq_iff]
    · have nothing : separateDefinitions database.grammar [] = [] := rfl
      simp [laid, nothing, eq_comm (a := []), List.eq_nil_iff_forall_not_mem]

/-- A table and a malformed statement, before text that lacks its closing quote. -/
theorem recovers_statement_before_open_quote :
    let cut := "CREATE TABLE a (id INT);b;"
    let script := cut ++ "'c"
    ∃ complete error, BreaksOff Database.mysql.grammar script cut complete '\'' ∧
      complete.length = 13 ∧ complete ⊆ (completeTokens Database.mysql.grammar script.toList).1 ∧
      Script.ofText Database.mysql.grammar cut.toList = .error error ∧
      (∀ schedule, (every script .mysql schedule).tables = (every cut .mysql schedule).tables) ∧
      (every script .mysql).tables = [⟨"a", .mysql, [⟨"id", "INT", none, false⟩], []⟩] := by
  intro cut script
  have steps : (readTo Database.mysql.grammar 14 (Cursor.ofText script.toList)).any
      (fun reading => reading.2.rest = ['\'', 'c'] ∧ reading.1.length = 14 ∧
        reading.1.getLast?.any (·.token = .semicolon) ∧
        ∀ definition ∈ separateDefinitions Database.mysql.grammar reading.1.dropLast,
          Table.SameTypes .mysql script.toList cut.toList definition) = true := by
    decide +kernel
  have unread : (Script.ofText Database.mysql.grammar cut.toList).isOk = false := by
    decide +kernel
  obtain ⟨⟨tokens, ⟨rest, place⟩⟩, found, tests⟩ := (Option.any_eq_true _ _).1 steps
  obtain ⟨rfl, size, last, types⟩ := of_decide_eq_true tests
  obtain ⟨terminator, ends, terminates⟩ := (Option.any_eq_true _ _).1 last
  obtain ⟨error, malformed⟩ := exists_error_of_isOk unread
  have whole : tokens.dropLast ++ [terminator] = tokens :=
    List.dropLast_append_getLast? terminator ends
  have breaks : BreaksOff Database.mysql.grammar script cut tokens.dropLast '\'' :=
    .intro String.toList_append (whole ▸ reads_of_readTo found) (by simpa using terminates) .refl
      (by simp) rfl
  have laid : laidToOpening Database.mysql.grammar '\'' = true := rfl
  exact ⟨tokens.dropLast, error, breaks, by simp [size], (recovers_iff breaks).1.2 (.inr laid),
    malformed, fun schedule => ((recovers_iff breaks).2 error schedule malformed).2
      fun definition member => ⟨laid, types definition member⟩, by decide +kernel⟩

/-- A comment that lacks its end costs the complete statements before it. -/
theorem open_comment_costs_complete_statements :
    let cut := "CREATE TABLE a (id INT); CREATE TABLE b (id INT name TEXT);"
    (Token.scan Database.mysql.grammar (cut ++ " /* c").toList).isOk = false ∧
      (Script.ofText Database.mysql.grammar cut.toList).isOk = false ∧
      (every cut .mysql).tables = [⟨"a", .mysql, [⟨"id", "INT", none, false⟩], []⟩] ∧
      (every (cut ++ " /* c") .mysql).tables = [] := by
  decide +kernel

end TableCatalog.Catalog
