import TableCatalog.Proofs.SourcePath
import TableCatalog.Proofs.Tables

/-!
# Scripts in files and on standard input

The same bytes are answered in the same way wherever they come from, as a path among the arguments
changes no more than where they come from; and no text makes the program fail.
-/

namespace TableCatalog.CommandLine

section Spelled

variable {tag : String} {database : Database}

/-- Trimming the end keeps a first character that is no blank. -/
theorem head?_trimEnd {c : Char} (visible : Text.isBlank c = false) (rest : List Char) :
    (Text.trimEnd (c :: rest)).head? = some c := by
  have kept : Text.trimEnd (c :: rest) = c :: (rest.reverse.dropWhile Text.isBlank).reverse := by
    unfold Text.trimEnd
    rw [List.reverse_cons, List.dropWhile_append]
    split <;> simp_all
  rw [kept, List.head?_cons]

/-- A text that names a tag can stand behind the option for it. -/
theorem isValue_of_ofName? (named : Database.ofName? tag = some database) :
    isValue tag = true := by
  by_contra hyphen
  have begins : tag.startsWith "-" = true := by
    simp only [isValue, Bool.not_eq_true, Bool.or_eq_false_iff, Bool.not_eq_false'] at hyphen
    exact hyphen.1
  obtain ⟨rest, shape⟩ : "-".toList <+: tag.toList := String.startsWith_string_iff.1 begins
  have trimmed : (Text.trim tag.toList).head? = some '-' := by
    have kept : Text.trimStart ('-' :: rest) = '-' :: rest := by
      simp [Text.trimStart, show Text.isBlank '-' = false from rfl]
    rw [← shape, Text.trim]
    exact kept ▸ head?_trimEnd rfl rest
  have key : (Text.asciiLower (Text.trim tag.toList)).head? = some '-' := by
    rw [Text.asciiLower, List.head?_map, trimmed]
    rfl
  obtain ⟨entry, member, spelled⟩ : ∃ entry ∈ (Database.all.map fun tag => (tag.name, tag)) ++
      Database.aliases, entry.1.toList = Text.asciiLower (Text.trim tag.toList) := by
    obtain ⟨before, behind, table, -⟩ := List.lookup_eq_some_iff.1 named
    refine ⟨(String.ofList (Text.asciiLower (Text.trim tag.toList)), database), ?_,
      String.toList_ofList⟩
    rw [table]
    exact List.mem_append_right before List.mem_cons_self
  have plain : ∀ entry ∈ (Database.all.map fun tag => (tag.name, tag)) ++ Database.aliases,
      entry.1.toList.head? ≠ some '-' := by
    decide +kernel
  exact plain entry member (spelled ▸ key)

/-- The word for a layout. -/
def Format.name : Format → String
  | text => "text"
  | json => "json"

/-- The options that ask for a tag, in their long spellings. -/
def spelled (tag : String) (all : Bool) (format : Option Format) (verbose : Bool) : List String :=
  "--db-type" :: tag ::
    ((if all then ["--multi"] else []) ++
      (format.elim [] fun format => ["--format", format.name]) ++
      if verbose then ["--verbose"] else [])

/-- A format is found under its name. -/
theorem Format.ofName?_name (format : Format) : ofName? format.name = some format := by
  cases format <;> decide

variable {given : Given} {arguments : List String}

/-- A long option that takes no value is complete. -/
theorem ofLongOption_complete {name : String} {flag : Flag} {after : Given}
    (named : Flag.ofLongName? name = some flag) (taken : given.withFlag flag = some after) :
    ofLongOption given name none = .complete after := by
  cases flag with
  | all | verbose => simp [ofLongOption, named, Flag.takesValue, taken]
  | input | database | format | help => cases taken

/-- The flag for all tables is taken. -/
theorem ofOptions_multi (fresh : given.all = false) :
    ofOptions given ("--multi" :: arguments) = ofOptions { given with all := true } arguments := by
  have taken : given.withFlag .all = some { given with all := true } := by
    simp [Given.withFlag, fresh]
  have complete : ofLongOption given "multi" none = .complete { given with all := true } :=
    ofLongOption_complete rfl taken
  exact ofOptions_complete (by simp [isValue]) complete

/-- The flag for a log in full is taken. -/
theorem ofOptions_verbose (fresh : given.verbose = false) :
    ofOptions given ("--verbose" :: arguments) =
      ofOptions { given with verbose := true } arguments := by
  have taken : given.withFlag .verbose = some { given with verbose := true } := by
    simp [Given.withFlag, fresh]
  have complete : ofLongOption given "verbose" none = .complete { given with verbose := true } :=
    ofLongOption_complete rfl taken
  exact ofOptions_complete (by simp [isValue]) complete

/-- The format is taken from the argument behind its option. -/
theorem ofOptions_format (fresh : given.format = none) (format : Format) :
    ofOptions given ("--format" :: format.name :: arguments) =
      ofOptions { given with format := some format } arguments := by
  have filled : isValue format.name = true := by cases format <;> simp [isValue, Format.name]
  refine ofOptions_wanting (by simp [isValue]) rfl filled ?_
  simp [Given.withValue, fresh, Format.ofName?_name]

/-- Every choice of a tag, of the statements to be looked at, of a layout and of verbosity can be
asked for. -/
theorem ofArguments_spelled (named : Database.ofName? tag = some database) (all : Bool)
    (format : Option Format) (verbose : Bool) :
    ofArguments ("parse" :: spelled tag all format verbose) =
      .tables ⟨.standardInput, database, all, format.getD .text, verbose⟩ := by
  have tagged : ({} : Given).withValue .database tag =
      some { ({} : Given) with database := database } := by
    simp [Given.withValue, named]
  refine (ofOptions_wanting (by simp [isValue]) rfl (isValue_of_ofName? named) tagged).trans ?_
  cases all <;> cases format <;> cases verbose <;>
    simp [ofOptions_multi, ofOptions_format, ofOptions_verbose, ofOptions, Given.request]

end Spelled

/-- What is to be answered when tables of bytes are asked for: a failure without output if the
bytes have no text, and else the tables of the text, with a notice if there are none for people
to read. -/
structure Answers (asked : Options) (bytes : List UInt8) (answer : Answer) : Prop where
  exitCode : answer.exitCode = if (Encoding.decode bytes).isSome then 0 else 1
  silent : Encoding.decode bytes = none → answer.output = "" ∧ answer.noTables = false
  output : ∀ script, Encoding.decode bytes = some script →
    answer.output =
      let tables := (Catalog.ofScript script asked.database asked.all).tables
      match asked.format with
      | .text => String.join (tables.map fun table => table.render ++ "\n")
      | .json => (Document.list (tables.map Table.toDocument)).toLines ++ "\n"
  notice : ∀ script, Encoding.decode bytes = some script →
    (answer.noTables = true ↔
      (Catalog.ofScript script asked.database asked.all).tables = [] ∧ asked.format = .text)

/-- Bytes are answered as they are to be, whatever text they have. -/
theorem answers_answerTables (asked : Options) (bytes : List UInt8) (schedule : Schedule) :
    Answers asked bytes (answerTables asked (.ok bytes) schedule) := by
  cases decoded : Encoding.decode bytes with
  | none =>
    constructor <;> simp [answerTables, extract, Source.script, decoded]
  | some script =>
    obtain ⟨events, answered⟩ : ∃ events, answerTables asked (.ok bytes) schedule =
        let tables := (Catalog.ofScript script asked.database asked.all).tables
        ⟨0, layOut asked.format tables, "", tables.isEmpty && asked.format == .text, events⟩ := by
      simp [answerTables, extract, Source.script, decoded,
        Catalog.tables_ofScript script asked.database asked.all schedule .inOrder]
    constructor
    case exitCode | silent => simp [answered, decoded]
    case output =>
      rintro other found
      obtain rfl := Option.some.inj (decoded.symm.trans found)
      rw [answered]
      cases asked.format <;> rfl
    case notice =>
      rintro other found
      obtain rfl := Option.some.inj (decoded.symm.trans found)
      simp [answered]

/-- Where the bytes come from does not matter to the answer, nor in which order statements have
their turns, except for its events and for the words of a failure. -/
theorem answerTables_source (asked : Options) (source : Source) (bytes : List UInt8)
    (first second : Schedule) :
    let moved := answerTables { asked with source := source } (.ok bytes) first
    let answered := answerTables asked (.ok bytes) second
    moved.exitCode = answered.exitCode ∧ moved.output = answered.output ∧
      moved.noTables = answered.noTables := by
  cases decoded : Encoding.decode bytes with
  | none => simp [answerTables, extract, Source.script, decoded]
  | some script =>
    simp [answerTables, extract, Source.script, decoded,
      Catalog.tables_ofScript script asked.database asked.all first second]

/-- What is answered when tables of standard input are asked for. -/
theorem run_standardInput {arguments : List String} {asked : Options}
    (asks : ofArguments arguments = .tables asked) (piped : asked.source = .standardInput)
    (bytes : List UInt8) (folder : FileNode) (schedule : Schedule) :
    run arguments bytes folder schedule = answerTables asked (.ok bytes) schedule := by
  simp only [run, respond, asks, Request.source?, piped, answer]
  rfl

/-- What is answered when tables of a file are asked for. -/
theorem run_file {arguments : List String} {asked : Options} {path : String} {folder : FileNode}
    {bytes : List UInt8} (asks : ofArguments arguments = .tables asked)
    (filed : asked.source = .file path) (stored : folder.read path = .ok bytes)
    (input : List UInt8) (schedule : Schedule) :
    run arguments input folder schedule = answerTables asked (.ok bytes) schedule := by
  simp only [run, respond, asks, Request.source?, filed, answer, stored]
  rfl

/-- Every choice of a tag, of the statements to be looked at, of a layout and of verbosity can be
asked for. Whatever is asked, bytes on standard input are answered as they are to be, and the same
bytes in a file are answered alike, in whatever order statements have their turns. -/
theorem answers_either_source :
    (∀ tag database, Database.ofName? tag = some database → ∀ all format verbose,
        ofArguments ("parse" :: spelled tag all format verbose) =
          .tables ⟨.standardInput, database, all, format.getD .text, verbose⟩) ∧
      ∀ options asked path bytes other folder first second,
        ofArguments ("parse" :: options) = .tables asked → asked.source = .standardInput →
        isValue path = true → path.isEmpty = false → folder.read path = .ok bytes →
        let piped := run ("parse" :: options) bytes folder first
        let filed := run ("parse" :: "--input" :: path :: options) other folder second
        Answers asked bytes piped ∧ filed.exitCode = piped.exitCode ∧
          filed.output = piped.output ∧ filed.noTables = piped.noTables := by
  refine ⟨fun tag database named => ofArguments_spelled named, ?_⟩
  intro options asked path bytes other folder first second asks unread filled named stored
    piped filed
  have answered : piped = answerTables asked (.ok bytes) first :=
    run_standardInput asks unread bytes folder first
  have moved : filed = answerTables { asked with source := .file path } (.ok bytes) second :=
    run_file (ofArguments_input asks unread filled named) rfl stored other second
  rw [answered, moved]
  exact ⟨answers_answerTables asked bytes first,
    answerTables_source asked (.file path) bytes second first⟩

/-- A script on standard input and in a file of the folder, asked for with and without a layout. -/
theorem answers_either_source_mysql :
    let script := "CREATE TABLE a (b INT);c"
    let bytes := script.toList.map fun c => c.toUInt8
    let folder : FileNode := .folder [("input.sql", .file bytes)]
    let options := spelled " MySQL" true (some .json) false
    let asked : Options := ⟨.standardInput, .mysql, true, .json, false⟩
    Database.ofName? " MySQL" = some .mysql ∧
      ofArguments ("parse" :: options) = .tables asked ∧ isValue "input.sql" = true ∧
      folder.read "input.sql" = .ok bytes ∧
      let piped := run ("parse" :: options) bytes folder
      let filed := run ("parse" :: "--input" :: "input.sql" :: options) [] folder .reversed
      Answers asked bytes piped ∧ filed.exitCode = piped.exitCode ∧
        filed.output = piped.output ∧ filed.noTables = piped.noTables := by
  intro script bytes folder options asked
  have named : Database.ofName? " MySQL" = some .mysql := by decide +kernel
  have asks := answers_either_source.1 " MySQL" .mysql named true (some .json) false
  have filled : isValue "input.sql" = true := by simp [isValue]
  have stored : folder.read "input.sql" = .ok bytes := by decide +kernel
  exact ⟨named, asks, filled, stored,
    answers_either_source.2 options asked "input.sql" bytes [] folder .inOrder .reversed asks rfl
      filled rfl stored⟩

end TableCatalog.CommandLine
