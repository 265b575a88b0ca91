import TableCatalog.Catalog
import TableCatalog.Source

/-!
# The command line

What the arguments ask for, and what the answer is, given what the source of the script
holds. Arguments are taken from left to right; the first one that is wrong, or that asks
for help, decides.

The answer is that of one run of the program. How its threads take turns is given with a
schedule; without one there is a single thread.
-/

namespace TableCatalog.CommandLine

/-- The layouts in which tables are shown. -/
inductive Format where
  | text
  | json
  deriving DecidableEq, Repr

/-- The layout that a word names, in lower case. -/
def Format.ofName? (name : String) : Option Format :=
  if name == "text" then some .text else if name == "json" then some .json else none

/-- What is asked of a script. -/
structure Options where
  source : Source
  database : Database
  /-- Whether all statements are looked at, or the first one alone. -/
  all : Bool
  format : Format
  verbose : Bool
  deriving DecidableEq, Repr

/-- What there is help on: the program, or one of its commands. -/
inductive Topic where
  | program
  | parse
  | help
  deriving DecidableEq, Repr

/-- What the arguments ask for. -/
inductive Request where
  | tables (options : Options)
  | help (topic : Topic)
  | version
  /-- The arguments make no sense. -/
  | misuse
  deriving DecidableEq, Repr

/-- The options that have been given so far. -/
structure Given where
  input : Option String := none
  database : Option Database := none
  format : Option Format := none
  all : Bool := false
  verbose : Bool := false
  deriving DecidableEq, Repr

/-- An option: one that takes a value, or one that does not. -/
inductive Flag where
  | input
  | database
  | format
  | all
  | verbose
  | help
  deriving DecidableEq, Repr

namespace Flag

/-- The option of a long name. -/
def ofLongName? (name : String) : Option Flag :=
  [("input", input), ("db-type", database), ("format", format), ("multi", all),
    ("verbose", verbose), ("help", help)].lookup name

/-- The option of a letter. -/
def ofLetter? (letter : Char) : Option Flag :=
  [('i', input), ('d', database), ('f', format), ('m', all), ('v', verbose),
    ('h', help)].lookup letter

/-- Whether an option takes a value. -/
def takesValue : Flag → Bool
  | input | database | format => true
  | _ => false

end Flag

namespace Given

/-- The options with one more that takes a value. An option can be given once, a path
cannot be empty, and the other values have to be known. -/
def withValue (given : Given) (flag : Flag) (value : String) : Option Given :=
  match flag with
  | .input =>
    if given.input.isSome || value.isEmpty then none else some { given with input := some value }
  | .database =>
    match given.database, Database.ofName? value with
    | none, some database => some { given with database := some database }
    | _, _ => none
  | .format =>
    match given.format, Format.ofName? value with
    | none, some format => some { given with format := some format }
    | _, _ => none
  | _ => none

/-- The options with one more that takes no value. -/
def withFlag (given : Given) (flag : Flag) : Option Given :=
  match flag with
  | .all => if given.all then none else some { given with all := true }
  | .verbose => if given.verbose then none else some { given with verbose := true }
  | _ => none

/-- What the options ask for when there are no more. A database has to be named. -/
def request (given : Given) : Request :=
  match given.database with
  | none => .misuse
  | some database =>
    .tables {
      source := given.input.elim .standardInput .file
      database := database
      all := given.all
      format := given.format.getD .text
      verbose := given.verbose }

end Given

/-- Whether an argument can be the value of an option that stands before it. -/
def isValue (argument : String) : Bool :=
  !argument.startsWith "-" || argument == "-"

/-- What a cluster of letters comes to: options that are complete, an option that still
wants its value, or a request that is decided. -/
inductive Cluster where
  | complete (given : Given)
  | wanting (given : Given) (flag : Flag)
  | decided (request : Request)

/-- What letters after one hyphen come to. The rest of the letters is the value of the
first option that takes one, without an equals sign before it. -/
def ofLetters (given : Given) : List Char → Cluster
  | [] => .complete given
  | letter :: rest =>
    match Flag.ofLetter? letter with
    | none => .decided .misuse
    | some .help => .decided (.help .parse)
    | some flag =>
      if flag.takesValue then
        match rest with
        | [] => .wanting given flag
        | _ =>
          let value := if rest.head? == some '=' then rest.drop 1 else rest
          match given.withValue flag (String.ofList value) with
          | some given => .complete given
          | none => .decided .misuse
      else
        match given.withFlag flag with
        | some given => ofLetters given rest
        | none => .decided .misuse

/-- What a long option comes to, with the value after its equals sign if it has one. -/
def ofLongOption (given : Given) (name : String) (value : Option String) : Cluster :=
  match Flag.ofLongName? name, value with
  | none, _ => .decided .misuse
  | some flag, some value =>
    match given.withValue flag value with
    | some given => .complete given
    | none => .decided .misuse
  | some .help, none => .decided (.help .parse)
  | some flag, none =>
    if flag.takesValue then .wanting given flag
    else
      match given.withFlag flag with
      | some given => .complete given
      | none => .decided .misuse

/-- What one argument that begins with a hyphen comes to. -/
def ofArgument (given : Given) (argument : String) : Cluster :=
  match argument.toList with
  | '-' :: '-' :: rest =>
    let name := rest.takeWhile (· != '=')
    let value := match rest.dropWhile (· != '=') with
      | [] => none
      | _ :: value => some (String.ofList value)
    ofLongOption given (String.ofList name) value
  | '-' :: letters => ofLetters given letters
  | _ => .decided .misuse

/-- What the arguments after the name of the command ask for. -/
def ofOptions (given : Given) : List String → Request
  | [] => given.request
  | ["--"] => given.request
  | argument :: rest =>
    if isValue argument || argument == "--" then .misuse
    else
      match ofArgument given argument with
      | .decided request => request
      | .complete given => ofOptions given rest
      | .wanting given flag =>
        match rest with
        | [] => .misuse
        | value :: rest =>
          if isValue value then
            match given.withValue flag value with
            | some given => ofOptions given rest
            | none => .misuse
          else .misuse

/-- What the arguments ask for. -/
def ofArguments : List String → Request
  | "parse" :: options => ofOptions {} options
  | ["help"] => .help .program
  | ["help", "parse"] => .help .parse
  | ["help", "help"] => .help .help
  | "help" :: _ => .misuse
  | argument :: _ =>
    if argument == "--help" || argument.startsWith "-h" then .help .program
    else if argument == "--version" || argument.startsWith "-V" then .version
    else .misuse
  | [] => .misuse

/-- What the program has to say. -/
structure Answer where
  exitCode : UInt32
  output : String
  /-- The report of an error. -/
  complaint : String
  /-- Whether it is told that there are no tables. -/
  noTables : Bool
  /-- What is told of the progress of the work. -/
  events : List Event

/-- The name and the version of the program. -/
def versionLine : String :=
  "ddl-meta 0.1.0\n"

/-- Rows of two columns, the second of which is aligned. -/
def inColumns (rows : List (String × String)) : String :=
  let width := (rows.map (·.1.length)).foldl max 0
  String.join (rows.map fun (entry, text) =>
    "  " ++ entry.pushn ' ' (width - entry.length) ++ "  " ++ text ++ "\n")

/-- A text on a topic: what it is about, how it is used, and rows on what belongs to it. -/
def manual (about usage : String) (sections : List (String × List (String × String))) : String :=
  about ++ "\n\nUsage: ddl-meta " ++ usage ++ "\n" ++
    String.join (sections.map fun (title, rows) => "\n" ++ title ++ ":\n" ++ inColumns rows)

/-- What the commands are about. -/
def Topic.about : Topic → String
  | program => "Extract table metadata from CREATE TABLE statements"
  | parse => "Parse a DDL script and print the tables it defines"
  | help => "Print this message or the help of the given subcommand(s)"

/-- The help on a topic. -/
def Topic.text : Topic → String
  | program => manual program.about "<COMMAND>" [
      ("Commands", [("parse", parse.about), ("help", help.about)]),
      ("Options", [("-h, --help", "Print help"), ("-V, --version", "Print version")])]
  | parse => manual parse.about "parse [OPTIONS] --db-type <DB_TYPE>" [
      ("Options", [
        ("-i, --input <INPUT>", "Path to the DDL script (reads stdin when omitted)"),
        ("-d, --db-type <DB_TYPE>",
          "Database type (mysql, oracle, postgresql, sqlserver, hive, odps, clickhouse, ...)"),
        ("-m, --multi", "Extract every CREATE TABLE statement, not just the first statement"),
        ("-f, --format <FORMAT>", "Output format [default: text] [possible values: text, json]"),
        ("-v, --verbose", "Enable verbose output"),
        ("-h, --help", "Print help")])]
  | help => manual help.about "help [COMMAND]..." [
      ("Arguments", [("[COMMAND]...", "Print help for the subcommand(s)")])]

/-- What is told when there are no tables. -/
def noTablesLine : String :=
  "No CREATE TABLE statement was parsed\n"

/-- The report of an error and of what is behind it. -/
def complaintOf (error : SourceError) : String :=
  "Error: " ++ error.message ++ "\n" ++
    error.cause?.elim "" fun cause => "\nCaused by:\n    " ++ cause ++ "\n"

/-- The text that shows tables in a layout. -/
def layOut (format : Format) (tables : List Table) : String :=
  match format with
  | .text => String.join (tables.map fun table => table.render ++ "\n")
  | .json => (Document.list (tables.map Table.toDocument)).toLines ++ "\n"

/-- The tables of a source, given what reading it comes to. -/
def extract (source : Source) (database : Database) (all : Bool)
    (content : Except FileError (List UInt8)) (schedule : Schedule := .inOrder) :
    Except SourceError (List Table) × List Event :=
  let events := match source with
    | .file path => [Event.reading path]
    | .standardInput => []
  match source.script content with
  | .error error => (.error error, events)
  | .ok script =>
    let report := Catalog.ofScript script database all schedule
    (.ok report.tables, events ++ report.events)

/-- Whether an event is told. Only warnings are, if not all are asked for. -/
def isTold (verbose : Bool) (event : Event) : Bool :=
  verbose || event.level == .warn

/-- The answer to a request for tables, given what reading their source comes to. -/
def answerTables (options : Options) (content : Except FileError (List UInt8))
    (schedule : Schedule := .inOrder) : Answer :=
  let (result, events) := extract options.source options.database options.all content schedule
  let told := events.filter (isTold options.verbose)
  match result with
  | .error error => ⟨1, "", complaintOf error, false, told⟩
  | .ok tables =>
    ⟨0, layOut options.format tables, "", tables.isEmpty && options.format == .text, told⟩

/-- The answer to a request, given what reading its source comes to. -/
def answer (request : Request) (content : Except FileError (List UInt8))
    (schedule : Schedule := .inOrder) : Answer :=
  match request with
  | .tables options => answerTables options content schedule
  | .help topic => ⟨0, topic.text, "", false, []⟩
  | .version => ⟨0, versionLine, "", false, []⟩
  | .misuse => ⟨2, "", "", false, []⟩

/-- The source that a request wants read, if it wants any. -/
def Request.source? : Request → Option Source
  | .tables options => some options.source
  | _ => none

/-- The answer to arguments, with a way to read a source. Nothing is read unless tables are asked
for. -/
def respond {m : Type → Type} [Monad m] (read : Source → m (Except FileError (List UInt8)))
    (arguments : List String) (schedule : Schedule := .inOrder) : m Answer := do
  let request := ofArguments arguments
  let content ← match request.source? with
    | some source => read source
    | none => pure (.ok [])
  pure (answer request content schedule)

/-- The answer to arguments, given what standard input holds and the folder that the program is
run in. -/
def run (arguments : List String) (input : List UInt8) (folder : FileNode)
    (schedule : Schedule := .inOrder) : Answer :=
  Id.run (respond (fun
    | .file path => pure (folder.read path)
    | .standardInput => pure (.ok input)) arguments schedule)

/-- The line that tells an event. -/
def eventLine (event : Event) : String :=
  let fields := event.fields.map fun (key, value) => " " ++ key ++ "=" ++ value
  event.level.name ++ " " ++ event.message ++ String.join fields ++ "\n"

/-- All that goes to the error stream: the events, the notice that there are no tables,
and the report of an error. -/
def Answer.errorText (answer : Answer) : String :=
  String.join (answer.events.map eventLine) ++ (if answer.noTables then noTablesLine else "") ++
    answer.complaint

end TableCatalog.CommandLine
