import TableCatalog.Catalog
import TableCatalog.Proofs.Reading
import TableCatalog.Proofs.TokenKinds
import TableCatalog.Proofs.TypeReach

/-!
# Comments beside a type

Every grammar has comments that begin with `--` or `/*`, and the scan for a type stops before
them. A comment with another mark is text to the scan, and so is any comment behind a quote that
it takes for an open one. So a comment behind the name of a column or behind its type either cuts
the script for the scan or becomes a part of the type.
-/

namespace TableCatalog

namespace Lexer

variable {grammar : Grammar} {comment : List Char}

/-- A text that a grammar reads as one comment. -/
def IsComment (grammar : Grammar) (comment : List Char) : Prop :=
  ∃ gap first past, gap.isComment = true ∧
    Token.scan grammar comment = .ok [⟨.gap gap, first, past⟩]

theorem IsComment.begins (comments : IsComment grammar comment) :
    BeginsComment grammar comment := by
  obtain ⟨gap, first, past, kind, scanned⟩ := comments
  obtain ⟨place, reads⟩ := Token.reads_of_scan scanned
  generalize start : Cursor.ofText comment = cursor at reads
  cases reads with
  | @step c rest _ _ _ _ _ found more =>
    obtain ⟨rfl, -⟩ := Cursor.mk.inj start
    exact (kind_next found).beginsComment kind

/-- The marks that comments begin with. -/
theorem BeginsComment.exists_cons (begins : BeginsComment grammar comment) :
    ∃ mark ∈ ['-', '/', '#'], ∃ rest, comment = mark :: rest := by
  cases begins with
  | hyphens => exact ⟨'-', by decide, _, rfl⟩
  | block => exact ⟨'/', by decide, _, rfl⟩
  | hash has => exact ⟨'#', by decide, _, rfl⟩
  | slashes has => exact ⟨'/', by decide, _, rfl⟩

end Lexer

namespace DeclaredType

open Lexer (BeginsComment)

variable {grammar : Grammar} {c mark quote : Char} {depth : Nat}
  {text blanks comment rest more run : List Char}

/-- That the scan stops inside a text or before a comment that follows it. -/
def StopsBy (text comment : List Char) : Prop :=
  behind text ≠ [] ∨
    beginsComment comment = true ∧ (unquoted? (Text.trimStart text)).isSome = true

instance (text comment : List Char) : Decidable (StopsBy text comment) :=
  inferInstanceAs (Decidable (_ ∨ _))

theorem beginsComment_append (begins : BeginsComment grammar comment) (more : List Char) :
    beginsComment (comment ++ more) = beginsComment comment := by
  cases begins with
  | hyphens | block | slashes => rfl
  | hash => simp [beginsComment, opensComment]

theorem isBlank_of_begins (begins : BeginsComment grammar (mark :: rest)) :
    Text.isBlank mark = false := by
  cases begins <;> decide

/-- A comment that the scan does not know is text to it. -/
theorem exists_scan_comment (begins : BeginsComment grammar (mark :: rest))
    (unknown : beginsComment (mark :: rest) = false) (depth : Nat) (more : List Char) :
    ∃ taken, scan depth (mark :: (rest ++ more)) = mark :: taken := by
  obtain ⟨_, known, _, shape⟩ := begins.exists_cons
  obtain ⟨rfl, rfl⟩ := List.cons.inj shape
  have kinds : ∀ mark ∈ ['-', '/', '#'], isSpace mark = false ∧ isQuote mark = false ∧
      isOpening mark = false ∧ isClosing mark = false ∧ isSeparator mark = false ∧
        isWordPart mark = false := by
    decide
  obtain ⟨space, quotes, opens, closes, ends, part⟩ := kinds mark known
  have plain : opensComment mark (rest ++ more) = false :=
    (beginsComment_append begins more).trans unknown
  have pass : Pass depth (mark :: (rest ++ more)) [mark] depth (rest ++ more) :=
    .other space quotes opens closes (by simp [ends]) plain part
  exact ⟨scan depth (rest ++ more), by simp [pass.scan_eq, attach, space]⟩

/-- Blanks and a comment behind them bound a type. -/
theorem bounds_comment (begins : BeginsComment grammar comment)
    (spaces : ∀ b ∈ blanks, isSpace b = true) (apart : blanks ≠ []) (more : List Char) :
    Bounds (blanks ++ (comment ++ more)) := by
  obtain ⟨mark, known, rest, rfl⟩ := begins.exists_cons
  have letter : ∀ mark ∈ ['-', '/', '#'], mark.toUpper ≠ 'S' := by decide
  exact bounds_append spaces (absurd · apart) (isBlank_of_begins begins) (letter mark known) _

/-- Quoted text goes on at least up to its quote. -/
theorem quoted_append_of_other (other : ∀ d ∈ run, d ≠ quote) (c : Char) (rest : List Char) :
    (quoted quote (run ++ c :: rest)).1 = run ++ (quoted quote (c :: rest)).1 := by
  induction run with
  | nil => rfl
  | cons d run ih =>
    obtain ⟨differs, other⟩ := List.forall_mem_cons.1 other
    have later := ih other
    cases shape : run ++ c :: rest with
    | nil => simp at shape
    | cons e more =>
      rw [shape] at later
      rw [List.cons_append, shape, quoted]
      simp [differs, later]

/-- A comment that the scan knows stops it. -/
theorem stops_comment (begins : BeginsComment grammar comment)
    (known : beginsComment comment = true) (depth : Nat) (more : List Char) :
    Stops depth (comment ++ more) := by
  have opens := (beginsComment_append begins more).trans known
  obtain ⟨mark, -, rest, rfl⟩ := begins.exists_cons
  exact .comment opens

/-- Behind blanks alone, what is declared begins with the comment. -/
theorem ofText_blanks_comment (invisible : Text.trimStart text = [])
    (begins : BeginsComment grammar comment) (spaces : ∀ b ∈ blanks, isSpace b = true)
    (more : List Char) :
    ofText (text ++ (blanks ++ (comment ++ more))) = scan 0 (comment ++ more) := by
  obtain ⟨mark, -, rest, rfl⟩ := begins.exists_cons
  rw [← List.append_assoc, List.cons_append,
    ofText_append_of_blank (isBlank_of_append invisible spaces) (isBlank_of_begins begins)]

/-- Where the scan stops by a comment, the comment cuts the text for it. -/
theorem ofText_append_comment (begins : BeginsComment grammar comment)
    (spaces : ∀ b ∈ blanks, isSpace b = true) (apart : blanks ≠ [])
    (stopsBy : StopsBy text comment) (more : List Char) :
    ofText (text ++ (blanks ++ (comment ++ more))) = ofText text := by
  have bounds := bounds_comment begins spaces apart more
  by_cases invisible : Text.trimStart text = []
  · have known : beginsComment comment = true := by
      simpa [StopsBy, behind, invisible, unquoted?_nil] using stopsBy
    rw [ofText_blanks_comment invisible begins spaces,
      (stops_comment begins known 0 more).scan_eq_nil, ofText_of_blank invisible]
  cases reach 0 (Text.trimStart text) with
  | stopped passes stops early => exact (passes.ofText_append_of_stops stops early).2 _ bounds
  | @through depth passes closed =>
    obtain ⟨ended, taken⟩ := passes.ofText_append_of_through closed invisible
    have known : beginsComment comment = true := by
      simpa [StopsBy, ended, closed] using stopsBy
    have nothing := scan_blanks spaces (stops_comment begins known depth more).scan_eq_nil
    rw [taken _ bounds, if_pos nothing]
  | quoting passes quotes opened =>
    obtain ⟨ended, unclosed, -⟩ := passes.ofText_append_of_quoting quotes opened
    simp [StopsBy, ended, unclosed] at stopsBy

/-- Where the scan does not stop by a comment, the comment becomes a part of the type. -/
theorem exists_ofText_append_comment (begins : BeginsComment grammar comment)
    (spaces : ∀ b ∈ blanks, isSpace b = true) (apart : blanks ≠ [])
    (goesOn : ¬StopsBy text comment) (more : List Char) :
    ∃ mark taken, comment.head? = some mark ∧ Text.isBlank mark = false ∧
      ofText (text ++ (blanks ++ (comment ++ more))) =
        Text.trimStart (text ++ blanks) ++ mark :: taken := by
  have bounds := bounds_comment begins spaces apart more
  obtain ⟨mark, -, rest, rfl⟩ := begins.exists_cons
  have visible := isBlank_of_begins begins
  refine ⟨mark, ?_⟩
  by_cases invisible : Text.trimStart text = []
  · have unknown : beginsComment (mark :: rest) = false := by
      simpa [StopsBy, behind, invisible, unquoted?_nil] using goesOn
    obtain ⟨taken, filled⟩ := exists_scan_comment begins unknown 0 more
    have nothing : Text.trimStart (text ++ blanks) = [] :=
      List.dropWhile_eq_nil_iff.2 (isBlank_of_append invisible spaces)
    exact ⟨taken, rfl, visible, by
      rw [ofText_blanks_comment invisible begins spaces, nothing]; exact filled⟩
  rw [trimStart_append_of_visible invisible]
  cases reach 0 (Text.trimStart text) with
  | stopped passes stops early =>
    obtain ⟨follows, -⟩ := passes.ofText_append_of_stops stops early
    exact absurd (.inl (follows ▸ early)) goesOn
  | @through depth passes closed =>
    obtain ⟨ended, longer⟩ := passes.ofText_append_of_through closed invisible
    have unknown : beginsComment (mark :: rest) = false := by
      simpa [StopsBy, ended, closed] using goesOn
    obtain ⟨taken, filled⟩ := exists_scan_comment begins unknown depth more
    have whole : scan depth (blanks ++ (mark :: rest ++ more)) = blanks ++ mark :: taken := by
      rw [List.cons_append, scan_blanks_append spaces (by simp [filled]), filled]
    exact ⟨taken, rfl, visible, by
      rw [longer _ bounds, if_neg (by rw [whole]; simp), whole, List.append_assoc]⟩
  | @quoting front depth quote inside passes quotes opened =>
    obtain ⟨-, -, longer⟩ := passes.ofText_append_of_quoting quotes opened
    have other : ∀ b ∈ blanks, b ≠ quote := by
      rintro b inside rfl
      rcases eq_of_isQuote quotes with rfl | rfl | rfl <;> exact absurd (spaces _ inside) (by decide)
    obtain ⟨more', whole⟩ := longer _ bounds
    obtain ⟨begun, first⟩ := exists_quoted_cons quote mark (rest ++ more)
    exact ⟨begun ++ more', rfl, visible, by
      rw [whole, List.cons_append, quoted_append_of_other other, first]; simp⟩

/-- A type that goes on behind a text with blanks and a mark finds the mark there. -/
theorem head?_of_prefix (blank : ∀ b ∈ blanks, Text.isBlank b = true)
    (printed : Text.isBlank mark = false)
    (part : Text.trimStart (text ++ blanks) ++ mark :: more <+: Text.trimStart (text ++ rest)) :
    (Text.trimStart rest).head? = some mark := by
  by_cases invisible : Text.trimStart text = []
  · have white : ∀ b ∈ text, Text.isBlank b = true := List.dropWhile_eq_nil_iff.1 invisible
    have nothing : Text.trimStart blanks = [] := List.dropWhile_eq_nil_iff.2 blank
    rw [trimStart_append_of_blank white, trimStart_append_of_blank white, nothing] at part
    obtain ⟨tail, shape⟩ := part
    simp [← shape]
  · rw [trimStart_append_of_visible invisible, trimStart_append_of_visible invisible,
      List.append_assoc, List.prefix_append_right_inj] at part
    obtain ⟨tail, rfl⟩ := part
    rw [List.append_assoc, trimStart_append_of_blank blank, List.cons_append,
      trimStart_of_visible printed]
    rfl

end DeclaredType

namespace Column

open DeclaredType

/-- A comment behind the name of a column or behind its type leaves the type as it is if the scan
stops by it and the script, cut off there, shows the same type; for a comment that the scan takes
for text, something else has to stand behind it. -/
theorem type_commented_iff {grammar : Grammar}
    {before text blanks comment after rest : List Char} {definition definition' : ColumnDefinition}
    (place : definition.name.past = Location.start.after before)
    (same : definition'.name.past = definition.name.past)
    (spelled : definition'.type.render = definition.type.render)
    (spaces : ∀ b ∈ blanks, isSpace b = true) (apart : blanks ≠ [])
    (comments : Lexer.IsComment grammar comment)
    (fresh : ¬StopsBy text comment →
      ofText (text ++ rest) ≠ [] ∧ (Text.trimStart rest).head? ≠ comment.head?) :
    (ofDefinition (before ++ (text ++ (blanks ++ (comment ++ (after ++ rest))))) definition').type =
        (ofDefinition (before ++ (text ++ rest)) definition).type ↔
      StopsBy text comment ∧
        (ofDefinition (before ++ text) definition).type =
          (ofDefinition (before ++ (text ++ rest)) definition).type := by
  have begins := comments.begins
  have located (more : List Char) : definition.name.past.rest? (before ++ more) = some more := by
    rw [place]
    exact Location.rest?_after before more
  have located' := same ▸ located (text ++ (blanks ++ (comment ++ (after ++ rest))))
  by_cases stopsBy : StopsBy text comment
  · have cut : (ofDefinition (before ++ (text ++ (blanks ++ (comment ++ (after ++ rest)))))
        definition').type = (ofDefinition (before ++ text) definition).type := by
      rw [type_eq located', type_eq (located text),
        ofText_append_comment begins spaces apart stopsBy, spelled]
    simp [cut, stopsBy]
  · obtain ⟨taken, standing⟩ := fresh stopsBy
    obtain ⟨mark, more, first, printed, longer⟩ :=
      exists_ofText_append_comment begins spaces apart stopsBy (after ++ rest)
    simp only [stopsBy, false_and, iff_false]
    rw [type_eq located', longer, if_neg (by simp), type_eq (located _), if_neg taken,
      String.ofList_inj]
    intro whole
    refine standing ?_
    rw [first]
    exact head?_of_prefix (fun b inside => isBlank_of_isSpace (spaces b inside)) printed
      (whole ▸ ofText_begins _)

/-- A comment with a mark of its own, behind a type that is no longer open. -/
theorem type_commented_iff_enum :
    let before := "CREATE TABLE a (b".toList
    let text := " ENUM('c)', `d`)".toList
    let comment := "# e)\n".toList
    let rest := "NOT NULL)".toList
    let definition : ColumnDefinition :=
      ⟨⟨"b", none, Location.start.after before⟩, .unspecified, none, []⟩
    Lexer.IsComment Database.mysql.grammar comment ∧
      (¬StopsBy text comment →
        ofText (text ++ rest) ≠ [] ∧ (Text.trimStart rest).head? ≠ comment.head?) ∧
      ((ofDefinition (before ++ (text ++ ("\n\t".toList ++ (comment ++ (" ".toList ++ rest)))))
          definition).type = (ofDefinition (before ++ (text ++ rest)) definition).type ↔
        StopsBy text comment ∧
          (ofDefinition (before ++ text) definition).type =
            (ofDefinition (before ++ (text ++ rest)) definition).type) := by
  intro before text comment rest definition
  have comments : Lexer.IsComment Database.mysql.grammar comment :=
    ⟨.lineComment "#" " e)\n", ⟨1, 1⟩, ⟨2, 1⟩, rfl, by decide +kernel⟩
  have fresh : ¬StopsBy text comment →
      ofText (text ++ rest) ≠ [] ∧ (Text.trimStart rest).head? ≠ comment.head? :=
    fun _ => by decide +kernel
  exact ⟨comments, fresh, type_commented_iff rfl rfl rfl (by decide) (by decide) comments fresh⟩

/-- A comment that begins with `#` joins the type in front of it, and one between the name and the
type gives way to the parser's spelling of the type. -/
theorem comments_change_types :
    let types (script : String) := (Catalog.firstTable script .mysql).map (·.columns.map (·.type))
    types "CREATE TABLE a (b INT)" = .ok ["INT"] ∧
      types "CREATE TABLE a (b INT # c\n)" = .ok ["INT # c"] ∧
      types "CREATE TABLE a (b int)" = .ok ["int"] ∧
      types "CREATE TABLE a (b /* c */ int)" = .ok ["INT"] := by
  decide +kernel

end Column

end TableCatalog
