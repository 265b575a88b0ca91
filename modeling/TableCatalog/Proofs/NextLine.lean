import TableCatalog.Proofs.Pieces
import TableCatalog.Proofs.Reading

/-!
# Text with a terminator on the next line

A text that scans gives the same tokens if a terminator stands on the line behind it, up to
gaps at its end. Only a sign that reads on to the next character at the end of the text
prevents it.
-/

namespace TableCatalog.Lexer

variable {grammar : Grammar} {tokens : List PlacedToken} {token : Token} {after cursor : Cursor}
  {place finish : Location} {c : Char} {rest more : List Char} {gap : Gap}

theorem next_feed (grammar : Grammar) (more : List Char) (place : Location) :
    next grammar '\n' more ⟨'\n' :: more, place⟩ = .ok (.gap .newline, ⟨more, place.next '\n'⟩) :=
  rfl

/-- Gaps lead from a text over the line feed behind it. -/
def EndsLine (grammar : Grammar) (text more : List Char) (place : Location) : Prop :=
  ∃ gaps, Token.hasContent gaps = false ∧ Reads grammar ⟨text ++ '\n' :: more, place⟩ gaps
    ⟨more, place.after (text ++ ['\n'])⟩

/-- The line feed belongs to the gap before it. -/
theorem EndsLine.within (gap : Gap)
    (found : next grammar c (rest ++ '\n' :: more) ⟨c :: (rest ++ '\n' :: more), place⟩ =
      .ok (.gap gap, ⟨more, place.after (c :: (rest ++ ['\n']))⟩)) :
    EndsLine grammar (c :: rest) more place :=
  ⟨_, by simp [Token.hasContent, Token.isGap], .step found .refl⟩

/-- The line feed stands behind the gap. -/
theorem EndsLine.behind (gap : Gap)
    (found : next grammar c (rest ++ '\n' :: more) ⟨c :: (rest ++ '\n' :: more), place⟩ =
      .ok (.gap gap, ⟨'\n' :: more, place.after (c :: rest)⟩)) :
    EndsLine grammar (c :: rest) more place := by
  have reads := Reads.step found (.step (next_feed grammar more _) .refl)
  have reached : place.after (c :: rest ++ ['\n']) = (place.after (c :: rest)).next '\n' :=
    Location.after_append place (c :: rest) ['\n']
  refine ⟨_, ?_, reached ▸ reads⟩
  simp [Token.hasContent, Token.isGap]

/-- A comment that ends a text goes on to the end of the line. -/
theorem endsLine_lineComment (lead : List Char)
    (opens : ∀ rest place, next grammar c (lead ++ rest) ⟨c :: (lead ++ rest), place⟩ =
      lineComment grammar (c :: lead).length ⟨c :: (lead ++ rest), place⟩)
    (found : next grammar c (lead ++ rest) ⟨c :: (lead ++ rest), place⟩ = .ok (token, after))
    (ended : after.rest = []) (more : List Char) :
    token.isGap = true ∧ EndsLine grammar (c :: (lead ++ rest)) more place := by
  obtain ⟨run, tail, rfl, inside, stop⟩ := exists_run
    (fun c => !(c == '\n' || (c == '\r' && grammar == .postgres))) rest
  have skipped (kept : List Char) :
      (Cursor.mk (c :: (lead ++ kept)) place).skip (c :: lead).length =
        ⟨kept, place.after (c :: lead)⟩ := by
    rw [← List.cons_append]
    exact Cursor.skip_append place rfl
  have comment {d : Char} (stops : (!(d == '\n' || (d == '\r' && grammar == .postgres))) = false)
      (kept : List Char) : ∃ gap, next grammar c (lead ++ (run ++ d :: kept))
        ⟨c :: (lead ++ (run ++ d :: kept)), place⟩ =
          .ok (.gap gap, ⟨kept, place.after (c :: (lead ++ (run ++ [d])))⟩) := by
    have stop : ∀ e, (d :: kept).head? = some e → _ = false := fun e first =>
      Option.some.inj first ▸ stops
    simp only [opens, lineComment, skipped, Cursor.span_run _ inside stop]
    exact ⟨_, by simp [Cursor.skip, Cursor.past, Location.after_append, Location.after_cons]; rfl⟩
  constructor
  · simp only [opens, lineComment] at found
    exact (Prod.mk.inj (Except.ok.inj found)).1 ▸ rfl
  cases tail with
  | nil =>
    obtain ⟨gap, there⟩ := comment (d := '\n') rfl more
    simp only [List.append_nil]
    refine EndsLine.within gap ?_
    simpa only [List.append_assoc] using there
  | cons d tail =>
    obtain ⟨gap, here⟩ := comment (stop d rfl) tail
    obtain ⟨rfl, rfl⟩ := Prod.mk.inj (Except.ok.inj (found.symm.trans here))
    obtain rfl : tail = [] := ended
    obtain ⟨gap, there⟩ := comment (stop d rfl) ('\n' :: more)
    refine EndsLine.behind gap ?_
    simpa only [List.append_assoc, List.singleton_append] using there

/-- A gap that a line feed at its end belongs to leads over the line feed behind it. -/
theorem endsLine_opensLine (opens : opensLine grammar c rest = true)
    (found : next grammar c rest ⟨c :: rest, place⟩ = .ok (token, after))
    (ended : after.rest = []) (more : List Char) :
    token.isGap = true ∧ EndsLine grammar (c :: rest) more place := by
  have kinds : c = '\r' ∨ (c = '#' ∧ grammar.hasHashComments = true) ∨
      (c = '-' ∧ rest.head? = some '-') ∨
      (c = '/' ∧ rest.head? = some '/' ∧ grammar.hasSlashComments = true) := by
    simpa [opensLine, or_assoc, and_assoc] using opens
  rcases kinds with rfl | ⟨rfl, comments⟩ | ⟨rfl, first⟩ | ⟨rfl, first, comments⟩
  · cases rest with
    | nil =>
      obtain ⟨rfl, rfl⟩ := Prod.mk.inj (Except.ok.inj found)
      exact ⟨rfl, EndsLine.within .newline rfl⟩
    | cons d rest =>
      by_cases feed : d = '\n'
      · subst feed
        obtain ⟨rfl, rfl⟩ := Prod.mk.inj (Except.ok.inj found)
        obtain rfl : rest = [] := ended
        exact ⟨rfl, EndsLine.behind .newline rfl⟩
      · have here : next grammar '\r' (d :: rest) ⟨'\r' :: d :: rest, place⟩ =
            .ok (.gap .newline, ⟨d :: rest, place.next '\r'⟩) := by
          simp [next, feed]
        obtain ⟨rfl, rfl⟩ := Prod.mk.inj (Except.ok.inj (found.symm.trans here))
        simp at ended
  · refine endsLine_lineComment [] (fun rest place => ?_) found ended more
    cases grammar <;> first | rfl | simp [Grammar.hasHashComments] at comments
  · obtain ⟨rest, rfl⟩ := List.head?_eq_some_iff.1 first
    exact endsLine_lineComment ['-'] (fun rest place => rfl) found ended more
  · obtain ⟨rest, rfl⟩ := List.head?_eq_some_iff.1 first
    refine endsLine_lineComment ['/'] (fun rest place => ?_) found ended more
    simp [next, comments]

/-- Nothing is read at the end of a text. -/
theorem Reads.of_nil {last : Cursor} (reads : Reads grammar cursor tokens last)
    (ended : cursor.rest = []) : tokens = [] := by
  cases reads with
  | refl => rfl
  | step found more => simp at ended

/-- A text that scans leads to a terminator on the next line over the same tokens, up to gaps
at its end. -/
theorem Reads.nextLine {last : Cursor} (reads : Reads grammar cursor tokens last)
    (whole : last.rest = [])
    (solid : ∀ final, tokens.getLast? = some final → takesLine grammar final.token = false)
    (more : List Char) :
    ∃ core gaps gaps', tokens = core ++ gaps ∧ Token.hasContent gaps = false ∧
      Token.hasContent gaps' = false ∧
        Reads grammar ⟨cursor.rest ++ '\n' :: ';' :: more, cursor.place⟩ (core ++ gaps')
          ⟨';' :: more, cursor.place.after (cursor.rest ++ ['\n'])⟩ := by
  induction reads with
  | @refl cursor =>
    rw [whole]
    exact ⟨[], [], _, rfl, by simp [Token.hasContent], by simp [Token.hasContent, Token.isGap],
      .step (next_feed grammar _ _) .refl⟩
  | @step c rest place token after last tokens found goesOn ih =>
    by_cases opens : opensLine grammar c rest = true ∧ after.rest = []
    · obtain ⟨opens, ended⟩ := opens
      obtain ⟨gap, gaps', blank, reads⟩ := endsLine_opensLine opens found ended (';' :: more)
      obtain rfl := goesOn.of_nil ended
      exact ⟨[], _, gaps', rfl, by simp [Token.hasContent, gap], blank, reads⟩
    · have stands : Stands true c (nextFrom grammar c) rest token after := by
        refine stands_next true (fun _ takes ended => ?_) found
        obtain rfl := goesOn.of_nil ended
        have plain : takesLine grammar token = false := solid _ rfl
        have gap : opensLine grammar c rest = true := by simpa [plain] using takes
        exact opens ⟨gap, ended⟩
      obtain ⟨run, shape, gives⟩ := stands
      have here := gives after.rest place (Continues.refl true after.rest)
      rw [← shape] at here
      have reached : after.place = place.after (c :: run) :=
        congrArg (·.2.place) (Except.ok.inj (found.symm.trans here))
      have solid' : ∀ final, tokens.getLast? = some final → takesLine grammar final.token = false :=
        fun final found => solid final (by simp [List.getLast?_cons, found])
      obtain ⟨core, gaps, gaps', rfl, blank, blank', reads⟩ := ih whole solid'
      refine ⟨⟨token, place, after.place⟩ :: core, gaps, gaps', rfl, blank, blank', ?_⟩
      have there := gives (after.rest ++ '\n' :: ';' :: more) place
        (.inr ⟨rfl, by simp⟩)
      rw [← reached, ← List.append_assoc, ← shape] at there
      have finish :
          place.after (c :: rest ++ ['\n']) = after.place.after (after.rest ++ ['\n']) := by
        rw [reached, ← Location.after_append, shape, List.cons_append, List.cons_append,
          List.append_assoc]
      rw [finish]
      have whole := Reads.step there reads
      exact whole

/-- A terminator stands for itself. -/
theorem next_terminator (grammar : Grammar) (more : List Char) (place : Location) :
    next grammar ';' more ⟨';' :: more, place⟩ = .ok (.semicolon, ⟨more, place.next ';'⟩) := by
  cases grammar <;> rfl

end TableCatalog.Lexer

namespace TableCatalog.Token

open Lexer

variable {grammar : Grammar} {text : List Char} {tokens : List PlacedToken}

/-- A text that scans is read up to a terminator on the next line. -/
theorem exists_nextLine (scanned : scan grammar text = .ok tokens)
    (solid : ∀ final, tokens.getLast? = some final → takesLine grammar final.token = false)
    (more : List Char) :
    ∃ core tokens', Framed core tokens ∧ Framed core tokens' ∧
      Reads grammar (Cursor.ofText (text ++ '\n' :: ';' :: more)) tokens'
        ⟨';' :: more, Location.start.after (text ++ ['\n'])⟩ := by
  obtain ⟨place, reads⟩ := reads_of_scan scanned
  obtain ⟨core, gaps, gaps', rfl, blank, blank', goesOn⟩ := reads.nextLine rfl solid more
  exact ⟨core, core ++ gaps', .intro [] gaps rfl blank, .intro [] gaps' rfl blank', goesOn⟩

end TableCatalog.Token
