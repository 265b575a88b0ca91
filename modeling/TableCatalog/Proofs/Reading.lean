import TableCatalog.Proofs.Lexing
import TableCatalog.Proofs.Place

/-!
# Reading a text token by token

`Reads` relates a cursor to the tokens that lead from it to another one. Scanning a text is
such a reading of all of it, or of what precedes the first fault; and a reading goes through
as well if the text ends where it has led.
-/

namespace TableCatalog.Lexer

/-- The tokens that lead from one cursor to another. -/
inductive Reads (grammar : Grammar) : Cursor → List PlacedToken → Cursor → Prop where
  | refl {cursor : Cursor} : Reads grammar cursor [] cursor
  | step {c : Char} {rest : List Char} {place : Location} {token : Token} {after finish : Cursor}
      {tokens : List PlacedToken}
      (found : next grammar c rest ⟨c :: rest, place⟩ = .ok (token, after))
      (more : Reads grammar after tokens finish) :
      Reads grammar ⟨c :: rest, place⟩ (⟨token, place, after.place⟩ :: tokens) finish

variable {grammar : Grammar} {cursor middle finish : Cursor} {tokens others : List PlacedToken}
  {fault : LexicalFault}

/-- One reading after another is a reading. -/
theorem Reads.trans (first : Reads grammar cursor tokens middle)
    (second : Reads grammar middle others finish) :
    Reads grammar cursor (tokens ++ others) finish := by
  induction first with
  | refl => exact second
  | step found _ ih => exact .step found (ih second)

/-- A reading divides where its tokens do. -/
theorem Reads.split (reads : Reads grammar cursor (tokens ++ others) finish) :
    ∃ middle, Reads grammar cursor tokens middle ∧ Reads grammar middle others finish := by
  induction tokens generalizing cursor with
  | nil => exact ⟨cursor, .refl, reads⟩
  | cons placed tokens ih =>
    cases reads with
    | step found more =>
      obtain ⟨middle, first, second⟩ := ih more
      exact ⟨middle, .step found first, second⟩

/-- A reading of all of a text begins with any other reading from the same place. -/
theorem Reads.exists_rest (first : Reads grammar cursor tokens middle)
    (whole : Reads grammar cursor others finish) (ended : finish.rest = []) :
    ∃ rest, others = tokens ++ rest ∧ Reads grammar middle rest finish := by
  induction first generalizing others with
  | refl => exact ⟨others, rfl, whole⟩
  | step found more ih =>
    cases whole with
    | refl => simp at ended
    | step again goesOn =>
      obtain ⟨rfl, rfl⟩ := Prod.mk.inj (Except.ok.inj (found.symm.trans again))
      obtain ⟨rest, rfl, later⟩ := ih goesOn
      exact ⟨rest, rfl, later⟩

/-- The tokens of the first `steps` steps from a cursor, and where they lead. -/
def readTo (grammar : Grammar) : Nat → Cursor → Option (List PlacedToken × Cursor)
  | 0, cursor => some ([], cursor)
  | _ + 1, ⟨[], _⟩ => none
  | steps + 1, ⟨c :: rest, place⟩ =>
    match next grammar c rest ⟨c :: rest, place⟩ with
    | .error _ => none
    | .ok (token, after) =>
      (readTo grammar steps after).map fun (tokens, finish) =>
        (⟨token, place, after.place⟩ :: tokens, finish)

/-- Readings can be computed. -/
theorem reads_of_readTo {steps : Nat}
    (found : readTo grammar steps cursor = some (tokens, finish)) :
    Reads grammar cursor tokens finish := by
  induction steps generalizing cursor tokens with
  | zero =>
    obtain ⟨rfl, rfl⟩ := Prod.mk.inj (Option.some.inj found)
    exact .refl
  | succ steps ih =>
    obtain ⟨rest, place⟩ := cursor
    cases rest with
    | nil => cases found
    | cons c rest =>
      cases step : next grammar c rest ⟨c :: rest, place⟩ with
      | error fault => simp [readTo, step] at found
      | ok result =>
        obtain ⟨token, after⟩ := result
        simp only [readTo, step, Option.map_eq_some_iff] at found
        obtain ⟨⟨later, last⟩, more, shape⟩ := found
        obtain ⟨rfl, rfl⟩ := Prod.mk.inj shape
        exact .step step (ih more)

/-- A fault where a reading has led. -/
def FaultsAt (grammar : Grammar) (cursor : Cursor) (fault : LexicalFault) : Prop :=
  ∃ c rest, cursor.rest = c :: rest ∧ next grammar c rest cursor = .error fault

/-- A token takes up a character at least. -/
theorem next_shortens {c : Char} {rest : List Char} {place : Location} {token : Token}
    {after : Cursor} (found : next grammar c rest ⟨c :: rest, place⟩ = .ok (token, after)) :
    after.rest.length ≤ rest.length := by
  obtain ⟨run, shape, -⟩ := stands_next false (by simp) found
  simp [shape]

/-- Scanning reads a text to its end or to the first fault. -/
theorem scan_cases {fuel : Nat} (enough : cursor.rest.length ≤ fuel) (read : List PlacedToken) :
    (∃ tokens place, scan grammar fuel cursor read = .ok (read.reverse ++ tokens) ∧
        Reads grammar cursor tokens ⟨[], place⟩) ∨
      ∃ fault tokens finish, scan grammar fuel cursor read = .error fault ∧
        Reads grammar cursor tokens finish ∧ FaultsAt grammar finish fault := by
  induction fuel generalizing cursor read with
  | zero =>
    obtain ⟨rest, place⟩ := cursor
    obtain rfl : rest = [] := by simpa using enough
    exact .inl ⟨[], place, by simp [scan], .refl⟩
  | succ fuel ih =>
    obtain ⟨rest, place⟩ := cursor
    cases rest with
    | nil => exact .inl ⟨[], place, by simp [scan], .refl⟩
    | cons c rest =>
      cases found : next grammar c rest ⟨c :: rest, place⟩ with
      | error fault =>
        exact .inr ⟨fault, [], _, by simp [scan, found], .refl, c, rest, rfl, found⟩
      | ok result =>
        obtain ⟨token, after⟩ := result
        have shorter := next_shortens found
        have step : scan grammar (fuel + 1) ⟨c :: rest, place⟩ read =
            scan grammar fuel after (⟨token, place, after.place⟩ :: read) := by
          simp [scan, found]
        have enough : after.rest.length ≤ fuel := by
          simp at enough
          omega
        rw [step]
        rcases ih enough _ with ⟨tokens, finish, whole, reads⟩ |
            ⟨fault, tokens, finish, faulty, reads, fails⟩
        · exact .inl ⟨_, finish, by rw [whole]; simp, .step found reads⟩
        · exact .inr ⟨fault, _, finish, faulty, .step found reads, fails⟩

/-- Scanning goes through a reading. -/
theorem scan_of_reads (reads : Reads grammar cursor tokens finish) {fuel : Nat}
    (enough : cursor.rest.length ≤ fuel) (read : List PlacedToken) :
    ∃ left, finish.rest.length ≤ left ∧
      scan grammar fuel cursor read = scan grammar left finish (tokens.reverse ++ read) := by
  induction reads generalizing fuel read with
  | refl => exact ⟨fuel, enough, rfl⟩
  | @step c rest place token after finish tokens found more ih =>
    cases fuel with
    | zero => simp at enough
    | succ fuel =>
      have shorter := next_shortens found
      have enough : after.rest.length ≤ fuel := by
        simp at enough
        omega
      obtain ⟨left, bound, same⟩ := ih enough (⟨token, place, after.place⟩ :: read)
      exact ⟨left, bound, by simp [scan, found, same]⟩

/-- Tokens with their spellings, placed one after another. -/
def placed : Location → List (Token × List Char) → List PlacedToken
  | _, [] => []
  | place, (token, run) :: more =>
    ⟨token, place, place.after run⟩ :: placed (place.after run) more

/-- The text that tokens are spelled by. -/
def spelled (lexemes : List (Token × List Char)) : List Char :=
  lexemes.flatMap (·.2)

/-- What a reading has read is read again wherever it stands before a part of what follows. -/
theorem Reads.settled (reads : Reads grammar cursor tokens finish) :
    ∃ lexemes, tokens = placed cursor.place lexemes ∧
      cursor.rest = spelled lexemes ++ finish.rest ∧
      finish.place = cursor.place.after (spelled lexemes) ∧
      ∀ kept place, kept <+: finish.rest →
        Reads grammar ⟨spelled lexemes ++ kept, place⟩ (placed place lexemes)
          ⟨kept, place.after (spelled lexemes)⟩ := by
  induction reads with
  | refl => exact ⟨[], rfl, rfl, rfl, fun kept place _ => .refl⟩
  | @step c rest place token after finish tokens found more ih =>
    obtain ⟨run, shape, gives⟩ := stands_next false (by simp) found
    obtain ⟨lexemes, rfl, whole, last, goesOn⟩ := ih
    have again := gives after.rest place (Continues.refl false after.rest)
    rw [← shape] at again
    have led : after = ⟨after.rest, place.after (c :: run)⟩ :=
      congrArg Prod.snd (Except.ok.inj (found.symm.trans again))
    have reached : after.place = place.after (c :: run) := congrArg Cursor.place led
    refine ⟨(token, c :: run) :: lexemes, ?_, ?_, ?_, fun kept place part => ?_⟩
    · simp [placed, reached]
    · simp [spelled, shape, whole]
    · rw [last, reached]
      simp [spelled, Location.after_cons, Location.after_append]
    · have inside := gives (spelled lexemes ++ kept) place
        (whole ▸ .inl ((List.prefix_append_right_inj _).2 part))
      have later := goesOn kept (place.after (c :: run)) part
      simp only [spelled, List.flatMap_cons, List.cons_append, List.append_assoc,
        Location.after_cons, Location.after_append] at later inside ⊢
      exact .step inside later

end TableCatalog.Lexer

namespace TableCatalog.Token

open Lexer

variable {grammar : Grammar} {text : List Char} {tokens : List PlacedToken} {fault : LexicalFault}

/-- A text scans if a reading leads to its end. -/
theorem scan_of_reads {place : Location}
    (reads : Reads grammar (Cursor.ofText text) tokens ⟨[], place⟩) :
    scan grammar text = .ok tokens := by
  obtain ⟨left, -, same⟩ := Lexer.scan_of_reads reads (Nat.le_refl text.length) []
  unfold scan
  rw [same]
  cases left <;> simp [Lexer.scan]

/-- A text does not scan if a reading leads to a fault. -/
theorem scan_of_faultsAt {finish : Cursor} (reads : Reads grammar (Cursor.ofText text) tokens finish)
    (fails : FaultsAt grammar finish fault) : scan grammar text = .error fault := by
  obtain ⟨left, enough, same⟩ := Lexer.scan_of_reads reads (Nat.le_refl text.length) []
  obtain ⟨c, rest, shape, found⟩ := fails
  unfold scan
  rw [same]
  cases left with
  | zero => simp [shape] at enough
  | succ left => simp [Lexer.scan, shape, found]

/-- A text that scans is read to its end. -/
theorem reads_of_scan (scanned : scan grammar text = .ok tokens) :
    ∃ place, Reads grammar (Cursor.ofText text) tokens ⟨[], place⟩ := by
  rcases @scan_cases grammar (Cursor.ofText text) text.length (Nat.le_refl _) [] with
      ⟨found, place, whole, reads⟩ | ⟨fault, found, finish, faulty, -⟩
  · obtain rfl : found = tokens := by simpa using whole.symm.trans scanned
    exact ⟨place, reads⟩
  · exact absurd (faulty.symm.trans scanned) (by simp)

/-- A text that does not scan is read to its first fault. -/
theorem reads_of_fault (failed : scan grammar text = .error fault) :
    ∃ tokens finish, Reads grammar (Cursor.ofText text) tokens finish ∧
      FaultsAt grammar finish fault := by
  rcases @scan_cases grammar (Cursor.ofText text) text.length (Nat.le_refl _) [] with
      ⟨found, place, whole, -⟩ | ⟨other, found, finish, faulty, reads, fails⟩
  · exact absurd (whole.symm.trans failed) (by simp)
  · obtain rfl : other = fault := by simpa using faulty.symm.trans failed
    exact ⟨found, finish, reads, fails⟩

end TableCatalog.Token
