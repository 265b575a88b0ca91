import TableCatalog.Proofs.Quoted
import TableCatalog.Token.Lexer

/-!
# A step that stands

A token depends on the characters it takes up and on few of those that follow. A step
*stands* if it reads the same token wherever its characters stand before a part of what
followed them; before a line feed, this holds of all tokens but those that a line feed
prolongs.
-/

namespace TableCatalog.Lexer

variable (line : Bool) {grammar : Grammar} {token : Token} {after : Cursor} {place : Location}

/-- A step up to a closing mark succeeds exactly where the mark is found, with what stands
before it. -/
theorem closed_eq_ok {read : Option (List Char × Cursor)} {fault : LexicalFault}
    {wrap : String → Token} :
    closed read fault wrap = .ok (token, after) ↔
      ∃ content, read = some (content, after) ∧ token = wrap (String.ofList content) := by
  cases read with
  | none => simp [closed]
  | some found =>
    obtain ⟨content, inner⟩ := found
    constructor
    · intro same
      obtain ⟨rfl, rfl⟩ := by simpa [closed] using same
      exact ⟨content, rfl, rfl⟩
    · rintro ⟨content', same, rfl⟩
      obtain ⟨rfl, rfl⟩ := by simpa using same
      rfl

/-- Whether a line feed is read as a part of a token that ends a text. -/
def takesLine (grammar : Grammar) : Token → Bool
  | .symbol text =>
    text == "?" || (text == "#" && grammar.startsWord '#') ||
      ((text == "@" || text == "@@") && grammar.startsWord '@')
  | _ => false

/-- Whether a gap begins that a line feed at its end belongs to. -/
def opensLine (grammar : Grammar) (c : Char) (rest : List Char) : Bool :=
  c == '\r' || (c == '#' && grammar.hasHashComments) || (c == '-' && rest.head? == some '-') ||
    (c == '/' && rest.head? == some '/' && grammar.hasSlashComments)

/-- A step whose outcome stands, told from the character on that it begins with. -/
def Stands (line : Bool) (c : Char) (step : Cursor → Step) (rest : List Char) (token : Token)
    (after : Cursor) : Prop :=
  ∃ run, rest = run ++ after.rest ∧
    ∀ kept place, Continues line after.rest kept →
      step ⟨c :: (run ++ kept), place⟩ = .ok (token, ⟨kept, place.after (c :: run)⟩)

/-- Where a text ends, nothing but nothing may follow, unless it may go on. -/
theorem Continues.of_nil {kept : List Char} (continues : Continues line [] kept)
    (solid : line = true → ([] : List Char) ≠ []) : kept = [] := by
  rcases continues with part | ⟨allowed, -⟩
  · exact List.prefix_nil.1 part
  · exact absurd rfl (solid allowed)

variable {line} in
/-- Where a text ends, only a line feed comes next, which no word takes in if none begins there. -/
theorem Continues.feed_of_nil {c d : Char} {kept : List Char}
    (continues : Continues line [] (d :: kept))
    (solid : line = true → ¬grammar.startsWord c = true) :
    d = '\n' ∧ grammar.startsWord c = false := by
  obtain ⟨allowed, rfl⟩ : line = true ∧ d = '\n' := by simpa using continues.head? rfl
  exact ⟨rfl, by simpa using solid allowed⟩

variable {line} in
/-- Behind a character that something follows, the same follows or nothing. -/
theorem Continues.of_cons_left {d : Char} {rest kept : List Char}
    (continues : Continues line (d :: rest) kept) :
    kept = [] ∨ ∃ tail, kept = d :: tail ∧ Continues line rest tail := by
  cases kept with
  | nil => exact .inl rfl
  | cons e kept =>
    rcases continues with ⟨more, shape⟩ | ⟨allowed, more, shape⟩
    · obtain ⟨rfl, rfl⟩ := List.cons.inj shape
      exact .inr ⟨kept, rfl, .inl (List.prefix_append kept more)⟩
    · obtain ⟨rfl, rfl⟩ := List.cons.inj shape
      exact .inr ⟨_, rfl, .inr ⟨allowed, more, rfl⟩⟩

variable {line} in
/-- A step stands if what it reads behind its first character does. -/
theorem Settled.stands {α : Type} {inner : Cursor → α × Cursor → Prop} {value : α} {c : Char}
    {rest : List Char} {step : Cursor → Step}
    (settled : Settled line inner ⟨rest, place.next c⟩ value after)
    (lifts : ∀ rest place after, inner ⟨rest, place.next c⟩ (value, after) →
      step ⟨c :: rest, place⟩ = .ok (token, after)) :
    Stands line c step rest token after := by
  obtain ⟨run, shape, gives⟩ := settled
  exact ⟨run, shape, fun kept place continues => lifts _ _ _ (gives kept (place.next c) continues)⟩

variable {line} in
/-- A step stands if the run that it goes over is not empty. -/
theorem Stands.of_run {c : Char} {rest : List Char} {step : Cursor → Step} (run : List Char)
    (filled : run ≠ [])
    (shape : c :: rest = run ++ after.rest)
    (gives : ∀ kept place, Continues line after.rest kept →
      step ⟨run ++ kept, place⟩ = .ok (token, ⟨kept, place.after run⟩)) :
    Stands line c step rest token after := by
  cases run with
  | nil => exact absurd rfl filled
  | cons d run =>
    obtain ⟨rfl, rfl⟩ := List.cons.inj shape
    exact ⟨run, rfl, gives⟩

variable {line} in
/-- Steps that agree on all that may follow stand together. -/
theorem Stands.congr {c : Char} {rest : List Char} {first second : Cursor → Step}
    (stands : Stands line c first rest token after)
    (same : ∀ kept place, Continues line rest kept →
      second ⟨c :: kept, place⟩ = first ⟨c :: kept, place⟩) :
    Stands line c second rest token after := by
  obtain ⟨run, shape, gives⟩ := stands
  refine ⟨run, shape, fun kept place continues => ?_⟩
  rw [same _ place (shape ▸ continues.append run)]
  exact gives kept place continues

variable {line} in
/-- A step that passes over its first character stands if the step behind it does. -/
theorem Stands.behind {c d : Char} {rest : List Char} {outer inner : Cursor → Step}
    (stands : Stands line d inner rest token after)
    (opens : ∀ rest place, outer ⟨c :: d :: rest, place⟩ = inner ⟨d :: rest, place.next c⟩) :
    Stands line c outer (d :: rest) token after := by
  obtain ⟨run, shape, gives⟩ := stands
  refine ⟨d :: run, congrArg (d :: ·) shape, fun kept place continues => ?_⟩
  rw [List.cons_append, opens]
  exact gives kept (place.next c) continues

end TableCatalog.Lexer
