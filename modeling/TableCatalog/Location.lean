/-!
# Locations

A place in a text as a line and a column, both counted from one. Lines end at a
line feed; columns count characters. Line zero stands for no place at all.
-/

namespace TableCatalog

/-- A line and a column, both counted from one. -/
structure Location where
  line : Nat
  column : Nat
  deriving DecidableEq, Repr, Inhabited

namespace Location

/-- The location that stands for no place. -/
def none : Location := ⟨0, 0⟩

/-- The first character of a text. -/
def start : Location := ⟨1, 1⟩

/-- The location that follows a character. -/
def next (place : Location) (c : Char) : Location :=
  if c == '\n' then ⟨place.line + 1, 1⟩ else ⟨place.line, place.column + 1⟩

/-- The location that follows a run of characters. -/
def after (place : Location) (run : List Char) : Location :=
  run.foldl next place

/-- The ending that a message about a place carries; no place, no ending. -/
def ending (place : Location) : String :=
  if place.line = 0 then "" else s!" at Line: {place.line}, Column: {place.column}"

/-- What stands after the first `count` line feeds, if the text has so many. -/
def dropLines : Nat → List Char → Option (List Char)
  | 0, text => some text
  | _ + 1, [] => Option.none
  | count + 1, c :: rest =>
    if c == '\n' then dropLines count rest else dropLines (count + 1) rest

/-- What stands after the first `count` characters, if the text has so many. -/
def dropChars : Nat → List Char → Option (List Char)
  | 0, text => some text
  | _ + 1, [] => Option.none
  | count + 1, _ :: rest => dropChars count rest

/-- The text that follows a place. Columns are counted from the start of the line
through the rest of the text, so only the end of the text bounds them. -/
def rest? (text : List Char) (place : Location) : Option (List Char) :=
  match place with
  | ⟨line + 1, column + 1⟩ => (dropLines line text).bind (dropChars column)
  | _ => Option.none

/-- The number of bytes that a text takes in UTF-8. -/
def byteLength (text : List Char) : Nat :=
  text.foldl (fun count c => count + c.utf8Size) 0

/-- The number of bytes before a place. -/
def byteOffset? (text : List Char) (place : Location) : Option Nat :=
  (rest? text place).map fun rest => byteLength text - byteLength rest

/-- The text before a place. -/
def before? (text : List Char) (place : Location) : Option (List Char) :=
  (rest? text place).map fun rest => text.take (text.length - rest.length)

theorem after_nil (place : Location) : place.after [] = place := rfl

theorem after_cons (place : Location) (c : Char) (run : List Char) :
    place.after (c :: run) = (place.next c).after run := rfl

theorem after_append (place : Location) (first second : List Char) :
    place.after (first ++ second) = (place.after first).after second :=
  List.foldl_append

theorem dropLines_suffix {count : Nat} {text rest : List Char}
    (found : dropLines count text = some rest) : rest <:+ text := by
  induction text generalizing count with
  | nil =>
    cases count with
    | zero => simp_all [dropLines]
    | succ n => simp [dropLines] at found
  | cons c tail ih =>
    cases count with
    | zero => simp_all [dropLines]
    | succ n =>
      simp only [dropLines] at found
      split at found <;> exact (ih found).trans (List.suffix_cons _ _)

theorem dropChars_suffix {count : Nat} {text rest : List Char}
    (found : dropChars count text = some rest) : rest <:+ text := by
  induction text generalizing count with
  | nil =>
    cases count with
    | zero => simp_all [dropChars]
    | succ n => simp [dropChars] at found
  | cons c tail ih =>
    cases count with
    | zero => simp_all [dropChars]
    | succ n => exact (ih found).trans (List.suffix_cons _ _)

/-- What follows a place is a suffix of the text. -/
theorem rest?_suffix {text rest : List Char} {place : Location}
    (found : rest? text place = some rest) : rest <:+ text := by
  unfold rest? at found
  split at found
  · obtain ⟨middle, lines, chars⟩ := Option.bind_eq_some_iff.1 found
    exact (dropChars_suffix chars).trans (dropLines_suffix lines)
  · simp at found

end Location

end TableCatalog
