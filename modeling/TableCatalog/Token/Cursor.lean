import TableCatalog.Location

/-!
# Cursors

A cursor is the unread part of a text together with the place where it begins.
Reading keeps the two in step.
-/

namespace TableCatalog

/-- The unread part of a text and the place where it begins. -/
structure Cursor where
  rest : List Char
  place : Location
  deriving Repr, Inhabited

namespace Cursor

/-- A whole text, unread. -/
def ofText (text : List Char) : Cursor :=
  ⟨text, Location.start⟩

/-- The cursor after a run of characters, given with the text that follows it. -/
def past (cursor : Cursor) (run rest : List Char) : Cursor :=
  ⟨rest, cursor.place.after run⟩

/-- The longest run of characters of a class, and the cursor after it. -/
def span (cursor : Cursor) (test : Char → Bool) : List Char × Cursor :=
  let run := cursor.rest.takeWhile test
  (run, cursor.past run (cursor.rest.dropWhile test))

/-- The cursor after the next `count` characters, or the end. -/
def skip (cursor : Cursor) (count : Nat) : Cursor :=
  cursor.past (cursor.rest.take count) (cursor.rest.drop count)

/-- A span and what follows it make up the unread text. -/
theorem span_append (cursor : Cursor) (test : Char → Bool) :
    (cursor.span test).1 ++ (cursor.span test).2.rest = cursor.rest :=
  List.takeWhile_append_dropWhile

end Cursor

end TableCatalog
