import Mathlib.Data.List.DropRight
import TableCatalog.Proofs.Pieces

/-!
# The runs of a list of tokens

A list of tokens is divided by reading it once: each terminator ends the run that is open, the end
of the list the last one, and blank runs are left out. Such a list may hold marks of its end beside
the tokens of a script; they are blank. Dividing loses and adds nothing. The runs are the pieces
that the library's splitting gives, without the blank ones; lists with a terminator between them are
divided one by one; and an entry is in a run exactly if it is no terminator and more than gaps
stands between the terminators around it.
-/

namespace TableCatalog.Token

/-- What a list of tokens holds: tokens of a script, and marks of an end with their places. -/
inductive Entry where
  | token (placed : PlacedToken)
  | ended (first past : Location)
  deriving DecidableEq, Repr

/-- Whether an entry ends a statement. -/
def Entry.isTerminator : Entry → Bool
  | token placed => placed.token == .semicolon
  | ended .. => false

/-- Whether an entry is more than a gap. -/
def Entry.isSolid : Entry → Bool
  | token placed => !placed.token.isGap
  | ended .. => false

/-- The runs that have ended, and the one that is open. -/
structure Division where
  closed : List (List Entry)
  current : List Entry
  deriving DecidableEq, Repr

/-- The runs with the one that is open, unless it is blank. -/
def Division.flush (division : Division) : List (List Entry) :=
  if division.current.any Entry.isSolid then division.closed ++ [division.current]
  else division.closed

/-- The runs after one more entry. -/
def Division.add (division : Division) (entry : Entry) : Division :=
  if entry.isTerminator then ⟨division.flush, []⟩
  else { division with current := division.current ++ [entry] }

/-- The runs of a list of tokens. -/
def divide (entries : List Entry) : List (List Entry) :=
  (entries.foldl Division.add ⟨[], []⟩).flush

/-- What stands around a place in a list, up to the terminators on both sides. -/
def around (entries : List Entry) (index : Nat) : List Entry :=
  (entries.take index).rtakeWhile (!Entry.isTerminator ·) ++
    (entries.drop index).takeWhile (!Entry.isTerminator ·)

/-- The entries of a list that are no terminators and around which more than gaps stands. -/
def contents (entries : List Entry) : List Entry :=
  (entries.zipIdx.filter fun (entry, index) =>
    !entry.isTerminator && (around entries index).any Entry.isSolid).map Prod.fst

variable {piece rest current entries : List Entry} {terminator : Entry} {index : Nat}

section Dividing

/-- Reading on from some runs gives these and those of what is open with what follows it. -/
theorem flush_foldl (unterminated : ∀ entry ∈ current, entry.isTerminator = false)
    (closed : List (List Entry)) (entries : List Entry) :
    (entries.foldl Division.add ⟨closed, current⟩).flush =
      closed ++
        ((current ++ entries).splitOnP Entry.isTerminator).filter (·.any Entry.isSolid) := by
  induction entries generalizing closed current with
  | nil =>
    rw [List.append_nil, List.splitOnP_eq_singleton unterminated, List.filter_cons, List.foldl_nil,
      Division.flush]
    split <;> simp
  | cons entry entries ih =>
    rw [List.foldl_cons, Division.add]
    cases ends : entry.isTerminator with
    | true =>
      have nothing : ∀ entry ∈ ([] : List Entry), entry.isTerminator = false := by simp
      rw [if_pos rfl, ih nothing, List.nil_append,
        List.splitOnP_append_cons_of_forall_mem unterminated entry ends, List.filter_cons,
        Division.flush]
      split <;> simp
    | false =>
      have longer : ∀ other ∈ current ++ [entry], other.isTerminator = false := by
        simpa [or_imp, forall_and] using ⟨unterminated, ends⟩
      rw [if_neg Bool.false_ne_true, ih longer, List.append_assoc, List.singleton_append]

/-- The runs of a list are the pieces that it is split into, without the blank ones. -/
theorem divide_eq (entries : List Entry) :
    divide entries =
      (entries.splitOnP Entry.isTerminator).filter (·.any Entry.isSolid) := by
  have nothing : ∀ entry ∈ ([] : List Entry), entry.isTerminator = false := by simp
  rw [divide, flush_foldl nothing, List.nil_append, List.nil_append]

/-- Without a terminator there is one part, or none if there is nothing in it. -/
theorem divide_unterminated (unterminated : ∀ entry ∈ piece, entry.isTerminator = false) :
    divide piece = if piece.any Entry.isSolid then [piece] else [] := by
  rw [divide_eq, List.splitOnP_eq_singleton unterminated, List.filter_cons, List.filter_nil]

/-- Lists with a terminator between them are divided one by one. -/
theorem divide_append (terminates : terminator.isTerminator = true) (front back : List Entry) :
    divide (front ++ terminator :: back) = divide front ++ divide back := by
  simp only [divide_eq, List.splitOnP_append_cons front back terminates, List.filter_append]

/-- Without marks of an end a list has the runs of the script. -/
theorem divide_map (tokens : List PlacedToken) :
    divide (tokens.map .token) = (runs tokens).map (·.map .token) := by
  have content (piece : List PlacedToken) :
      (piece.map Entry.token).any Entry.isSolid = hasContent piece := List.any_map
  have flat {piece : List PlacedToken}
      (unterminated : ∀ placed ∈ piece, placed.token ≠ .semicolon) :
      ∀ entry ∈ piece.map Entry.token, entry.isTerminator = false := by
    simpa [Entry.isTerminator] using unterminated
  induction tokens using pieces_induction with
  | last piece unterminated =>
    rw [divide_unterminated (flat unterminated), content, runs_unterminated unterminated]
    split <;> rfl
  | step piece terminator rest unterminated terminates ih =>
    have ends : (Entry.token terminator).isTerminator = true := by
      simp [Entry.isTerminator, terminates]
    rw [List.map_append, List.map_cons, divide_append ends,
      divide_unterminated (flat unterminated), content, ih, runs_append unterminated terminates]
    split <;> rfl

end Dividing

section Contents

/-- Around every place in a piece stands the piece. -/
theorem around_piece (unterminated : ∀ entry ∈ piece, entry.isTerminator = false)
    (ends : rest.takeWhile (!Entry.isTerminator ·) = []) (inside : index ≤ piece.length) :
    around (piece ++ rest) index = piece := by
  have flat : ∀ entry ∈ piece, (!entry.isTerminator) = true := by simpa using unterminated
  have before : (piece.take index).rtakeWhile (!Entry.isTerminator ·) = piece.take index :=
    List.rtakeWhile_eq_self_iff.2 fun entry member => flat entry (List.mem_of_mem_take member)
  have behind : (piece.drop index ++ rest).takeWhile (!Entry.isTerminator ·) =
      piece.drop index := by
    rw [List.takeWhile_append_of_pos fun entry member => flat entry (List.mem_of_mem_drop member),
      ends, List.append_nil]
  rw [around, List.take_append_of_le_length inside, List.drop_append_of_le_length inside, before,
    behind, List.take_append_drop]

/-- What stands in front of a terminator is not around a place behind it. -/
theorem rtakeWhile_terminator (terminates : terminator.isTerminator = true)
    (front back : List Entry) :
    (front ++ terminator :: back).rtakeWhile (!Entry.isTerminator ·) =
      back.rtakeWhile (!Entry.isTerminator ·) := by
  induction back using List.reverseRecOn with
  | nil => exact List.rtakeWhile_concat_neg _ _ _ (by simp [terminates])
  | append_singleton back entry ih =>
    rw [← List.cons_append, ← List.append_assoc, List.rtakeWhile_concat, List.rtakeWhile_concat, ih]

/-- What stands behind a terminator is looked at without what stands before it. -/
theorem around_behind (terminates : terminator.isTerminator = true)
    (front rest : List Entry) (index : Nat) :
    around (front ++ terminator :: rest) (front.length + 1 + index) = around rest index := by
  have taken : (front ++ terminator :: rest).take (front.length + 1 + index) =
      front ++ terminator :: rest.take index := by
    rw [Nat.add_assoc, List.take_length_add_append, Nat.add_comm 1, List.take_succ_cons]
  have dropped : (front ++ terminator :: rest).drop (front.length + 1 + index) =
      rest.drop index := by
    rw [Nat.add_assoc, List.drop_length_add_append, Nat.add_comm 1, List.drop_succ_cons]
  rw [around, taken, dropped, rtakeWhile_terminator terminates, around]

/-- Of a piece all entries count, or none. -/
theorem filter_piece (unterminated : ∀ entry ∈ piece, entry.isTerminator = false)
    (ends : rest.takeWhile (!Entry.isTerminator ·) = []) :
    (piece.zipIdx.filter fun (entry, index) =>
        !entry.isTerminator && (around (piece ++ rest) index).any Entry.isSolid).map Prod.fst =
      if piece.any Entry.isSolid then piece else [] := by
  have same : ∀ spot ∈ piece.zipIdx,
      (!spot.1.isTerminator && (around (piece ++ rest) spot.2).any Entry.isSolid) =
        piece.any Entry.isSolid := by
    intro spot member
    have flat := unterminated spot.1 (List.fst_mem_of_mem_zipIdx member)
    have inside : spot.2 < piece.length := List.snd_lt_of_mem_zipIdx member
    rw [flat, around_piece unterminated ends inside.le]
    rfl
  rw [List.filter_congr same]
  cases piece.any Entry.isSolid with
  | true => simp
  | false => simp

theorem contents_unterminated (unterminated : ∀ entry ∈ piece, entry.isTerminator = false) :
    contents piece = if piece.any Entry.isSolid then piece else [] := by
  have nothing : ([] : List Entry).takeWhile (!Entry.isTerminator ·) = [] := List.takeWhile_nil
  have whole := filter_piece unterminated nothing
  rwa [List.append_nil] at whole

/-- The contents of a script are those of its parts in order. -/
theorem contents_append (unterminated : ∀ entry ∈ piece, entry.isTerminator = false)
    (terminates : terminator.isTerminator = true) (rest : List Entry) :
    contents (piece ++ terminator :: rest) =
      (if piece.any Entry.isSolid then piece else []) ++ contents rest := by
  have ends : (terminator :: rest).takeWhile (!Entry.isTerminator ·) = [] := by simp [terminates]
  have behind : ((rest.zipIdx (piece.length + 1)).filter fun (entry, index) =>
      !entry.isTerminator &&
        (around (piece ++ terminator :: rest) index).any Entry.isSolid).map Prod.fst =
      contents rest := by
    rw [List.zipIdx_eq_map_add, List.filter_map, List.map_map]
    simp only [Function.comp_def, around_behind terminates, contents]
  rw [contents, List.zipIdx_append, List.zipIdx_cons, List.filter_append, List.map_append,
    filter_piece unterminated ends, List.filter_cons_of_neg (by simp [terminates]), Nat.zero_add,
    behind]

/-- The runs hold what a list holds between its terminators. -/
theorem flatten_divide (entries : List Entry) : (divide entries).flatten = contents entries := by
  induction entries using parts_induction Entry.isTerminator with
  | last piece unterminated =>
    rw [divide_unterminated unterminated, contents_unterminated unterminated]
    split <;> simp
  | step piece terminator rest unterminated terminates ih =>
    rw [divide_append terminates, divide_unterminated unterminated,
      contents_append unterminated terminates, ← ih]
    split <;> simp

end Contents

/-- The runs of a list of tokens are its pieces that are not blank, as they stand in it; lists with
a terminator between them are divided one by one; and one after another the runs hold the list
without its terminators and its blank pieces. The tokens of a script are divided in this way. -/
theorem divide_eq_pieces (entries : List Entry) :
    divide entries = (entries.splitOnP Entry.isTerminator).filter (·.any Entry.isSolid) ∧
      (∀ front terminator back, entries = front ++ terminator :: back →
        terminator.isTerminator = true → divide entries = divide front ++ divide back) ∧
      (divide entries).flatten = contents entries ∧
      ∀ tokens, entries = tokens.map .token →
        divide entries = (runs tokens).map (·.map .token) := by
  refine ⟨divide_eq entries, ?_, flatten_divide entries, ?_⟩
  · rintro front terminator back rfl terminates
    exact divide_append terminates front back
  · rintro tokens rfl
    exact divide_map tokens

end TableCatalog.Token
