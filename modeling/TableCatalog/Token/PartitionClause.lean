import TableCatalog.Token

/-!
# Partition clauses of tables

Where a grammar does not know how tables are divided into ranges, lists or hashes, the
clause that says so can be taken out. It begins with `PARTITION BY` outside all
parentheses, after a group in parentheses has been closed, and goes on to the end of
the statement. `PARTITION BY` inside parentheses belongs to a window and stays.
-/

namespace TableCatalog.PartitionClause

/-- Where a scan for partition clauses stands. -/
structure State where
  /-- The parentheses that are open; a closing one too many is passed over. -/
  depth : Nat
  /-- Whether a group in parentheses has been closed in this statement. -/
  grouped : Bool
  /-- Whether a clause is being taken out. -/
  dropping : Bool
  deriving DecidableEq, Repr

/-- The state at the beginning of a script. -/
def State.initial : State :=
  ⟨0, false, false⟩

/-- Whether the next token that is no gap is an unquoted spelling of a keyword. -/
def leadsWith (keyword : String) (tokens : List PlacedToken) : Bool :=
  (tokens.find? fun placed => !placed.token.isGap).any (·.token.isKeyword keyword)

/-- The state in which a token is looked at, `rest` being what follows the token. -/
def State.enter (state : State) (token : Token) (rest : List PlacedToken) : State :=
  match token with
  | .semicolon => if state.depth = 0 then ⟨0, false, false⟩ else state
  | .openParen => { state with depth := state.depth + 1 }
  | .closeParen =>
    { state with
      depth := state.depth - 1
      grouped := state.grouped || state.depth - 1 == 0 }
  | _ =>
    if state.depth = 0 && state.grouped && token.isKeyword "PARTITION" && leadsWith "BY" rest then
      { state with dropping := true }
    else state

/-- The tokens that are kept from a state on. -/
def kept : State → List PlacedToken → List PlacedToken
  | _, [] => []
  | state, placed :: rest =>
    let state := state.enter placed.token rest
    if state.dropping then kept state rest else placed :: kept state rest

/-- A script without its partition clauses; none if it has no such clause. -/
def strip? (tokens : List PlacedToken) : Option (List PlacedToken) :=
  let remaining := kept State.initial tokens
  if remaining.length = tokens.length then none else some remaining

/-- Nothing is added or reordered. -/
theorem kept_sublist (state : State) (tokens : List PlacedToken) :
    (kept state tokens).Sublist tokens := by
  induction tokens generalizing state with
  | nil => exact List.Sublist.refl _
  | cons placed rest ih =>
    rw [kept]
    split
    · exact (ih _).cons placed
    · exact (ih _).cons_cons placed

end TableCatalog.PartitionClause
