import TableCatalog.Token

/-!
# Runs of tokens

A script is divided at its terminators. A run is what stands between two of them; runs
of gaps alone hold no statement and are left out.
-/

namespace TableCatalog.Token

/-- Whether a run holds more than gaps. -/
def hasContent (run : List PlacedToken) : Bool :=
  run.any fun placed => !placed.token.isGap

/-- The pieces between terminators, blank ones included. -/
def pieces : List PlacedToken → List (List PlacedToken)
  | [] => [[]]
  | placed :: rest =>
    if placed.token == .semicolon then [] :: pieces rest
    else
      match pieces rest with
      | [] => [[placed]]
      | first :: others => (placed :: first) :: others

/-- The runs of a script. -/
def runs (tokens : List PlacedToken) : List (List PlacedToken) :=
  (pieces tokens).filter hasContent

/-- There is always a piece. -/
theorem pieces_ne_nil (tokens : List PlacedToken) : pieces tokens ≠ [] := by
  cases tokens with
  | nil => simp [pieces]
  | cons placed rest =>
    rw [pieces]
    split
    · simp
    · split <;> simp

end TableCatalog.Token
