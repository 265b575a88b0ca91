/-!
# Schedules

In which order items have their turn that several threads share. The program leaves it open;
all that is known is that every item has its turn once.
-/

namespace TableCatalog

/-- For each number of items the order in which their indices come up. -/
structure Schedule where
  order : Nat → List Nat
  complete : ∀ count, (order count).Perm (List.range count)

namespace Schedule

/-- One item after another, as on a single thread. -/
def inOrder : Schedule where
  order := List.range
  complete count := .refl (List.range count)

/-- The last item first. -/
def reversed : Schedule where
  order count := (List.range count).reverse
  complete count := List.reverse_perm (List.range count)

/-- The items of a list in the order of their turns. -/
def arrange {α : Type} (schedule : Schedule) (items : List α) : List α :=
  (schedule.order items.length).filterMap (items[·]?)

/-- From how many items on they are shared out. -/
def threshold : Nat := 8

/-- The items of a list in the order of their turns, if there are enough to be shared out, and
one after another if not. -/
def shareOut {α : Type} (schedule : Schedule) (items : List α) : List α :=
  if threshold ≤ items.length then schedule.arrange items else items

variable {α β : Type}

theorem filterMap_range (items : List α) :
    (List.range items.length).filterMap (items[·]?) = items := by
  induction items with
  | nil => rfl
  | cons item items ih =>
    rw [List.length_cons, List.range_succ_eq_map, List.filterMap_cons, List.getElem?_cons_zero]
    simpa [List.filterMap_map, Function.comp_def] using ih

/-- A single thread keeps the order. -/
@[simp]
theorem arrange_inOrder (items : List α) : inOrder.arrange items = items :=
  filterMap_range items

/-- No item is lost, and none has its turn twice. -/
theorem arrange_perm (schedule : Schedule) (items : List α) :
    (schedule.arrange items).Perm items := by
  have turns : (schedule.arrange items).Perm (inOrder.arrange items) :=
    (schedule.complete items.length).filterMap _
  rwa [arrange_inOrder] at turns

/-- The order does not depend on what the items are. -/
theorem arrange_map (schedule : Schedule) (f : α → β) (items : List α) :
    schedule.arrange (items.map f) = (schedule.arrange items).map f := by
  simp [arrange, List.map_filterMap]

@[simp]
theorem shareOut_inOrder (items : List α) : inOrder.shareOut items = items := by
  simp [shareOut]

@[simp]
theorem shareOut_nil (schedule : Schedule) : schedule.shareOut ([] : List α) = [] :=
  rfl

/-- Few items are not shared out. -/
theorem shareOut_of_lt (schedule : Schedule) {items : List α} (few : items.length < threshold) :
    schedule.shareOut items = items :=
  if_neg (Nat.not_le.2 few)

theorem shareOut_perm (schedule : Schedule) (items : List α) :
    (schedule.shareOut items).Perm items := by
  unfold shareOut
  split
  · exact schedule.arrange_perm items
  · exact .refl items

theorem shareOut_map (schedule : Schedule) (f : α → β) (items : List α) :
    schedule.shareOut (items.map f) = (schedule.shareOut items).map f := by
  unfold shareOut
  rw [List.length_map]
  split
  · exact schedule.arrange_map f items
  · rfl

end Schedule

end TableCatalog
