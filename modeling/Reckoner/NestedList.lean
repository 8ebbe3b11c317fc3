/-! # Nested lists

A nested list is an item or a list of nested lists. Its items are read off from left to right;
how they are nested does not show in the result. The main statement is `intoFlat_eq_items`:
collecting into one growing row and joining the items of the parts give the same list.
-/

namespace Reckoner

/-- Items nested to any depth. -/
inductive NestedList (α : Type) where
  | item (value : α)
  | list (elements : List (NestedList α))

namespace NestedList

variable {α : Type}

instance : Inhabited (NestedList α) :=
  ⟨.list []⟩

mutual

/-- The items, from left to right. -/
def items : NestedList α → List α
  | .item value => [value]
  | .list elements => itemsOfAll elements

/-- The items of several nested lists, one after the other. -/
def itemsOfAll : List (NestedList α) → List α
  | [] => []
  | first :: rest => first.items ++ itemsOfAll rest

end

mutual

/-- Puts the items after those already found. -/
def collect (found : Array α) : NestedList α → Array α
  | .item value => found.push value
  | .list elements => collectAll found elements

/-- Puts the items of several nested lists after those already found. -/
def collectAll (found : Array α) : List (NestedList α) → Array α
  | [] => found
  | first :: rest => collectAll (first.collect found) rest

end

/-- The items of a nested list, collected into a row of their own. -/
def intoFlat (nested : NestedList α) : List α :=
  (nested.collect #[]).toList

/-- The items of a row of nested lists. -/
def flatten (row : List (NestedList α)) : List α :=
  (collectAll #[] row).toList

mutual

/-- Whether two nested lists have the same shape and the same items. -/
def same [BEq α] : NestedList α → NestedList α → Bool
  | .item first, .item second => first == second
  | .list first, .list second => sameAll first second
  | _, _ => false

/-- As many elements on both sides, and the same ones. -/
def sameAll [BEq α] : List (NestedList α) → List (NestedList α) → Bool
  | [], [] => true
  | first :: firsts, second :: seconds => first.same second && sameAll firsts seconds
  | _, _ => false

end

instance [BEq α] : BEq (NestedList α) :=
  ⟨same⟩

mutual

/-- The items of a nested list come behind those already found. -/
theorem toList_collect (found : Array α) (nested : NestedList α) :
    (nested.collect found).toList = found.toList ++ nested.items := by
  cases nested with
  | item value => simp [collect, items]
  | list elements =>
    rw [collect, items]
    exact toList_collectAll found elements

/-- So do the items of several. -/
theorem toList_collectAll (found : Array α) (row : List (NestedList α)) :
    (collectAll found row).toList = found.toList ++ itemsOfAll row := by
  cases row with
  | nil => simp [collectAll, itemsOfAll]
  | cons first rest =>
    rw [collectAll, itemsOfAll, toList_collectAll, toList_collect, List.append_assoc]

end

/-- What is collected into an empty row are the items. -/
theorem intoFlat_eq_items (nested : NestedList α) : nested.intoFlat = nested.items := by
  simp [intoFlat, toList_collect]

/-- Collecting from a row is collecting from the list that it makes. -/
theorem flatten_eq_intoFlat (row : List (NestedList α)) : flatten row = (list row).intoFlat := by
  rw [flatten, intoFlat, collect]

end NestedList

end Reckoner
