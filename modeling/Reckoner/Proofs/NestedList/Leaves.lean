import Reckoner.NestedList

/-! # The leaves of nested lists

The indices that lead from the top of a nested list to one of its items are the path of a leaf.
Reading off the items and collecting them one by one both go through the leaves in the lexicographic
order of their paths (`listsLeaves_items`). How the lists are nested does not show in the result:
the elements of each may stand in its place (`itemsOfAll_of_splices`).
-/

namespace Reckoner.NestedList

variable {α : Type}

/-- The part of a nested list to which a path leads, index by index from the top. -/
def at? : NestedList α → List Nat → Option (NestedList α)
  | nested, [] => some nested
  | .item _, _ :: _ => none
  | .list elements, index :: path => elements[index]?.bind fun element => element.at? path

/-- The items found are those at the ends of the paths, and the paths are all paths to items, each
once and in lexicographic order. -/
structure ListsLeaves (nested : NestedList α) (paths : List (List Nat)) (found : List α) :
    Prop where
  ascending : paths.Pairwise (· < ·)
  complete : ∀ path, path ∈ paths ↔ ∃ value, nested.at? path = some (.item value)
  found : paths.map nested.at? = found.map fun value => some (.item value)

/-! ## Leaves with their paths -/

mutual

/-- The items with their paths, from left to right. -/
def leaves : NestedList α → List (List Nat × α)
  | .item value => [([], value)]
  | .list elements => leavesFrom 0 elements

/-- The items of several nested lists, the first of which stands at an index. -/
def leavesFrom (index : Nat) : List (NestedList α) → List (List Nat × α)
  | [] => []
  | first :: rest =>
    first.leaves.map (fun (path, value) => (index :: path, value)) ++ leavesFrom (index + 1) rest

end

/-- The leaves of a row are those of its elements, with the index of the element in front. -/
theorem mem_leavesFrom_iff {start : Nat} {row : List (NestedList α)} {path : List Nat}
    {value : α} :
    (path, value) ∈ leavesFrom start row ↔
      ∃ index rest element, path = (start + index) :: rest ∧ row[index]? = some element ∧
        (rest, value) ∈ element.leaves := by
  induction row generalizing start with
  | nil => simp [leavesFrom]
  | cons first others ih =>
    rw [leavesFrom, List.mem_append, List.mem_map, ih]
    constructor
    · rintro (⟨⟨rest, other⟩, inside, same⟩ | ⟨index, rest, element, rfl, stands, inside⟩)
      · cases same
        exact ⟨0, rest, first, rfl, rfl, inside⟩
      · exact ⟨index + 1, rest, element, by rw [Nat.add_assoc, Nat.add_comm 1], stands, inside⟩
    · rintro ⟨index, rest, element, rfl, stands, inside⟩
      cases index with
      | zero =>
        obtain rfl : first = element := by simpa using stands
        exact .inl ⟨_, inside, rfl⟩
      | succ index =>
        exact .inr ⟨index, rest, element, by rw [Nat.add_assoc, Nat.add_comm 1],
          by simpa using stands, inside⟩

/-- The leaves are the ends of the paths that lead to items. -/
theorem mem_leaves_iff {nested : NestedList α} {path : List Nat} {value : α} :
    (path, value) ∈ nested.leaves ↔ nested.at? path = some (.item value) := by
  induction path generalizing nested with
  | nil =>
    cases nested with
    | item other => simp [leaves, at?, eq_comm]
    | list elements => simp [leaves, at?, mem_leavesFrom_iff]
  | cons index path ih =>
    cases nested with
    | item other => simp [leaves, at?]
    | list elements =>
      rw [leaves, mem_leavesFrom_iff, at?, Option.bind_eq_some_iff]
      constructor
      · rintro ⟨other, rest, element, same, stands, inside⟩
        obtain ⟨rfl, rfl⟩ : index = other ∧ path = rest := by simpa using same
        exact ⟨element, stands, ih.mp inside⟩
      · rintro ⟨element, stands, leads⟩
        exact ⟨index, path, element, by rw [Nat.zero_add], stands, ih.mpr leads⟩

mutual

/-- Without their paths the leaves are the items. -/
theorem map_snd_leaves (nested : NestedList α) : nested.leaves.map Prod.snd = nested.items := by
  cases nested with
  | item value => rfl
  | list elements => exact map_snd_leavesFrom 0 elements

/-- So are those of several nested lists. -/
theorem map_snd_leavesFrom (start : Nat) (row : List (NestedList α)) :
    (leavesFrom start row).map Prod.snd = itemsOfAll row := by
  cases row with
  | nil => rfl
  | cons first rest =>
    rw [leavesFrom, itemsOfAll, List.map_append, List.map_map, map_snd_leavesFrom, ← map_snd_leaves]
    rfl

end

mutual

/-- From left to right the paths ascend. -/
theorem ascending_leaves (nested : NestedList α) :
    nested.leaves.Pairwise fun first second => first.1 < second.1 := by
  cases nested with
  | item value => exact List.pairwise_singleton _ _
  | list elements => exact ascending_leavesFrom 0 elements

/-- So do the paths into several nested lists, counted on from an index. -/
theorem ascending_leavesFrom (start : Nat) (row : List (NestedList α)) :
    (leavesFrom start row).Pairwise fun first second => first.1 < second.1 := by
  cases row with
  | nil => exact .nil
  | cons first rest =>
    rw [leavesFrom, List.pairwise_append, List.pairwise_map]
    refine ⟨?_, ascending_leavesFrom (start + 1) rest, ?_⟩
    · exact (ascending_leaves first).imp fun ascends =>
        List.cons_lt_cons_iff.mpr (.inr ⟨rfl, ascends⟩)
    · -- All paths into the rest begin with a larger index.
      rintro _ inside ⟨path, value⟩ later
      obtain ⟨⟨before, item⟩, -, rfl⟩ := List.mem_map.mp inside
      obtain ⟨index, path, element, rfl, -⟩ := mem_leavesFrom_iff.mp later
      exact List.cons_lt_cons_iff.mpr (.inl (by omega))

end

/-- **Leaves in order.** Reading off the items goes through the leaves in the lexicographic order of
their paths. -/
theorem listsLeaves_items (nested : NestedList α) :
    nested.ListsLeaves (nested.leaves.map Prod.fst) nested.items where
  ascending := List.pairwise_map.mpr nested.ascending_leaves
  complete := by
    intro path
    simp only [← mem_leaves_iff, List.mem_map, Prod.exists, exists_and_right, exists_eq_right]
  found := by
    rw [← map_snd_leaves, List.map_map, List.map_map]
    refine List.map_congr_left fun ⟨path, value⟩ inside => ?_
    exact mem_leaves_iff.mp inside

/-! ## Splicing -/

/-- A list inside a row, at any depth, is replaced by its elements, in the place where it stood. -/
inductive Splices : List (NestedList α) → List (NestedList α) → Prop where
  | here (before elements after : List (NestedList α)) :
    Splices (before ++ list elements :: after) (before ++ (elements ++ after))
  | inside (before : List (NestedList α)) {elements spliced : List (NestedList α)}
    (after : List (NestedList α)) (deeper : Splices elements spliced) :
    Splices (before ++ list elements :: after) (before ++ list spliced :: after)

/-- The items of a row are those of its elements, joined. -/
theorem itemsOfAll_eq_flatMap (row : List (NestedList α)) :
    itemsOfAll row = row.flatMap items := by
  induction row with
  | nil => rfl
  | cons first rest ih => rw [itemsOfAll, ih, List.flatMap_cons]

/-- **Splicing.** A row has the same items when the elements of a list in it stand in the place of
the list. -/
theorem itemsOfAll_of_splices {row other : List (NestedList α)} (splices : Splices row other) :
    itemsOfAll other = itemsOfAll row := by
  induction splices with
  | here before elements after =>
    simp only [itemsOfAll_eq_flatMap, List.flatMap_append, List.flatMap_cons, items]
  | inside before after deeper ih =>
    simp only [itemsOfAll_eq_flatMap, List.flatMap_append, List.flatMap_cons, items] at ih ⊢
    rw [ih]

/-- **Flattening.** Collecting the items of a row, collecting those of the list that it makes, and
reading them off give the same. All list the items at the leaves, each leaf once, in the
lexicographic order of their paths. So nothing shows of the lists inside: the elements of each may
stand in its place, and an empty list may be left out. What was found before stays in front of what
is collected. -/
theorem flatten_leaves (row : List (NestedList α)) :
    flatten row = (list row).intoFlat ∧
    flatten row = (list row).items ∧
    (∃ paths, (list row).ListsLeaves paths (flatten row)) ∧
    (∀ other, Splices row other → flatten other = flatten row) ∧
    ∀ found : Array α, (collectAll found row).toList = found.toList ++ flatten row ∧
      ((list row).collect found).toList = found.toList ++ (list row).items := by
  have whole := flatten_eq_intoFlat row
  have joined := whole.trans (intoFlat_eq_items (list row))
  refine ⟨whole, joined, ⟨_, joined ▸ listsLeaves_items (list row)⟩, fun other splices => ?_,
    fun found => ⟨?_, toList_collect found (list row)⟩⟩
  · rw [joined, flatten_eq_intoFlat, intoFlat_eq_items, items, items,
      itemsOfAll_of_splices splices]
  · rw [toList_collectAll, joined, items]

/-- Neither an empty list nor the depth of an item shows. -/
example : flatten [item 'a', list [], list [list [item 'b'], item 'c']] = ['a', 'b', 'c'] := by
  rfl

end Reckoner.NestedList
