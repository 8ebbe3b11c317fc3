import Reckoner.Proofs.Reading.InOrder
import Reckoner.Proofs.Reading.Reprinting
import Reckoner.Proofs.Reading.RoundTrip
import Reckoner.Proofs.Tree.WrittenForm

/-! # Likeness

Two trees are alike when they agree node by node, their leaves being compared as floats
(`Tree.matching_iff_aligned`). A NaN is unlike itself and the two zeros are alike, so likeness is
neither reflexive nor does it preserve values: divided by one zero and the other, a number gives
different infinities. The leaves of a tree that was read are neither NaNs nor have they a sign
(`Tree.isUnsigned_of_treeOf`), and among such trees likeness is identity (`Tree.likeness_of_trees`).
-/

namespace Reckoner

namespace Tree

/-! ## Aligned trees -/

namespace Aligned

variable {related : Float → Float → Prop} {first second third : Tree}

/-- Trees that are aligned are aligned the other way round. -/
theorem symm (aligned : Aligned related first second)
    (turn : ∀ x y, related x y → related y x) : Aligned related second first := by
  induction aligned with
  | leaf here => exact .leaf (turn _ _ here)
  | node _ _ left_ih right_ih => exact .node left_ih right_ih

/-- Trees that are aligned with the same tree are aligned. -/
theorem trans (aligned : Aligned related first second) (next : Aligned related second third)
    (join : ∀ x y z, related x y → related y z → related x z) :
    Aligned related first third := by
  induction aligned generalizing third with
  | leaf here =>
    cases next with
    | leaf there => exact .leaf (join _ _ _ here there)
  | node _ _ left_ih right_ih =>
    cases next with
    | node lefts rights => exact .node (left_ih lefts) (right_ih rights)

/-- A tree is aligned with itself exactly if each of its leaves is related to itself. -/
theorem refl_iff {tree : Tree} : Aligned related tree tree ↔ ∀ x ∈ tree.leaves, related x x := by
  induction tree with
  | leaf value =>
    constructor
    · rintro ⟨here⟩
      simpa [leaves] using here
    · intro all
      exact .leaf (all value (by simp [leaves]))
  | node op left right left_ih right_ih =>
    simp only [leaves, List.mem_append, or_imp, forall_and, ← left_ih, ← right_ih]
    constructor
    · rintro (_ | ⟨lefts, rights⟩)
      exact ⟨lefts, rights⟩
    · rintro ⟨lefts, rights⟩
      exact .node lefts rights

/-- Aligned trees are the same if related leaves are. -/
theorem eq_of_leaves (aligned : Aligned related first second)
    (same : ∀ x ∈ first.leaves, ∀ y ∈ second.leaves, related x y → x = y) : first = second := by
  induction aligned with
  | leaf here => rw [same _ (by simp [leaves]) _ (by simp [leaves]) here]
  | node _ _ left_ih right_ih =>
    simp only [leaves, List.mem_append] at same
    rw [left_ih fun x inside y inside' => same x (.inl inside) y (.inl inside'),
      right_ih fun x inside y inside' => same x (.inr inside) y (.inr inside')]

end Aligned

/-- The written form tells the tree. -/
theorem text_injective {first second : Tree} (same : first.text = second.text) :
    first = second := by
  apply (aligned_of_text_eq same).eq_of_leaves
  intro _ _ _ _ shown
  exact Decimal.floatText_inj shown

/-! ## Likeness -/

/-- Trees are alike exactly if they are aligned with leaves that compare equal. -/
theorem matching_iff_aligned {first second : Tree} :
    first.matching second = true ↔ Aligned (fun x y => (x == y) = true) first second := by
  rw [matching_eq_alike]
  constructor
  · intro alike
    induction first generalizing second with
    | leaf x =>
      cases second with
      | leaf y => exact .leaf alike
      | node => cases alike
    | node op left right left_ih right_ih =>
      cases second with
      | leaf => cases alike
      | node op' left' right' =>
        simp only [Tree.alike, Bool.and_eq_true, beq_iff_eq] at alike
        obtain ⟨⟨rfl, lefts⟩, rights⟩ := alike
        exact .node (left_ih lefts) (right_ih rights)
  · intro aligned
    induction aligned with
    | leaf here => exact here
    | node _ _ left_ih right_ih => simp [Tree.alike, left_ih, right_ih]

/-- Likeness holds both ways. -/
theorem matching_symm {first second : Tree} (alike : first.matching second = true) :
    second.matching first = true := by
  rw [matching_iff_aligned] at alike ⊢
  exact alike.symm fun _ _ same => Binary.beq_iff.mpr (Binary.beq_iff.mp same).symm

/-- Likeness is handed on. -/
theorem matching_trans {first second third : Tree} (alike : first.matching second = true)
    (next : second.matching third = true) : first.matching third = true := by
  rw [matching_iff_aligned] at alike next ⊢
  exact alike.trans next fun _ _ _ same there =>
    Binary.beq_iff.mpr ((Binary.beq_iff.mp same).trans (Binary.beq_iff.mp there))

/-- A tree is like itself exactly if none of its leaves is a NaN. -/
theorem matching_self_iff {tree : Tree} :
    tree.matching tree = true ↔ ∀ x ∈ tree.leaves, x.isNaN = false := by
  rw [matching_iff_aligned, Aligned.refl_iff]
  apply forall₂_congr
  intro x _
  rw [Binary.beq_iff, Binary.Equals.refl_iff, ne_eq, ← Binary.isNaN_iff, Bool.not_eq_true]

/-- The two zeros are alike, and what is divided by them is not. -/
example :
    (dividedBy (ofInt64 1) (.leaf 0)).matching (dividedBy (ofInt64 1) (.leaf (-0))) = true ∧
      (dividedBy (ofInt64 1) (.leaf 0)).value ≠ (dividedBy (ofInt64 1) (.leaf (-0))).value := by
  rw [matching_eq_alike, value_eq_eval, value_eq_eval]
  decide +kernel

/-! ## Trees that were read -/

/-- Every leaf is a stop on the way through the tree. -/
theorem number_mem_inOrder {tree : Tree} {x : Float} (inside : x ∈ tree.leaves) :
    .number x ∈ tree.inOrder := by
  induction tree with
  | leaf value => simpa [leaves, inOrder] using inside
  | node op left right left_ih right_ih =>
    rw [inOrder, List.mem_append, List.mem_cons]
    rcases List.mem_append.mp inside with left | right
    · exact .inl (left_ih left)
    · exact .inr (.inr (right_ih right))

/-- Every leaf stands for a number of the text. -/
theorem exists_number_of_treeOf {text : String} {tree : Tree} (success : treeOf text = .ok tree) :
    ∀ x ∈ tree.leaves, ∃ n : Int64, 0 ≤ n.toInt ∧ Number.ofInt64 n = x := by
  intro x inside
  obtain ⟨row, scanned, derived, -⟩ := treeOf_eq_ok_iff.mp success
  have stop := number_mem_inOrder inside
  rw [derived.inOrder_eq] at stop
  obtain ⟨token, known, stands⟩ := List.mem_filterMap.mp stop
  obtain ⟨n, rfl, same⟩ := Token.stop?_eq_number stands
  exact ⟨n, (Lexemes.isWritable_of_scan scanned _ known).nonnegative n rfl, same⟩

/-- The leaves of a tree that was read are the floats of numbers without a sign. -/
theorem isUnsigned_of_treeOf {text : String} {tree : Tree} (success : treeOf text = .ok tree) :
    ∀ x ∈ tree.leaves, (Binary.ofFloat x).IsUnsigned := by
  intro x inside
  obtain ⟨n, nonnegative, rfl⟩ := exists_number_of_treeOf success x inside
  exact Binary.isUnsigned_ofInt64 nonnegative

/-- Trees that were read are alike only if they are the same. -/
theorem matching_iff_eq_of_treeOf {text text' : String} {first second : Tree}
    (success : treeOf text = .ok first) (success' : treeOf text' = .ok second) :
    first.matching second = true ↔ first = second := by
  constructor
  · intro alike
    apply (matching_iff_aligned.mp alike).eq_of_leaves
    intro x inside y inside' same
    exact Binary.eq_of_beq_of_isUnsigned (isUnsigned_of_treeOf success x inside)
      (isUnsigned_of_treeOf success' y inside') same
  · rintro rfl
    rw [matching_iff_aligned, Aligned.refl_iff]
    intro x inside
    rw [Binary.beq_iff, Binary.Equals.refl_iff]
    exact (isUnsigned_of_treeOf success x inside).ne_undefined

/-- **Likeness.** The comparison comes to an end, and finds exactly the trees alike that have the
same shape, the same operators and leaves that are equal as floats. So likeness is symmetric and
transitive, and the trees that are like themselves are those without a NaN. Trees that were read are
alike if and only if they are the same, and if and only if they are written alike; then they have
the same value. -/
theorem likeness_of_trees :
    (∀ first second : Tree,
      (∃ last ∈ StateTransition.eval Comparison.next? [(first, second)],
        first.matching second = last.isEmpty) ∧
      (first.matching second = true ↔ Aligned (fun x y => (x == y) = true) first second)) ∧
    (∀ first second : Tree, first.matching second = true → second.matching first = true) ∧
    (∀ first second third : Tree, first.matching second = true → second.matching third = true →
      first.matching third = true) ∧
    (∀ tree : Tree, tree.matching tree = true ↔ ∀ x ∈ tree.leaves, x.isNaN = false) ∧
    ∀ text text' first second, treeOf text = .ok first → treeOf text' = .ok second →
      (first.matching second = true ↔ first = second) ∧
      (first.matching second = true ↔ first.written = second.written) ∧
      (first.matching second = true → first.value = second.value) := by
  refine ⟨fun first second => ⟨Comparison.exists_mem_eval first second, matching_iff_aligned⟩,
    fun _ _ => matching_symm, fun _ _ _ => matching_trans, fun _ => matching_self_iff, ?_⟩
  intro text text' first second success success'
  have identity := matching_iff_eq_of_treeOf success success'
  refine ⟨identity, ?_, fun alike => congrArg value (identity.mp alike)⟩
  rw [identity, written_eq_text, written_eq_text]
  exact ⟨congrArg Tree.text, text_injective⟩

/-- Neither blanks nor leading zeros are seen in the tree. -/
theorem likeness_of_trees_of_two_spellings :
    ∃ first second, treeOf "1+2" = .ok first ∧ treeOf " 01 + 2" = .ok second ∧
      first.matching second = true ∧
      (first.matching second = true ↔ first.written = second.written) ∧
      first.value = second.value := by
  have success : treeOf "1+2" = .ok (plus (ofInt64 1) (ofInt64 2)) := by decide +kernel
  have success' : treeOf " 01 + 2" = .ok (plus (ofInt64 1) (ofInt64 2)) := by decide +kernel
  obtain ⟨-, -, -, -, reading⟩ := likeness_of_trees
  obtain ⟨identity, written, values⟩ := reading _ _ _ _ success success'
  have alike := identity.mpr rfl
  exact ⟨_, _, success, success', alike, written, values alike⟩

end Tree

end Reckoner
