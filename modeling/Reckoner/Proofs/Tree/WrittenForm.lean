import Reckoner.Proofs.Decimal.Distinct
import Reckoner.Proofs.Tree.Rounds

/-! # Written forms are unambiguous

Every node is written in parentheses, and the text of a leaf has neither a blank nor a parenthesis.
So it can be seen where the text of a tree ends, whatever follows it (`Tree.aligned_of_append`). Two
trees are therefore written alike only if they agree node by node (`Tree.written_eq_written_iff`),
although a minus sign stands in front of negative numbers as well as between two operands.
-/

namespace Reckoner

namespace Tree

/-- Two trees have the same shape and the same operators, and their leaves are related one by
one. -/
inductive Aligned (related : Float → Float → Prop) : Tree → Tree → Prop
  | leaf {x y : Float} (here : related x y) : Aligned related (.leaf x) (.leaf y)
  | node {op : Operator} {left right left' right' : Tree} (lefts : Aligned related left left')
      (rights : Aligned related right right') :
      Aligned related (.node op left right) (.node op left' right')

/-! ## Where a text ends -/

/-- A blank or a closing parenthesis. -/
def IsMark (c : Char) : Prop :=
  c = ' ' ∨ c = ')'

/-- What may stand behind a tree: nothing, or a mark and anything. -/
def Follows (rest : List Char) : Prop :=
  ∀ c ∈ rest.head?, IsMark c

theorem follows_nil : Follows [] := by
  simp [Follows]

theorem follows_cons {c : Char} {rest : List Char} (mark : IsMark c) : Follows (c :: rest) := by
  simpa [Follows] using mark

/-- Texts without marks end where something follows. -/
theorem eq_of_append {chars chars' rest rest' : List Char} (unmarked : ∀ c ∈ chars, ¬ IsMark c)
    (unmarked' : ∀ c ∈ chars', ¬ IsMark c) (follows : Follows rest) (follows' : Follows rest')
    (same : chars ++ rest = chars' ++ rest') : chars = chars' ∧ rest = rest' := by
  rcases List.append_eq_append_iff.mp same with ⟨more, rfl, rfl⟩ | ⟨more, rfl, rfl⟩
  · cases more with
    | nil => simp
    | cons c more => exact absurd (follows c rfl) (unmarked' c (by simp))
  · cases more with
    | nil => simp
    | cons c more => exact absurd (follows' c rfl) (unmarked c (by simp))

/-- The text of a leaf has neither a blank nor a parenthesis. -/
theorem notMem_floatText {x : Float} {c : Char} (mark : c = '(' ∨ IsMark c) :
    c ∉ (Decimal.floatText x).toList := by
  intro inside
  have known := Decimal.mem_floatText inside
  rcases mark with rfl | rfl | rfl <;> exact absurd known (by decide)

/-- No leaf is written like the beginning of a node. -/
theorem floatText_append_ne {x : Float} {rest more : List Char} :
    (Decimal.floatText x).toList ++ rest ≠ '(' :: more := by
  intro same
  obtain ⟨first, chars, split⟩ := List.exists_cons_of_ne_nil (Decimal.toList_floatText_ne_nil x)
  rw [split, List.cons_append] at same
  obtain ⟨rfl, -⟩ := List.cons.inj same
  have inside : '(' ∈ (Decimal.floatText x).toList := by
    rw [split]
    exact List.mem_cons_self
  exact notMem_floatText (.inl rfl) inside

/-- **Where a tree ends.** The text of a tree tells the tree up to the texts of its leaves, and it
tells where the tree ends. -/
theorem aligned_of_append {first second : Tree} {rest rest' : List Char} (follows : Follows rest)
    (follows' : Follows rest')
    (same : first.text.toList ++ rest = second.text.toList ++ rest') :
    Aligned (fun x y => Decimal.floatText x = Decimal.floatText y) first second ∧ rest = rest' := by
  -- For the left child of a node, the rest begins with the blank in front of the operator.
  induction first generalizing second rest rest' with
  | leaf x =>
    cases second with
    | leaf y =>
      obtain ⟨shown, rests⟩ := eq_of_append
        (fun _ inside mark => notMem_floatText (.inr mark) inside)
        (fun _ inside mark => notMem_floatText (.inr mark) inside) follows follows' same
      exact ⟨.leaf (String.toList_injective shown), rests⟩
    | node =>
      rw [toList_text_node, List.cons_append] at same
      exact absurd same floatText_append_ne
  | node op left right left_ih right_ih =>
    cases second with
    | leaf y =>
      rw [toList_text_node, List.cons_append] at same
      exact absurd same.symm floatText_append_ne
    | node op' left' right' =>
      simp only [toList_text_node, List.cons_append, List.append_assoc, List.cons.injEq,
        true_and] at same
      obtain ⟨lefts, more⟩ := left_ih (follows_cons (.inl rfl)) (follows_cons (.inl rfl)) same
      obtain ⟨symbol, behind⟩ := List.cons.inj (List.cons.inj more).2
      obtain rfl := Operator.symbol_injective symbol
      obtain ⟨rights, close⟩ := right_ih (follows_cons (.inr rfl)) (follows_cons (.inr rfl))
        (List.cons.inj behind).2
      exact ⟨.node lefts rights, (List.cons.inj close).2⟩

/-- Trees that are written alike are aligned. -/
theorem aligned_of_text_eq {first second : Tree} (same : first.text = second.text) :
    Aligned (fun x y => Decimal.floatText x = Decimal.floatText y) first second := by
  have chars : first.text.toList ++ [] = second.text.toList ++ [] := by rw [same]
  exact (aligned_of_append follows_nil follows_nil chars).1

/-- Aligned trees are written alike. -/
theorem Aligned.text_eq {first second : Tree}
    (aligned : Aligned (fun x y => Decimal.floatText x = Decimal.floatText y) first second) :
    first.text = second.text := by
  induction aligned with
  | leaf here => exact here
  | node _ _ left_ih right_ih => rw [text, text, left_ih, right_ih]

/-- **Unambiguous.** Writing a tree comes to an end, with the text that the recursion on the tree
defines. Two trees are written alike if and only if they have the same shape, the same operators,
and leaves with the same texts. -/
theorem written_eq_written_iff :
    (∀ tree : Tree, ⟨tree.text, []⟩ ∈ StateTransition.eval Writing.next? (.start tree) ∧
      tree.written = tree.text) ∧
    ∀ first second : Tree, first.written = second.written ↔
      Aligned (fun x y => Decimal.floatText x = Decimal.floatText y) first second := by
  refine ⟨fun tree => ⟨Writing.mem_eval_start tree, tree.written_eq_text⟩, ?_⟩
  intro first second
  rw [written_eq_text, written_eq_text]
  exact ⟨aligned_of_text_eq, Aligned.text_eq⟩

/-- The first minus sign is that of a number, the second one an operator. -/
example : (minus (.leaf (-1)) (.leaf (0 / 0))).written = "(-1 - NaN)" := by
  rw [written_eq_text]
  decide +kernel

end Tree

end Reckoner
