import Reckoner.Proofs.Reading.Grammar
import Reckoner.Proofs.Scanning.Parentheses

/-! # Trees from left to right

Walking through the tree of a text from left to right, one comes by its numbers and operators in
the order of the text (`Derives.inOrder_eq`). Where there are no parentheses, the grammar can be
said without rules: a row has the tree in which no operator is below one that binds tighter, and
operators of one level lean to the left (`derives_iff_isLayered`). The order and these layers
determine the tree.
-/

namespace Reckoner

/-- What a walk through a tree comes by: the number of a leaf, or the operator of a node. -/
inductive Stop where
  | number (value : Float)
  | operator (op : Operator)
  deriving DecidableEq, Repr

/-- The stop that a token stands for. Parentheses stand for none. -/
def Token.stop? : Token → Option Stop
  | .number value => some (.number (Number.ofInt64 value))
  | .operator op => some (.operator op)
  | .openParen | .closeParen | .endOfInput => none

/-- A number at a stop comes from a literal. -/
theorem Token.stop?_eq_number {token : Token} {value : Float}
    (stands : token.stop? = some (.number value)) :
    ∃ n, token = .number n ∧ Number.ofInt64 n = value := by
  cases token with
  | number n => exact ⟨n, rfl, by simpa [stop?] using stands⟩
  | _ => simp [stop?] at stands

/-- An operator at a stop comes from itself. -/
theorem Token.stop?_eq_operator {token : Token} {op : Operator}
    (stands : token.stop? = some (.operator op)) : token = .operator op := by
  cases token <;> simp_all [stop?]

namespace Tree

/-- The stops of a tree: those of the left child, the operator, those of the right child. -/
def inOrder : Tree → List Stop
  | .leaf value => [.number value]
  | .node op left right => left.inOrder ++ .operator op :: right.inOrder

/-- The root is a node with an additive operator. -/
def IsAdditive : Tree → Prop
  | .leaf _ => False
  | .node op _ _ => op.precedence = .additive

/-- A leaf is not additive. -/
theorem not_isAdditive_of_isLeaf {tree : Tree} (leaf : tree.isLeaf = true) :
    ¬ tree.IsAdditive := by
  cases tree with
  | leaf value => exact not_false
  | node => cases leaf

/-- What may stand below an operator that is not told by parentheses what its operands are. -/
structure Layered (op : Operator) (left right : Tree) : Prop where
  factors : op.precedence = .multiplicative → ¬ left.IsAdditive ∧ ¬ right.IsAdditive
  lastFactor : op.precedence = .multiplicative → right.isLeaf = true
  lastTerm : op.precedence = .additive → ¬ right.IsAdditive

/-- Every node of the tree is layered. -/
def IsLayered : Tree → Prop
  | .leaf _ => True
  | .node op left right => Layered op left right ∧ left.IsLayered ∧ right.IsLayered

/-- The trees of phrases of some kind, where there are no parentheses. -/
def Fits (tree : Tree) : Phrase → Prop
  | .primary => tree.isLeaf = true
  | .product => ¬ tree.IsAdditive
  | .sum => True

end Tree

namespace Derives

variable {phrase : Phrase} {tokens : List Token} {tree : Tree}

/-- **Order.** The tree of a row has the numbers and operators of the row, in their order. -/
theorem inOrder_eq (derived : Derives phrase tokens tree) :
    tree.inOrder = tokens.filterMap Token.stop? := by
  induction derived with
  | number value => rfl
  | parenthesized _ ih => simp [ih, List.filterMap_cons, Token.stop?]
  | factor _ ih => exact ih
  | times _ _ _ before_ih last_ih => simp [Tree.inOrder, before_ih, last_ih, Token.stop?]
  | term _ ih => exact ih
  | plus _ _ _ before_ih last_ih => simp [Tree.inOrder, before_ih, last_ih, Token.stop?]

/-- Without parentheses every token stands for a stop of the tree. -/
theorem map_stop? (derived : Derives phrase tokens tree) (flat : Token.openParen ∉ tokens) :
    tokens.map Token.stop? = tree.inOrder.map some := by
  induction derived with
  | number value => rfl
  | parenthesized => simp at flat
  | factor _ ih => exact ih flat
  | times _ _ _ before_ih last_ih =>
    simp only [List.mem_append, List.mem_cons, not_or] at flat
    simp [Tree.inOrder, before_ih flat.1, last_ih flat.2.2, Token.stop?]
  | term _ ih => exact ih flat
  | plus _ _ _ before_ih last_ih =>
    simp only [List.mem_append, List.mem_cons, not_or] at flat
    simp [Tree.inOrder, before_ih flat.1, last_ih flat.2.2, Token.stop?]

/-- Without parentheses the tree of a phrase is layered, and its root binds as its kind does. -/
theorem isLayered (derived : Derives phrase tokens tree) (flat : Token.openParen ∉ tokens) :
    tree.IsLayered ∧ tree.Fits phrase := by
  induction derived with
  | number value => exact ⟨trivial, rfl⟩
  | parenthesized => simp at flat
  | factor _ ih =>
    obtain ⟨layered, leaf⟩ := ih flat
    exact ⟨layered, Tree.not_isAdditive_of_isLeaf leaf⟩
  | @times op lefts rights left right level _ _ before_ih last_ih =>
    simp only [List.mem_append, List.mem_cons, not_or] at flat
    obtain ⟨left_layered, left_fits⟩ := before_ih flat.1
    obtain ⟨right_layered, right_leaf⟩ := last_ih flat.2.2
    have here : Tree.Layered op left right :=
      ⟨fun _ => ⟨left_fits, Tree.not_isAdditive_of_isLeaf right_leaf⟩, fun _ => right_leaf,
        by simp [level]⟩
    exact ⟨⟨here, left_layered, right_layered⟩, by simp [Tree.Fits, Tree.IsAdditive, level]⟩
  | term _ ih => exact ⟨(ih flat).1, trivial⟩
  | @plus op lefts rights left right level _ _ before_ih last_ih =>
    simp only [List.mem_append, List.mem_cons, not_or] at flat
    obtain ⟨right_layered, right_fits⟩ := last_ih flat.2.2
    have here : Tree.Layered op left right :=
      ⟨by simp [level], by simp [level], fun _ => right_fits⟩
    exact ⟨⟨here, (before_ih flat.1).1, right_layered⟩, trivial⟩

end Derives

/-- A layered tree is derived from the tokens that stand for its stops, as a phrase of every kind
that its root fits. -/
theorem Tree.IsLayered.derives {tree : Tree} {tokens : List Token} (layered : tree.IsLayered)
    (stands : tokens.map Token.stop? = tree.inOrder.map some) {phrase : Phrase}
    (fits : tree.Fits phrase) : Derives phrase tokens tree := by
  induction tree generalizing tokens phrase with
  | leaf value =>
    obtain ⟨token, rfl, number⟩ := List.map_eq_singleton_iff.mp stands
    obtain ⟨n, rfl, rfl⟩ := Token.stop?_eq_number number
    have literal : Derives .primary [.number n] (.leaf (Number.ofInt64 n)) := .number n
    cases phrase with
    | primary => exact literal
    | product => exact .factor literal
    | sum => exact .term (.factor literal)
  | node op left right left_ih right_ih =>
    obtain ⟨here, left_layered, right_layered⟩ := layered
    simp only [inOrder, List.map_append, List.map_cons] at stands
    obtain ⟨lefts, others, rfl, left_stands, more⟩ := List.map_eq_append_iff.mp stands
    obtain ⟨joint, rights, rfl, operator, right_stands⟩ := List.map_eq_cons_iff.mp more
    obtain rfl := Token.stop?_eq_operator operator
    cases level : op.precedence with
    | additive =>
      have before : Derives .sum lefts left := left_ih left_layered left_stands trivial
      have last : Derives .product rights right :=
        right_ih right_layered right_stands (here.lastTerm level)
      cases phrase with
      | primary => cases fits
      | product => exact absurd level fits
      | sum => exact .plus level before last
    | multiplicative =>
      have before : Derives .product lefts left :=
        left_ih left_layered left_stands (here.factors level).1
      have last : Derives .primary rights right :=
        right_ih right_layered right_stands (here.lastFactor level)
      cases phrase with
      | primary => cases fits
      | product => exact .times level before last
      | sum => exact .term (.times level before last)

/-- **Layers.** A row without parentheses has exactly the layered tree whose stops are those of its
tokens. -/
theorem derives_iff_isLayered {tokens : List Token} {tree : Tree}
    (flat : Token.openParen ∉ tokens) :
    Derives .sum tokens tree ↔
      tree.IsLayered ∧ tokens.map Token.stop? = tree.inOrder.map some :=
  ⟨fun derived => ⟨(derived.isLayered flat).1, derived.map_stop? flat⟩,
    fun ⟨layered, stands⟩ => layered.derives stands trivial⟩

/-- **From left to right.** Walking through the tree of a text, one comes by the numbers and the
operators of the text in their order. If the text has no parentheses, no node of the tree has a
child that binds less tightly, and none has a right child that binds as tightly as itself; there is
no other such tree with the same numbers and operators in the same order. -/
theorem inOrder_of_treeOf {text : String} {tree : Tree} (success : treeOf text = .ok tree) :
    ∃ row, Lexemes.scan text = .ok row ∧
      tree.inOrder = row.tokens.filterMap Token.stop? ∧
      ('(' ∉ text.toList → ')' ∉ text.toList → tree.IsLayered ∧
        ∀ other : Tree, other.IsLayered → other.inOrder = tree.inOrder → other = tree) := by
  obtain ⟨row, scanned, derived, -⟩ := treeOf_eq_ok_iff.mp success
  refine ⟨row, scanned, derived.inOrder_eq, fun unopened _ => ?_⟩
  have flat : Token.openParen ∉ row.tokens := by
    rw [← List.count_eq_zero, Lexemes.count_of_tokens?
      (Lexemes.tokens?_eq_some_iff.mpr ⟨row, scanned, rfl⟩)
      (Token.ofSymbol?_eq_some_iff.mpr rfl), List.count_eq_zero]
    exact unopened
  obtain ⟨layered, stands⟩ := (derives_iff_isLayered flat).mp derived
  refine ⟨layered, fun other other_layered same => ?_⟩
  have again : Derives .sum row.tokens other :=
    (derives_iff_isLayered flat).mpr ⟨other_layered, by rw [same, stands]⟩
  exact again.unique derived

/-- Three operators of both levels lean to the left where they can. -/
theorem inOrder_of_treeOf_of_both_levels :
    ∃ tree, treeOf "8 - 6 ÷ 2 - 1" = .ok tree ∧
      '(' ∉ "8 - 6 ÷ 2 - 1".toList ∧ ')' ∉ "8 - 6 ÷ 2 - 1".toList ∧
      tree = .node .sub (.node .sub (.ofInt64 8) (.node .div (.ofInt64 6) (.ofInt64 2)))
        (.ofInt64 1) ∧
      ∃ row, Lexemes.scan "8 - 6 ÷ 2 - 1" = .ok row ∧
        tree.inOrder = row.tokens.filterMap Token.stop? ∧
        ('(' ∉ "8 - 6 ÷ 2 - 1".toList → ')' ∉ "8 - 6 ÷ 2 - 1".toList → tree.IsLayered ∧
          ∀ other : Tree, other.IsLayered → other.inOrder = tree.inOrder → other = tree) := by
  have scanned : Lexemes.scan "8 - 6 ÷ 2 - 1" =
      .ok ⟨[⟨.number 8, ⟨0, 1, 1⟩, "8"⟩, ⟨.operator .sub, ⟨2, 1, 3⟩, "-"⟩,
        ⟨.number 6, ⟨4, 1, 5⟩, "6"⟩, ⟨.operator .div, ⟨6, 1, 7⟩, "÷"⟩,
        ⟨.number 2, ⟨9, 1, 9⟩, "2"⟩, ⟨.operator .sub, ⟨11, 1, 11⟩, "-"⟩,
        ⟨.number 1, ⟨13, 1, 13⟩, "1"⟩], ⟨14, 1, 14⟩⟩ := by
    cbv
  have quotient : Derives .product [.number 6, .operator .div, .number 2] _ :=
    .times rfl (.factor (.number 6)) (.number 2)
  have difference : Derives .sum [.number 8, .operator .sub, .number 6, .operator .div, .number 2]
      _ :=
    .plus rfl (.term (.factor (.number 8))) quotient
  have derived : Derives .sum [.number 8, .operator .sub, .number 6, .operator .div, .number 2,
      .operator .sub, .number 1] _ :=
    .plus rfl difference (.factor (.number 1))
  have success := treeOf_eq_ok_iff.mpr
    ⟨_, scanned, derived, (NestedWithin.count_openParen _).mono (by decide)⟩
  exact ⟨_, success, by decide, by decide, rfl, inOrder_of_treeOf success⟩

end Reckoner
