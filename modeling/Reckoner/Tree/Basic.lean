import Reckoner.Decimal
import Reckoner.Operator

/-! # Expression trees

A tree has numbers at its leaves and operators at its inner nodes, which have two children each.
Its value, its written form and its likeness to another tree are defined here by recursion on
the tree, the way one reasons about them; `Reckoner.Tree.Walk` computes the same three with a list
of pending tasks, in constant call depth however deep the tree is.
-/

namespace Reckoner

/-- An arithmetic expression without its parentheses. -/
inductive Tree where
  | leaf (value : Float)
  | node (op : Operator) (left right : Tree)
  deriving DecidableEq, Repr

namespace Tree

/-! ## Building -/

/-- A literal. -/
def ofInt64 (n : Int64) : Tree :=
  .leaf (Number.ofInt64 n)

def plus (left right : Tree) : Tree :=
  .node .add left right

def minus (left right : Tree) : Tree :=
  .node .sub left right

def times (left right : Tree) : Tree :=
  .node .mul left right

def dividedBy (left right : Tree) : Tree :=
  .node .div left right

/-! ## Looking at the root -/

/-- Whether a tree is a number alone. -/
def isLeaf : Tree → Bool
  | .leaf _ => true
  | .node .. => false

/-- The operator at the root. -/
def operator? : Tree → Option Operator
  | .leaf _ => none
  | .node op _ _ => some op

/-- The number at a leaf. -/
def value? : Tree → Option Float
  | .leaf value => some value
  | .node .. => none

/-- The operands at the root, the left one first. -/
def children? : Tree → Option (Tree × Tree)
  | .leaf _ => none
  | .node _ left right => some (left, right)

/-! ## Meaning -/

/-- The value of a tree: a leaf is its number, and a node applies its operator. -/
def eval : Tree → Float
  | .leaf value => value
  | .node op left right => op.compute left.eval right.eval

/-- The written form: every inner node is put in parentheses, whatever its precedence. -/
def text : Tree → String
  | .leaf value => Decimal.floatText value
  | .node op left right => "(" ++ left.text ++ " " ++ op.text ++ " " ++ right.text ++ ")"

/-- Same shape, same operators, and leaves that compare equal as floats: a NaN is unlike itself,
and the two zeros are alike. -/
def alike : Tree → Tree → Bool
  | .leaf first, .leaf second => first == second
  | .node op left right, .node op' left' right' =>
    op == op' && left.alike left' && right.alike right'
  | _, _ => false

/-- The number of leaves and inner nodes. -/
def size : Tree → Nat
  | .leaf _ => 1
  | .node _ left right => left.size + right.size + 1

/-- The number of inner nodes on the longest way from the root to a leaf. -/
def height : Tree → Nat
  | .leaf _ => 0
  | .node _ left right => max left.height right.height + 1

/-- The characters of a node: those of its operands around its symbol, in parentheses. -/
theorem toList_text_node (op : Operator) (left right : Tree) :
    (node op left right).text.toList = '(' :: (left.text.toList ++
      ' ' :: op.symbol :: ' ' :: (right.text.toList ++ [')'])) := by
  simp [text, Operator.text]

end Tree

end Reckoner
