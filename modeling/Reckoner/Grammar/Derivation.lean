import Reckoner.Lexeme.Basic
import Reckoner.Tree.Basic

/-! # The grammar

Which rows of tokens are expressions, and of which tree, said without any order of reading: a
relation with one rule for every way to build a phrase. The depth of parentheses is a property of
the row alone.
-/

namespace Reckoner

/-- The kinds of phrases. -/
inductive Phrase where
  | sum
  | product
  | primary
  deriving DecidableEq, Repr

/-- A row of tokens is a phrase of some kind and stands for a tree. Longer sums and products are
built by adding an operand on the right, so that they associate to the left. -/
inductive Derives : Phrase → List Token → Tree → Prop where
  | number (value : Int64) : Derives .primary [.number value] (.ofInt64 value)
  | parenthesized {tokens : List Token} {tree : Tree} (inside : Derives .sum tokens tree) :
    Derives .primary (.openParen :: tokens ++ [.closeParen]) tree
  | factor {tokens : List Token} {tree : Tree} (only : Derives .primary tokens tree) :
    Derives .product tokens tree
  | times {op : Operator} {lefts rights : List Token} {left right : Tree}
    (level : op.precedence = .multiplicative) (before : Derives .product lefts left)
    (last : Derives .primary rights right) :
    Derives .product (lefts ++ .operator op :: rights) (.node op left right)
  | term {tokens : List Token} {tree : Tree} (only : Derives .product tokens tree) :
    Derives .sum tokens tree
  | plus {op : Operator} {lefts rights : List Token} {left right : Tree}
    (level : op.precedence = .additive) (before : Derives .sum lefts left)
    (last : Derives .product rights right) :
    Derives .sum (lefts ++ .operator op :: rights) (.node op left right)

/-- Joining a phrase and one more operand with an operator of the level gives a phrase again. -/
def Joins (level : Precedence) (whole part : Phrase) : Prop :=
  ∀ {op : Operator} {lefts rights : List Token} {left right : Tree}, op.precedence = level →
    Derives whole lefts left → Derives part rights right →
      Derives whole (lefts ++ .operator op :: rights) (.node op left right)

/-- How many more parentheses a row opens than it closes. -/
def surplus (tokens : List Token) : Int :=
  tokens.count .openParen - tokens.count .closeParen

/-- No beginning of the row leaves more than `limit` parentheses open. -/
def NestedWithin (limit : Nat) (tokens : List Token) : Prop :=
  ∀ before : List Token, before <+: tokens → surplus before ≤ limit

namespace Derives

/-- Two primaries and an operator between them are a sum, whatever the operator's level. -/
theorem joined {lefts rights : List Token} {left right : Tree}
    (before : Derives .primary lefts left) (op : Operator) (last : Derives .primary rights right) :
    Derives .sum (lefts ++ .operator op :: rights) (.node op left right) := by
  cases level : op.precedence with
  | additive => exact .plus level (.term (.factor before)) (.factor last)
  | multiplicative => exact .term (.times level (.factor before) last)

/-- A phrase closes every parenthesis it opens. -/
theorem surplus_eq_zero {phrase : Phrase} {tokens : List Token} {tree : Tree}
    (derived : Derives phrase tokens tree) : surplus tokens = 0 := by
  induction derived with
  | number => rfl
  | parenthesized _ ih =>
    simp only [surplus, List.cons_append, List.count_cons, List.count_append,
      List.count_nil] at ih ⊢
    simp
    omega
  | factor _ ih => exact ih
  | times _ _ _ before_ih last_ih =>
    simp only [surplus, List.count_cons, List.count_append] at before_ih last_ih ⊢
    simp
    omega
  | term _ ih => exact ih
  | plus _ _ _ before_ih last_ih =>
    simp only [surplus, List.count_cons, List.count_append] at before_ih last_ih ⊢
    simp
    omega

end Derives

end Reckoner
