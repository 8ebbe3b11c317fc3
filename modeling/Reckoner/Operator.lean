/-! # Numbers and operators

Expressions are evaluated in double-precision floats. An integer becomes the float nearest to
it, the even one of two equally near; from 2^53 on not every integer is a float. An operator is
written by one character and belongs to one level of precedence; on two numbers it is the arithmetic
of these floats. The main statement is `ofSymbol?_eq_some_iff`: a character writes an operator
exactly when it is that operator's symbol.
-/

namespace Reckoner

namespace Number

/-- The float nearest to an integer. The magnitude is rounded and then given its sign, which is
the same as rounding the integer, because rounding to nearest is symmetric. -/
def ofInt64 (n : Int64) : Float :=
  if 0 ≤ n.toInt then n.toInt.toNat.toUInt64.toFloat
  else -(-n.toInt).toNat.toUInt64.toFloat

/-- The least odd integer that is no float, and the even neighbour it becomes. -/
example : ofInt64 9007199254740993 = ofInt64 9007199254740992 := by
  decide +kernel

end Number

/-- How tightly an operator binds: a multiplicative operator before an additive one. -/
inductive Precedence where
  | additive
  | multiplicative
  deriving DecidableEq, Repr

/-- The binary operators of an expression. -/
inductive Operator where
  | add
  | sub
  | mul
  | div
  deriving DecidableEq, Repr

namespace Operator

/-- Every operator, in the order in which a symbol is looked up. -/
def all : List Operator :=
  [.add, .sub, .mul, .div]

/-- The character that writes an operator. Multiplication is the letter `x`, not a star. -/
def symbol : Operator → Char
  | .add => '+'
  | .sub => '-'
  | .mul => 'x'
  | .div => '÷'

/-- The operator that a character writes. -/
def ofSymbol? (c : Char) : Option Operator :=
  all.find? fun op => op.symbol == c

/-- The level of an operator. -/
def precedence : Operator → Precedence
  | .add | .sub => .additive
  | .mul | .div => .multiplicative

/-- The operator on two numbers. Division by zero gives an infinity, or a NaN for zero by
zero, so every operator has a value on all numbers. -/
def compute : Operator → Float → Float → Float
  | .add, left, right => left + right
  | .sub, left, right => left - right
  | .mul, left, right => left * right
  | .div, left, right => left / right

/-- How an operator is shown: its symbol alone. -/
def text (op : Operator) : String :=
  op.symbol.toString

/-- Every operator is found by its symbol. -/
@[simp]
theorem ofSymbol?_symbol (op : Operator) : ofSymbol? op.symbol = some op := by
  cases op <;> decide

/-- A character writes an operator exactly when it is the symbol of this operator. -/
theorem ofSymbol?_eq_some_iff {c : Char} {op : Operator} :
    ofSymbol? c = some op ↔ c = op.symbol := by
  constructor
  · intro found
    have same := List.find?_some found
    exact (eq_of_beq same).symm
  · intro same
    rw [same, ofSymbol?_symbol]

/-- No two operators share a symbol. -/
theorem symbol_injective {first second : Operator} (same : first.symbol = second.symbol) :
    first = second := by
  have found := ofSymbol?_symbol first
  rw [same, ofSymbol?_symbol] at found
  exact (Option.some.inj found).symm

end Operator

end Reckoner
