import Reckoner.Grammar.Fault
import Reckoner.Tree.Basic

/-! # Reading an expression

An expression is a sum: a chain of products joined by additive operators. A product is a chain of
primaries joined by multiplicative operators, and a primary is a number or a sum in parentheses.
Chains associate to the left. Every reader looks at one lexeme before it takes it and never
gives one back, so the first fault from the left is the one that is reported.

The recursion runs on how many more parentheses may be opened: with none left, an opening
parenthesis is refused.

Reading needs to know two things of its result: what a literal stands for, and what an operator
makes of two operands. An `Algebra` is a choice of both, and the two in use give the expression's
value and its tree; `eval_tree_number` and `eval_tree_operation` say that the value is the
evaluation of the tree, one construct at a time.
-/

namespace Reckoner

/-! ## Meanings of literals and operators -/

/-- A meaning for literals and operators. -/
structure Algebra (α : Type) where
  number : Int64 → α
  operation : Operator → α → α → α

namespace Algebra

/-- Expressions as numbers. -/
def value : Algebra Float where
  number := Number.ofInt64
  operation := Operator.compute

/-- Expressions as trees. -/
def tree : Algebra Tree where
  number := Tree.ofInt64
  operation := .node

/-- The tree of a literal has the value of the literal. -/
@[simp]
theorem eval_tree_number (n : Int64) : (tree.number n).eval = value.number n :=
  rfl

/-- The tree of an operation has the value of the operation on the values of its parts. -/
@[simp]
theorem eval_tree_operation (op : Operator) (left right : Tree) :
    (tree.operation op left right).eval = value.operation op left.eval right.eval :=
  rfl

end Algebra

/-- One application of an operator in the course of reading. -/
structure Step (α : Type) where
  left : α
  operator : Operator
  right : α
  result : α
  deriving DecidableEq, Repr

namespace Step

/-- The same step under another meaning of its parts. -/
def map {α β : Type} (f : α → β) (step : Step α) : Step β :=
  ⟨f step.left, step.operator, f step.right, f step.result⟩

/-- A step as the journal shows it. -/
def text (step : Step Float) : String :=
  Decimal.floatText step.left ++ " " ++ step.operator.text ++ " " ++
    Decimal.floatText step.right ++ " = " ++ Decimal.floatText step.result

end Step

/-! ## Rules -/

/-- What a reader makes of the front of a row of `length` lexemes: a value and the rest of the row,
which is shorter, or a fault. Either way it hands on the steps made so far, the latest first. -/
inductive Reading (α : Type) (length : Nat) where
  | read (value : α) (rest : List Lexeme) (shorter : rest.length < length)
    (made : List (Step α))
  | failed (fault : Fault) (made : List (Step α))

/-- A reader of some part of an expression, given the steps made before it. -/
abbrev Rule (α : Type) :=
  List (Step α) → (row : List Lexeme) → Reading α row.length

namespace Rule

variable {α : Type}

/-- Goes on with a chain whose operands so far have been folded into `left`: as long as an operator
of the level follows, one more operand is read and joined on the right. -/
def chainFrom (algebra : Algebra α) (level : Precedence) (operand : Rule α) {length : Nat}
    (left : α) (made : List (Step α)) (row : List Lexeme) (shorter : row.length < length) :
    Reading α length :=
  match row, shorter with
  | [], shorter => .read left [] shorter made
  | lexeme :: rest, shorter =>
    match lexeme.token.operatorAt? level with
    | some op =>
      match operand made rest with
      | .read right after consumed made =>
        let result := algebra.operation op left right
        chainFrom algebra level operand result (⟨left, op, right, result⟩ :: made) after
          (by simp only [List.length_cons] at shorter; omega)
      | .failed fault made => .failed fault made
    | none => .read left (lexeme :: rest) shorter made
termination_by row.length
decreasing_by
  simp only [List.length_cons]
  omega

/-- A chain of operands joined by the operators of one level. -/
def chain (algebra : Algebra α) (level : Precedence) (operand : Rule α) : Rule α :=
  fun made row =>
    match operand made row with
    | .read left rest shorter made => chainFrom algebra level operand left made rest shorter
    | .failed fault made => .failed fault made

/-- Ends a parenthesis whose inside has been read: its closing counterpart comes next, or the
parenthesis is at fault. -/
def close (finish opened : Location) (value : α) (made : List (Step α)) {length : Nat}
    (row : List Lexeme) (shorter : row.length < length) : Reading α length :=
  match row, shorter with
  | [], _ => .failed (.unclosedParenthesis opened .endOfInput finish) made
  | lexeme :: rest, shorter =>
    match lexeme.token with
    | .closeParen => .read value rest (by simp only [List.length_cons] at shorter; omega) made
    | found => .failed (.unclosedParenthesis opened found lexeme.location) made

/-- A number, or whatever `inside` reads in parentheses; without `inside` no parenthesis may be
opened. The row ends at `finish`. -/
def operand (algebra : Algebra α) (finish : Location) (inside : Option (Rule α)) : Rule α :=
  fun made row =>
    match row with
    | [] => .failed (.operandExpected .endOfInput finish) made
    | lexeme :: rest =>
      match lexeme.token with
      | .number n => .read (algebra.number n) rest (by simp) made
      | .openParen =>
        match inside with
        | none => .failed (.nestingTooDeep nestingLimit lexeme.location) made
        | some inside =>
          match inside made rest with
          | .read value after shorter made =>
            close finish lexeme.location value made after
              (by simp only [List.length_cons]; omega)
          | .failed fault made => .failed fault made
      | found => .failed (.operandExpected found lexeme.location) made

/-- A sum in which at most `room` parentheses may be open at once. -/
def sum (algebra : Algebra α) (finish : Location) : (room : Nat) → Rule α
  | 0 => chain algebra .additive (chain algebra .multiplicative (operand algebra finish none))
  | room + 1 =>
    chain algebra .additive
      (chain algebra .multiplicative (operand algebra finish (some (sum algebra finish room))))

/-- What may stand in a parenthesis that is opened with `room` left. -/
def inside (algebra : Algebra α) (finish : Location) : (room : Nat) → Option (Rule α)
  | 0 => none
  | room + 1 => some (sum algebra finish room)

/-- A number or a sum in parentheses. -/
def primary (algebra : Algebra α) (finish : Location) (room : Nat) : Rule α :=
  operand algebra finish (inside algebra finish room)

/-- A chain of primaries joined by multiplicative operators. -/
def product (algebra : Algebra α) (finish : Location) (room : Nat) : Rule α :=
  chain algebra .multiplicative (primary algebra finish room)

/-- A sum is a chain of products joined by additive operators. -/
theorem sum_eq_chain (algebra : Algebra α) (finish : Location) (room : Nat) :
    sum algebra finish room = chain algebra .additive (product algebra finish room) := by
  cases room <;> rfl

end Rule

/-- The end of a reading: what the whole row means, or the fault it has, and the operators applied
on the way, in the order of their application. -/
structure Outcome (α : Type) where
  result : Except Fault α
  steps : List (Step α)

/-- Reads a row of lexemes as one expression. The parentheses are counted before anything is
read, and nothing may follow the expression. -/
def Lexemes.read {α : Type} (row : Lexemes) (algebra : Algebra α) : Outcome α :=
  let opening := row.count (· == .openParen)
  let closing := row.count (· == .closeParen)
  if opening ≠ closing then
    ⟨.error (.unmatchedParentheses opening closing), []⟩
  else
    match Rule.sum algebra row.finish nestingLimit [] row.body with
    | .read value [] _ made => ⟨.ok value, made.reverse⟩
    | .read _ (found :: _) _ made =>
      ⟨.error (.trailingInput found.token found.location), made.reverse⟩
    | .failed fault made => ⟨.error fault, made.reverse⟩

end Reckoner
