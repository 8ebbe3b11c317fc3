import Reckoner.Grammar.Reading
import Reckoner.Grammar.Fault

/-! # Evaluating an expression in one pass

A machine with a stack of values and a stack of what is pending: operators that wait for their
right operand, and marks for open parentheses. It applies a multiplicative operator as soon as its
right operand is there and an additive one when no multiplicative operator follows.
-/

namespace Reckoner

/-- What a precedence machine has to come back to. -/
inductive Pending where
  | operator (op : Operator)
  | mark
  deriving DecidableEq, Repr

/-- The stacks of a precedence machine and the steps it has made, the latest first. -/
structure PrecedenceMachine (α : Type) where
  values : List α
  pending : List Pending
  made : List (Step α)

namespace PrecedenceMachine

variable {α : Type}

/-- In front of a row nothing is pending. -/
def start : PrecedenceMachine α :=
  ⟨[], [], []⟩

/-- An operand is complete. -/
def push (machine : PrecedenceMachine α) (value : α) : PrecedenceMachine α :=
  { machine with values := value :: machine.values }

/-- An operator or an open parenthesis is to be come back to. -/
def await (machine : PrecedenceMachine α) (entry : Pending) : PrecedenceMachine α :=
  { machine with pending := entry :: machine.pending }

/-- Applies the operator that was put off last, if there is one of this level. -/
def settle (algebra : Algebra α) (level : Precedence) (machine : PrecedenceMachine α) :
    PrecedenceMachine α :=
  match machine.pending, machine.values with
  | .operator op :: pending, right :: left :: values =>
    if op.precedence = level then
      let result := algebra.operation op left right
      ⟨result :: values, pending, ⟨left, op, right, result⟩ :: machine.made⟩
    else machine
  | _, _ => machine

/-- How many parentheses are open. -/
def depth (machine : PrecedenceMachine α) : Nat :=
  machine.pending.count .mark

/-- What a machine ends with: the value of a row that is accepted, and all its steps. -/
structure Halt (α : Type) where
  value? : Option α
  steps : List (Step α)

/-- Stops without a value. -/
def halt (machine : PrecedenceMachine α) : Halt α :=
  ⟨none, machine.made.reverse⟩

/-- Stops at the end of the row, with a value if no parenthesis is open. -/
def finish (machine : PrecedenceMachine α) : Halt α :=
  match machine.pending, machine.values with
  | [], value :: _ => ⟨some value, machine.made.reverse⟩
  | _, _ => machine.halt

mutual

/-- An operand is expected. -/
def beforeOperand (algebra : Algebra α) (machine : PrecedenceMachine α) :
    List Token → Halt α
  | .number n :: rest =>
    afterOperand algebra ((machine.push (algebra.number n)).settle algebra .multiplicative) rest
  | .openParen :: rest =>
    if machine.depth = nestingLimit then machine.halt
    else beforeOperand algebra (machine.await .mark) rest
  | _ => machine.halt

/-- An operand has just ended. -/
def afterOperand (algebra : Algebra α) (machine : PrecedenceMachine α) :
    List Token → Halt α
  | [] => (machine.settle algebra .additive).finish
  | .operator op :: rest =>
    match op.precedence with
    | .multiplicative => beforeOperand algebra (machine.await (.operator op)) rest
    | .additive =>
      beforeOperand algebra ((machine.settle algebra .additive).await (.operator op)) rest
  | .closeParen :: rest =>
    let settled := machine.settle algebra .additive
    match settled.pending with
    | .mark :: pending =>
      afterOperand algebra ({ settled with pending := pending }.settle algebra .multiplicative) rest
    | _ => settled.halt
  | _ => (machine.settle algebra .additive).halt

end

def run (algebra : Algebra α) (tokens : List Token) : Halt α :=
  start.beforeOperand algebra tokens

end PrecedenceMachine

end Reckoner
