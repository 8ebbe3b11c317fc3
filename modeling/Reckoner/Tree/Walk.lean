import Reckoner.Tree.Basic

/-! # Walking a tree with a list of tasks

A long sum makes a tree as deep as it is long, so the functions that run keep what is still to be
done in a list instead of on the call stack. The main statements say that each walk computes
what the recursion on the tree defines: `value_eq_eval`, `written_eq_text` and
`matching_eq_alike`.
-/

namespace Reckoner.Tree

/-! ## Value -/

/-- A pending piece of work of an evaluation. -/
inductive EvalTask where
  | visit (tree : Tree)
  | apply (op : Operator)

/-- What the tasks cost: visiting a node leaves two visits and an application to be done. -/
def EvalTask.cost : EvalTask → Nat
  | .visit tree => 2 * tree.size
  | .apply _ => 1

/-- Carries out the tasks on a stack of values, the latest first. There is no answer if an operator
finds fewer than two values. -/
def runEval : List EvalTask → List Float → Option (List Float)
  | [], values => some values
  | .visit (.leaf value) :: tasks, values => runEval tasks (value :: values)
  | .visit (.node op left right) :: tasks, values =>
    runEval (.visit left :: .visit right :: .apply op :: tasks) values
  | .apply op :: tasks, right :: left :: values => runEval tasks (op.compute left right :: values)
  | .apply _ :: _, _ => none
termination_by tasks => tasks.foldr (fun task others => task.cost + others) 0
decreasing_by
  all_goals simp [EvalTask.cost, size]
  omega

/-- The value of a tree, from the top of the stack that is left. -/
def value (tree : Tree) : Float :=
  match runEval [.visit tree] [] with
  | some (result :: _) => result
  | _ => 0.0 / 0.0

/-- To visit a tree is to push its value. -/
theorem runEval_visit (tree : Tree) (tasks : List EvalTask) (values : List Float) :
    runEval (.visit tree :: tasks) values = runEval tasks (tree.eval :: values) := by
  induction tree generalizing tasks values with
  | leaf value => rw [runEval, eval]
  | node op left right left_ih right_ih =>
    rw [runEval, left_ih, right_ih, runEval, eval]

/-- With nothing else to do, the value of the tree is all that is left. -/
theorem runEval_singleton (tree : Tree) : runEval [.visit tree] [] = some [tree.eval] := by
  rw [runEval_visit, runEval]

/-- The value that is computed from a list of tasks is the value of the tree. -/
theorem value_eq_eval (tree : Tree) : tree.value = tree.eval := by
  rw [value, runEval_singleton]

/-! ## Written form -/

/-- A pending piece of a written form. -/
inductive WriteTask where
  | visit (tree : Tree)
  | operator (op : Operator)
  | close

/-- What the tasks cost: visiting a node leaves two visits, an operator and a parenthesis. -/
def WriteTask.cost : WriteTask → Nat
  | .visit tree => 3 * tree.size
  | .operator _ => 1
  | .close => 1

/-- Writes the pieces after what is `done`. -/
def runWrite (done : String) : List WriteTask → String
  | [] => done
  | .visit (.leaf value) :: tasks => runWrite (done ++ Decimal.floatText value) tasks
  | .visit (.node op left right) :: tasks =>
    runWrite (done ++ "(") (.visit left :: .operator op :: .visit right :: .close :: tasks)
  | .operator op :: tasks => runWrite (done ++ " " ++ op.text ++ " ") tasks
  | .close :: tasks => runWrite (done ++ ")") tasks
termination_by tasks => tasks.foldr (fun task others => task.cost + others) 0
decreasing_by
  all_goals simp [WriteTask.cost, size]
  omega

/-- The written form of a tree, from a list of tasks. -/
def written (tree : Tree) : String :=
  runWrite "" [.visit tree]

/-- To visit a tree is to append its text. -/
theorem runWrite_visit (done : String) (tree : Tree) (tasks : List WriteTask) :
    runWrite done (.visit tree :: tasks) = runWrite (done ++ tree.text) tasks := by
  induction tree generalizing done tasks with
  | leaf value => rw [runWrite, text]
  | node op left right left_ih right_ih =>
    rw [runWrite, left_ih, runWrite, right_ih, runWrite, text]
    simp only [String.append_assoc]

/-- The form that is written from a list of tasks is the text of the tree. -/
theorem written_eq_text (tree : Tree) : tree.written = tree.text := by
  rw [written, runWrite_visit, runWrite, String.empty_append]

/-! ## Likeness -/

/-- Whether the two trees of every pending pair are alike. -/
def runMatch : List (Tree × Tree) → Bool
  | [] => true
  | (.leaf first, .leaf second) :: pairs => first == second && runMatch pairs
  | (.node op left right, .node op' left' right') :: pairs =>
    op == op' && runMatch ((left, left') :: (right, right') :: pairs)
  | _ => false
termination_by pairs => pairs.foldr (fun pair others => pair.1.size + others) 0
decreasing_by
  all_goals simp [size]
  omega

/-- Whether two trees are alike, from a list of pairs. -/
def matching (first second : Tree) : Bool :=
  runMatch [(first, second)]

/-- A pair of trees has to be alike before the others are compared. -/
theorem runMatch_cons (first second : Tree) (pairs : List (Tree × Tree)) :
    runMatch ((first, second) :: pairs) = (first.alike second && runMatch pairs) := by
  induction first generalizing second pairs with
  | leaf value =>
    cases second <;> simp [runMatch, alike]
  | node op left right left_ih right_ih =>
    cases second with
    | leaf value => simp [runMatch, alike]
    | node op' left' right' => simp [runMatch, alike, left_ih, right_ih, Bool.and_assoc]

/-- The comparison by a list of pairs is the likeness of the trees. -/
theorem matching_eq_alike (first second : Tree) : first.matching second = first.alike second := by
  rw [matching, runMatch_cons, runMatch, Bool.and_true]

end Reckoner.Tree
